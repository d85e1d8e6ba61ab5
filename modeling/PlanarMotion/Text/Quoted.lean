import PlanarMotion.Text.Printable

/-!
# Quoted Text

Two ways of writing a text between quotes so that it can be read back.

The first is for JSON: ASCII only, with short escapes where there are some and UTF-16
code units in hexadecimal for all else, so that a character beyond `U+FFFF` takes two.

The second is for messages to people: printable characters stand for themselves, and
the quotes are single unless the text has single ones and no double ones.

## Main definitions

* `jsonQuoted`: A text as a JSON string.
* `messageQuoted`: A text as messages show it.
-/

namespace PlanarMotion

namespace Text

/-- The lower-case hexadecimal digits of a number, with zeros in front up to a width. -/
def hex (width n : Nat) : List Char :=
  let ds := Nat.toDigits 16 n
  List.replicate (width - ds.length) '0' ++ ds

/-- The UTF-16 code units of a character: one, or a surrogate pair. -/
def utf16Units (c : Char) : List Nat :=
  if c.toNat < 0x10000 then [c.toNat]
  else
    let offset := c.toNat - 0x10000
    [0xD800 + offset / 0x400, 0xDC00 + offset % 0x400]

/-- A character inside a JSON string. -/
def jsonEscaped (c : Char) : List Char :=
  if c = '"' then ['\\', '"']
  else if c = '\\' then ['\\', '\\']
  else if c = '\n' then ['\\', 'n']
  else if c = '\r' then ['\\', 'r']
  else if c = '\t' then ['\\', 't']
  else if c.toNat = 0x08 then ['\\', 'b']
  else if c.toNat = 0x0C then ['\\', 'f']
  else if 0x20 ≤ c.toNat ∧ c.toNat < 0x7F then [c]
  else (utf16Units c).flatMap fun unit => '\\' :: 'u' :: hex 4 unit

/-- A text as a JSON string. -/
def jsonQuoted (text : String) : String :=
  String.ofList ('"' :: text.toList.flatMap jsonEscaped ++ ['"'])

/-- A character between given quotes in a message. -/
def messageEscaped (quote c : Char) : List Char :=
  if c = quote then ['\\', c]
  else if c = '\\' then ['\\', '\\']
  else if c = '\n' then ['\\', 'n']
  else if c = '\r' then ['\\', 'r']
  else if c = '\t' then ['\\', 't']
  else if isPrintable c then [c]
  else if c.toNat < 0x100 then '\\' :: 'x' :: hex 2 c.toNat
  else if c.toNat < 0x10000 then '\\' :: 'u' :: hex 4 c.toNat
  else '\\' :: 'U' :: hex 8 c.toNat

/-- The single quote. -/
def singleQuote : Char :=
  Char.ofNat 0x27

/-- A text as messages show it. -/
def messageQuoted (text : String) : String :=
  let cs := text.toList
  let quote := if cs.contains singleQuote && !cs.contains '"' then '"' else singleQuote
  String.ofList (quote :: cs.flatMap (messageEscaped quote) ++ [quote])

end Text

end PlanarMotion
