import PlanarMotion.Script.Numeral
import PlanarMotion.Text.Blank

/-!
# Numbers as Whole Texts

Numbers given as a setting or on the command line fill a text of their own, unlike the
numerals of a program. They are written in ASCII. There may be white space around them,
and single underscores may stand inside.

An integer is read step by step: what may be left out is taken away, and what remains has
to be an integer as written without any choice. A plus sign goes first, then zeros in
front, with the underscores among them, then a fraction of zeros, then underscores. The
order shows: `0__7` is seven, since its underscores stand among zeros in front, while
`1__7` is no integer.

A double may also be infinite or not a number, by name. Its underscores are only taken
away if it cannot be read with them, and then they may stand anywhere.

## Main definitions

* `canonicalInteger?`: An integer as written without any choice.
* `integerOfText?`: An integer that fills a text.
* `doubleOfText?`: A double that fills a text.
-/

namespace PlanarMotion

namespace Text

open PlanarMotion.Number PlanarMotion.Script

/-- An integer as written without any choice: a minus sign if it is below zero, and digits
    of which the first is only zero if it is the only one. Zero may have the sign too. -/
def canonicalInteger? (cs : List Char) : Option Int :=
  let negative := cs.head? == some '-'
  let ds := if negative then cs.drop 1 else cs
  if ds.isEmpty || !ds.all Char.isDigit || (ds.head? == some '0' && 1 < ds.length) then none
  else
    let size : Int := digitsValue ds
    some (if negative then -size else size)

/-- Longer integers are refused. -/
def maximalLength : Nat :=
  4300

/-- A text without a plus sign in front; none if a minus sign follows that. -/
def withoutPlus? : List Char → Option (List Char)
  | '+' :: '-' :: _ => none
  | '+' :: rest => some rest
  | cs => some cs

/-- Whether the part of an integer behind the zeros in front may start with a character. -/
def startsInteger (c : Char) : Bool :=
  c == '-' || (c.isDigit && c != '0')

/-- What zeros in front, and underscores among them, leave of a text. The character in
    front is kept if there are no other digits before the point or the end. -/
def behindZeros? (front : Char) : List Char → Option (List Char)
  | [] => some [front]
  | c :: rest =>
    if c = '0' ∨ c = '_' then behindZeros? c rest
    else if c = '.' then some (front :: c :: rest)
    else if startsInteger c then some (c :: rest)
    else none

/-- A text without the zeros in front. -/
def withoutZeros? : List Char → Option (List Char)
  | [] => none
  | c :: rest =>
    if c = '0' then behindZeros? c rest
    else if startsInteger c then some (c :: rest)
    else none

/-- A text up to its first point, if zeros and nothing else follow that. -/
def withoutZeroFraction (cs : List Char) : List Char :=
  match cs.dropWhile (· != '.') with
  | _ :: zeros =>
    if !zeros.isEmpty && zeros.all (· == '0') then cs.takeWhile (· != '.') else cs
  | [] => cs

/-- A text without its underscores, each of which must stand alone inside it. -/
def ungroup? (cs : List Char) : Option (List Char) :=
  let doubled := (cs.zip (cs.drop 1)).any fun (c, d) => c == '_' && d == '_'
  if cs.head? == some '_' || cs.getLast? == some '_' || doubled then none
  else some (cs.filter (· != '_'))

/-- An integer that fills a text. -/
def integerOfText? (text : String) : Option Int := do
  let unsigned ← withoutPlus? (trimWhiteSpace text.toList)
  let whole := withoutZeroFraction (← withoutZeros? unsigned)
  let cs := (ungroup? whole).getD whole
  if maximalLength < cs.length then none else canonicalInteger? cs

/-- The names of doubles that have no digits, in lower case. -/
def namedDouble? (negative : Bool) (name : List Char) : Option Float :=
  if name = "inf".toList ∨ name = "infinity".toList then some (floatOfWord negative infinityWord)
  else if name = "nan".toList then
    some (floatOfWord negative (infinityWord + wordsPerBinade / 2))
  else none

/-- A double without underscores, with white space around it. -/
def ungroupedDouble? (text : List Char) : Option Float :=
  let cs := trimWhiteSpace text
  let (negative, unsigned) := readSign cs
  if !cs.all fun c => c.toNat < 0x80 then none
  else
    (namedDouble? negative (unsigned.map Char.toLower)).or
      ((readMantissa? unsigned).bind fun (whole, fraction, tail) =>
        let (exponent, rest) := readExponent tail
        if rest.isEmpty then some (Numeral.value ⟨negative, whole, fraction, exponent⟩) else none)

/-- A double that fills a text. -/
def doubleOfText? (text : String) : Option Float :=
  (ungroupedDouble? text.toList).or ((ungroup? text.toList).bind ungroupedDouble?)

end Text

end PlanarMotion
