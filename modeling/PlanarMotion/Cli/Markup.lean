import PlanarMotion.Text.Blank
import PlanarMotion.Text.Emoji

/-!
# Markup in Messages

A message for the terminal may style parts of its text with tags, and ask for pictures by
name between colons. The names of files stand in messages as they are, so what looks like
a tag in the name of a file is one.

A tag is a text in square brackets that starts with a small letter, `#`, `/` or `@`. It
opens a style, or with a slash closes the style of that name opened last, or without a
name the style opened last. Styles that are not closed end with the message, but one that
was not opened cannot be closed, and such a message is not shown at all.

Backslashes in front of a tag count in pairs, each of which stands for one. If one is left
over, the tag is plain text. A backslash in front of any other opening bracket vanishes.

No style is shown here, so of a message only its text remains.

## Main definitions

* `Markup.Piece`: Plain text or a tag.
* `Markup.pieces`: The pieces of a message.
* `Markup.text?`: The text of a message; `none` if a style is closed that is not open.
-/

namespace PlanarMotion

namespace Cli

namespace Markup

open PlanarMotion.Text

/-- A piece of a message. -/
inductive Piece where
  /-- Plain text. -/
  | plain (cs : List Char)
  /-- What stands in the brackets of a tag. -/
  | tag (inside : List Char)
  deriving DecidableEq, Repr

/-- Whether a tag may start with a character. -/
def startsTag (c : Char) : Bool :=
  c.isLower || c == '#' || c == '/' || c == '@'

/-- Takes a tag: what stands in its brackets, and the text behind it. -/
def takeTag? : List Char → Option (List Char × List Char)
  | '[' :: c :: rest =>
    let inTag := fun d => d != '[' && d != ']'
    match rest.dropWhile inTag with
    | ']' :: after => if startsTag c then some (c :: rest.takeWhile inTag, after) else none
    | _ => none
  | _ => none

/-- The pieces of a text, behind plain text that was read before and is kept in reverse.
    Every step takes a character at least, so the length of the text is fuel enough. -/
def piecesFrom (before : List Char) : Nat → List Char → List Piece
  | 0, _ => [.plain before.reverse]
  | fuel + 1, cs =>
    let slashes := cs.takeWhile (· == '\\')
    let rest := cs.dropWhile (· == '\\')
    match takeTag? rest, rest with
    | some (inside, after), _ =>
      -- Two slashes stand for one, and an odd one makes the tag plain text.
      let kept := slashes.take (slashes.length / 2)
      let piece := if slashes.length % 2 = 0 then .tag inside else .plain ('[' :: inside ++ [']'])
      .plain before.reverse :: .plain kept :: piece :: piecesFrom [] fuel after
    -- Without a tag the slashes are plain text like the character behind them.
    | none, c :: more => piecesFrom (c :: (slashes ++ before)) fuel more
    | none, [] => [.plain (before.reverse ++ slashes)]

/-- The pieces of a message. -/
def pieces (message : String) : List Piece :=
  piecesFrom [] (message.length + 1) message.toList

/-- A text without the backslashes in front of opening brackets. -/
def dropEscapes : List Char → List Char
  | '\\' :: '[' :: rest => '[' :: dropEscapes rest
  | c :: rest => c :: dropEscapes rest
  | [] => []

/-- A name without an ending, if it has it. -/
def withoutEnding? (ending : String) (name : List Char) : Option (List Char) :=
  let size := name.length - ending.length
  if name.drop size = ending.toList then some (name.take size) else none

/-- The picture that is asked for between colons. An ending asks for its form in colour or
    in black and white, by a character that selects the form. -/
def picture? (asked : List Char) : Option (List Char) :=
  match withoutEnding? "-emoji" asked, withoutEnding? "-text" asked with
  | some name, _ => (emojiOfName? name).map (· ++ [Char.ofNat 0xFE0F])
  | none, some name => (emojiOfName? name).map (· ++ [Char.ofNat 0xFE0E])
  | none, none => emojiOfName? asked

/-- A text with the pictures it asks for. A name that means none stays with its colons, of
    which the second starts no other name. Every step takes a character at least, so the
    length of the text is fuel enough. -/
def withPicturesFrom : Nat → List Char → List Char
  | fuel + 1, c :: rest =>
    let inName := fun d => d != ':' && !isBlank d
    match c, rest.dropWhile inName with
    | ':', ':' :: after =>
      let asked := rest.takeWhile inName
      (picture? asked).getD (':' :: asked ++ [':']) ++ withPicturesFrom fuel after
    | _, _ => c :: withPicturesFrom fuel rest
  | _, cs => cs

/-- What plain text says. -/
def plainText (cs : List Char) : List Char :=
  let cs := dropEscapes cs
  withPicturesFrom (cs.length + 1) cs

/-- The name of a style: in small letters, and in full if it is one of those that may be
    given in short. -/
def styleName (name : List Char) : String :=
  match String.ofList ((trimBlanks name).map smallLetter) with
  | "b" => "bold"
  | "c" => "conceal"
  | "d" => "dim"
  | "i" => "italic"
  | "o" => "overline"
  | "r" => "reverse"
  | "s" => "strike"
  | "u" => "underline"
  | "uu" => "underline2"
  | full => full

/-- The open styles behind a tag, the one opened last in front; `none` if the tag closes a
    style that is not open. What follows an equals sign is no part of a style's name. -/
def follow? (opened : List String) (inside : List Char) : Option (List String) :=
  match inside.takeWhile (· != '=') with
  | '/' :: name =>
    if !(trimBlanks name).isEmpty then
      if opened.contains (styleName name) then some (opened.erase (styleName name)) else none
    -- A tag without a name closes the style opened last.
    else if opened.isEmpty then none
    else some (opened.drop 1)
  | name => some (styleName name :: opened)

/-- The text of pieces in a place where some styles are open. -/
def textFrom? (opened : List String) : List Piece → Option (List Char)
  | [] => some []
  | .plain cs :: rest => (textFrom? opened rest).map (plainText cs ++ ·)
  | .tag inside :: rest => (follow? opened inside).bind fun opened => textFrom? opened rest

/-- The text of a message; `none` if a style is closed that is not open. -/
def text? (message : String) : Option String :=
  (textFrom? [] (pieces message)).map String.ofList

/-- A message in one style. -/
def styled (style text : String) : String :=
  "[" ++ style ++ "]" ++ text ++ "[/" ++ style ++ "]"

end Markup

end Cli

end PlanarMotion
