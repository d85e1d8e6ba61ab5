import PlanarMotion.Cli.Markup
import PlanarMotion.Text.CellWidth

/-!
# Messages on the Terminal

A message is shown in lines that fit the terminal, which counts in cells. Each of its own
lines is laid out on its own: tabs lead to the next multiple of eight, then the line is
broken in front of words that would leave the terminal, and a word longer than the
terminal is cut. Blanks may stand at the end of a line as far as there is room.

## Main definitions

* `wrap`: A text in lines of at most a given width.
* `messageText?`: What the terminal shows of a message with markup.
-/

namespace PlanarMotion

namespace Cli

open PlanarMotion.Text

/-- The characters that would move or ring the terminal and are not shown: the bell, the
    backspace, the vertical tab, the form feed and the carriage return. -/
def isControl (c : Char) : Bool :=
  [0x07, 0x08, 0x0B, 0x0C, 0x0D].contains c.toNat

/-- The distance between places that tabs lead to. -/
def tabWidth : Nat :=
  8

/-- A line with spaces in place of its tabs, of which each leads to the next place for
    one. The column is the number of cells in front. -/
def expandTabs (column : Nat) : List Char → List Char
  | [] => []
  | c :: rest =>
    if c = '\t' then
      let next := (column / tabWidth + 1) * tabWidth
      List.replicate (next - column) ' ' ++ expandTabs next rest
    else c :: expandTabs (column + cellWidth c) rest

/-- The words of a line, each with the blanks around it that no other word has. The number
    of words is at most the fuel. -/
def wordsFrom : Nat → List Char → List (List Char)
  | 0, _ => []
  | fuel + 1, cs =>
    let lead := cs.takeWhile isBlank
    let afterLead := cs.dropWhile isBlank
    let body := afterLead.takeWhile (!isBlank ·)
    let afterBody := afterLead.dropWhile (!isBlank ·)
    if body.isEmpty then []
    else
      (lead ++ body ++ afterBody.takeWhile isBlank)
        :: wordsFrom fuel (afterBody.dropWhile isBlank)

/-- The piece of a word that has begun, with what follows cut into pieces of a width. -/
def cutWord (width : Nat) (piece : List Char) : List Char → List (List Char)
  | [] => [piece]
  | c :: rest =>
    if cellCount piece + cellWidth c ≤ width then cutWord width (piece ++ [c]) rest
    else piece :: cutWord width [c] rest

/-- Adds a word to the lines so far, of which the first is the last one begun. A word that
    does not fit starts a line, and one longer than a line is cut. -/
def addWord (width : Nat) (lines : List (List Char)) (word : List Char) : List (List Char) :=
  let size := cellCount (dropBlanksRight word)
  match lines with
  | [] => [word]
  | current :: done =>
    if cellCount current + size ≤ width then (current ++ word) :: done
    else
      let begun := if current.isEmpty then done else current :: done
      if width < size then (cutWord width [] word).reverse ++ begun else word :: begun

/-- A line without the blanks at its end, as many as it has characters beyond a width. -/
def cropBlanks (width : Nat) (cs : List Char) : List Char :=
  let blanks := cs.length - (dropBlanksRight cs).length
  cs.take (cs.length - min blanks (cs.length - width))

/-- The cells of a line up to a width. A character of two cells that is cut in half gives
    way to a space. -/
def cropCells (width : Nat) : List Char → List Char
  | [] => []
  | c :: rest =>
    if cellWidth c ≤ width then c :: cropCells (width - cellWidth c) rest
    else List.replicate width ' '

/-- A line in lines of at most a width, broken in front of words. -/
def wrapLine (width : Nat) (cs : List Char) : List (List Char) :=
  let words := wordsFrom (cs.length + 1) cs
  let lines := if words.isEmpty then [cs] else words.foldl (addWord width) [[]]
  lines.reverse.map fun line => cropCells width (cropBlanks width line)

/-- A text in lines of at most a width. -/
def wrap (width : Nat) (text : String) : List String :=
  let shown := String.ofList (text.toList.filter (!isControl ·))
  (shown.splitOn "\n").flatMap fun line =>
    (wrapLine width (expandTabs 0 line.toList)).map String.ofList

/-- What the terminal shows of a message with markup; `none` if the markup is wrong. -/
def messageText? (width : Nat) (message : String) : Option String :=
  (Markup.text? message).map fun text => String.join ((wrap width text).map (· ++ "\n"))

end Cli

end PlanarMotion
