import PlanarMotion.Script.Numeral
import PlanarMotion.Text.Blank

/-!
# Tokens

The text of a program is a row of numbers, names and punctuation marks between
blanks. Each token is the longest that starts where it does. A character that
starts no token ends the row, and so does the end of the text; a reader cannot
tell the two apart, which is why there is no lexical error.

`Token.scan` keeps, with every token, the text that follows it. Its length is the
token's position seen from the end, so positions need no separate count.

## Main definitions

* `Mark`: The punctuation marks.
* `Token`: A number, a name or a mark.
* `Token.next?`: The first token of a text and the text after it.
* `Token.scan`: All tokens, each with the text after it.
* `Token.ofText`: All tokens of a text.

## Theorems

* `Mark.ofChar?_char`: A mark is found by its character.
* `Token.next?_length_lt`: Every token takes at least one character.
-/

namespace PlanarMotion

namespace Script

open PlanarMotion.Text

/-- The punctuation marks. -/
inductive Mark where
  /-- `(` -/
  | parenOpen
  /-- `)` -/
  | parenClose
  /-- `,` -/
  | comma
  /-- `.` -/
  | dot
  /-- `=` -/
  | equals
  /-- `>` -/
  | greater
  /-- `<` -/
  | less
  /-- `;` -/
  | semicolon
  deriving DecidableEq, Repr

/-- The character of a mark. -/
def Mark.char : Mark → Char
  | .parenOpen => '('
  | .parenClose => ')'
  | .comma => ','
  | .dot => '.'
  | .equals => '='
  | .greater => '>'
  | .less => '<'
  | .semicolon => ';'

/-- All marks. -/
def Mark.all : List Mark :=
  [.parenOpen, .parenClose, .comma, .dot, .equals, .greater, .less, .semicolon]

/-- The mark that a character is. -/
def Mark.ofChar? (c : Char) : Option Mark :=
  Mark.all.find? fun m => m.char == c

/-- A mark is found by its character. -/
theorem Mark.ofChar?_char (m : Mark) : Mark.ofChar? m.char = some m := by
  cases m <;> decide

/-- A number, a name or a punctuation mark. -/
inductive Token where
  /-- A numeral, as the double it denotes. -/
  | number (value : Float)
  /-- A name. -/
  | name (text : String)
  /-- A punctuation mark. -/
  | mark (m : Mark)
  deriving DecidableEq

/-- The characters that start a name: ASCII letters and the underscore. -/
def startsName (c : Char) : Bool :=
  c.isAlpha || c == '_'

/-- The characters that continue a name: ASCII letters, ASCII digits and the underscore. -/
def continuesName (c : Char) : Bool :=
  c.isAlphanum || c == '_'

/-- The characters that start a numeral: digits and signs. A point does not. -/
def startsNumeral (c : Char) : Bool :=
  isDigit c || c == '+' || c == '-'

/-- The token that starts at the first character, and the text after it. -/
def Token.read? : List Char → Option (Token × List Char)
  | [] => none
  | c :: rest =>
    if startsNumeral c then
      -- A sign without digits starts no token, and the scan stops there.
      (Numeral.read? (c :: rest)).map fun (n, tail) => (.number n.value, tail)
    else if startsName c then
      some (.name (String.ofList (c :: rest.takeWhile continuesName)),
        rest.dropWhile continuesName)
    else
      (Mark.ofChar? c).map fun m => (.mark m, rest)

/-- The first token of a text and the text after it. -/
def Token.next? (cs : List Char) : Option (Token × List Char) :=
  Token.read? (dropBlanks cs)

/-- A token takes at least one character. -/
theorem Token.read?_length_lt (cs rest : List Char) (t : Token)
    (h : Token.read? cs = some (t, rest)) : rest.length < cs.length := by
  unfold Token.read? at h
  split at h
  · exact absurd h (by simp only [reduceCtorEq, not_false_eq_true])
  · rename_i c tail
    split at h
    · simp only [Option.map_eq_some_iff, Prod.mk.injEq] at h
      obtain ⟨⟨n, r⟩, hread, _, hrest⟩ := h
      rw [← hrest]
      exact Numeral.read?_length_lt _ _ _ hread
    · split at h
      · simp only [Option.some.injEq, Prod.mk.injEq] at h
        have hle := (List.dropWhile_sublist continuesName (l := tail)).length_le
        rw [← h.2, List.length_cons]
        omega
      · simp only [Option.map_eq_some_iff, Prod.mk.injEq] at h
        obtain ⟨m, _, _, hrest⟩ := h
        rw [← hrest, List.length_cons]
        omega

/-- Every token takes at least one character. -/
theorem Token.next?_length_lt (cs rest : List Char) (t : Token)
    (h : Token.next? cs = some (t, rest)) : rest.length < cs.length := by
  have hlt := Token.read?_length_lt _ _ _ h
  have hle := length_dropBlanks_le cs
  omega

/-- All tokens of a text, each with the text after it. -/
def Token.scan (cs : List Char) : List (Token × List Char) :=
  match _h : Token.next? cs with
  | none => []
  | some (t, rest) => (t, rest) :: Token.scan rest
termination_by cs.length
decreasing_by exact Token.next?_length_lt cs rest t _h

/-- The text at which scanning stops: nothing, or what starts no token. -/
def Token.unread (cs : List Char) : List Char :=
  dropBlanks (((Token.scan cs).getLast?.map (·.2)).getD cs)

/-- All tokens of a text. -/
def Token.ofText (text : String) : List Token :=
  (Token.scan text.toList).map (·.1)

end Script

end PlanarMotion
