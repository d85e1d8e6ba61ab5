import PlanarMotion.Proofs.Script.Numerals
import PlanarMotion.Script.Printer

/-!
# Texts and the Tokens They Spell

The tokens of a printed text are found piece by piece. `Spells` says of a piece that,
whatever follows it, its tokens come first and those of the rest behind. Only a number
and a name depend on what follows, and that it ends them is the one condition.

Pieces are put together in two ways. A mark or a blank in front needs nothing of what
comes behind it. A number or a name needs something that ends it, which in a printed text
is always a mark, a space or the end of the line.

## Main definitions

* `tokensOf`: The tokens of a row of characters.
* `Spells`: A text and its tokens, whatever follows.

## Theorems

* `Spells.mark`, `Spells.blank`: Marks and blanks in front of a piece.
* `Spells.thenMark`, `Spells.thenSpace`, `Spells.thenLine`: Two pieces with a mark, a space
  or a line end between them.
* `spells_word`, `spells_number`: Names and numbers spell themselves.
-/

namespace PlanarMotion

namespace Script

open PlanarMotion.Number PlanarMotion.Text

/-- The tokens of a row of characters. -/
def tokensOf (cs : List Char) : List Token :=
  (Token.scan cs).map (·.1)

/-- A text spells tokens if these come first, whatever ends the text. -/
def Spells (cs : List Char) (ts : List Token) : Prop :=
  ∀ rest, Ends rest → tokensOf (cs ++ rest) = ts ++ tokensOf rest

/-- Where no token comes next the scan ends. -/
theorem scan_of_none (cs : List Char) (h : Token.next? cs = none) : Token.scan cs = [] := by
  rw [Token.scan]
  split
  · rfl
  · rename_i hsome
    rw [h] at hsome
    cases hsome

/-- Otherwise it goes on behind the next token. -/
theorem scan_of_some (cs rest : List Char) (t : Token) (h : Token.next? cs = some (t, rest)) :
    Token.scan cs = (t, rest) :: Token.scan rest := by
  rw [Token.scan]
  split
  · rename_i hnone
    rw [h] at hnone
    cases hnone
  · rename_i t' rest' hsome
    rw [h, Option.some.injEq, Prod.mk.injEq] at hsome
    rw [hsome.1, hsome.2]

theorem unread_of_none (cs : List Char) (h : Token.next? cs = none) :
    Token.unread cs = dropBlanks cs := by
  rw [Token.unread, scan_of_none cs h]
  rfl

theorem unread_of_some (cs rest : List Char) (t : Token) (h : Token.next? cs = some (t, rest)) :
    Token.unread cs = Token.unread rest := by
  rw [Token.unread, Token.unread, scan_of_some cs rest t h, List.getLast?_cons]
  cases (Token.scan rest).getLast? with
  | none => rfl
  | some answer => rfl

theorem tokensOf_nil : tokensOf [] = [] := by
  rw [tokensOf, scan_of_none [] rfl, List.map_nil]

theorem Spells.tokensOf_eq (cs : List Char) (ts : List Token) (h : Spells cs ts) :
    tokensOf cs = ts := by
  have hall := h [] ends_nil
  rw [List.append_nil, tokensOf_nil, List.append_nil] at hall
  exact hall

theorem tokensOf_cons (cs rest : List Char) (t : Token) (h : Token.next? cs = some (t, rest)) :
    tokensOf cs = t :: tokensOf rest := by
  rw [tokensOf, scan_of_some cs rest t h, List.map_cons, tokensOf]

/-- A blank in front makes no token. -/
theorem tokensOf_blank (c : Char) (cs : List Char) (h : isBlank c = true) :
    tokensOf (c :: cs) = tokensOf cs := by
  have hnext : Token.next? (c :: cs) = Token.next? cs := by
    rw [Token.next?, Token.next?, dropBlanks, dropBlanks, List.dropWhile_cons_of_pos h]
  -- The scan is by length, so equal first steps have to be carried through its equation.
  rcases hcs : Token.next? cs with _ | ⟨t, rest⟩
  · rw [hcs] at hnext
    rw [tokensOf, tokensOf, scan_of_none _ hcs, scan_of_none _ hnext]
  · rw [hcs] at hnext
    rw [tokensOf_cons _ _ _ hcs, tokensOf_cons _ _ _ hnext]

theorem next?_of_read? (c : Char) (cs rest : List Char) (t : Token) (hblank : isBlank c = false)
    (h : Token.read? (c :: cs) = some (t, rest)) : Token.next? (c :: cs) = some (t, rest) := by
  rw [Token.next?, dropBlanks, List.dropWhile_cons_of_neg (Bool.eq_false_iff.mp hblank)]
  exact h

/-- A mark is a token, whatever follows. -/
theorem tokensOf_mark (m : Mark) (cs : List Char) :
    tokensOf (m.char :: cs) = .mark m :: tokensOf cs := by
  refine tokensOf_cons _ _ _ (next?_of_read? _ _ _ _ ?_ ?_)
  · cases m <;> decide
  · -- No mark begins a numeral or a name, so it comes to the last case.
    have hnumeral : startsNumeral m.char = false := by cases m <;> decide
    have hname : startsName m.char = false := by cases m <;> decide
    rw [Token.read?, if_neg (Bool.eq_false_iff.mp hnumeral), if_neg (Bool.eq_false_iff.mp hname),
      Mark.ofChar?_char]
    rfl

theorem spells_nil : Spells [] [] := by
  intro rest _
  rfl

/-- Two pieces, of which the second ends the first. -/
theorem Spells.append (cs ds : List Char) (ts us : List Token) (hcs : Spells cs ts)
    (hds : Spells ds us) (hends : Ends ds) : Spells (cs ++ ds) (ts ++ us) := by
  intro rest hrest
  rw [List.append_assoc, hcs _ (hends.append _ _ hrest), hds rest hrest, List.append_assoc]

theorem Spells.mark (m : Mark) (cs : List Char) (ts : List Token) (hcs : Spells cs ts) :
    Spells (m.char :: cs) (.mark m :: ts) := by
  intro rest hrest
  rw [List.cons_append, tokensOf_mark, hcs rest hrest, List.cons_append]

theorem Spells.blank (c : Char) (cs : List Char) (ts : List Token) (hcs : Spells cs ts)
    (hblank : isBlank c = true) : Spells (c :: cs) ts := by
  intro rest hrest
  rw [List.cons_append, tokensOf_blank _ _ hblank, hcs rest hrest]

/-- Two pieces with a mark between them; a point might belong to a number. -/
theorem Spells.thenMark (cs ds : List Char) (ts us : List Token) (m : Mark) (hcs : Spells cs ts)
    (hds : Spells ds us) (hm : m ≠ .dot) :
    Spells (cs ++ m.char :: ds) (ts ++ .mark m :: us) := by
  refine hcs.append _ _ _ _ (hds.mark m _ _) ?_
  -- Whether a text ends what is in front of it is decided by its first character alone.
  have hends : Ends [m.char] := by
    cases m with
    | dot => exact absurd rfl hm
    | _ => decide
  exact hends

theorem Spells.thenSpace (cs ds : List Char) (ts us : List Token) (hcs : Spells cs ts)
    (hds : Spells ds us) : Spells (cs ++ ' ' :: ds) (ts ++ us) := by
  have hends : Ends [' '] := by decide
  exact hcs.append _ _ _ _ (hds.blank ' ' _ _ (by decide)) hends

theorem Spells.thenLine (cs ds : List Char) (ts us : List Token) (hcs : Spells cs ts)
    (hds : Spells ds us) : Spells (cs ++ '\n' :: ds) (ts ++ us) := by
  have hends : Ends ['\n'] := by decide
  exact hcs.append _ _ _ _ (hds.blank '\n' _ _ (by decide)) hends

/-- Whether a text is one name. -/
def isName : List Char → Bool
  | [] => false
  | c :: cs => !isBlank c && !startsNumeral c && startsName c && cs.all continuesName

/-- A name spells itself. -/
theorem spells_name (cs : List Char) (h : isName cs = true) :
    Spells cs [.name (String.ofList cs)] := by
  intro rest hrest
  cases cs with
  | nil => exact absurd h Bool.false_ne_true
  | cons c cs =>
      simp only [isName, Bool.and_eq_true, Bool.not_eq_true'] at h
      rcases h with ⟨⟨⟨hblank, hnumeral⟩, hname⟩, hall⟩
      -- The name goes on to its end, and not farther, since what ends it does not continue a name.
      rcases takeWhile_append_eq continuesName cs rest (List.all_eq_true.mp hall)
        hrest.not_continuesName with ⟨htake, hdrop⟩
      rw [List.cons_append]
      refine tokensOf_cons _ _ _ (next?_of_read? _ _ _ _ hblank ?_)
      rw [Token.read?, if_neg (Bool.eq_false_iff.mp hnumeral), if_pos hname, htake, hdrop]

theorem spells_word (w : String) (h : isName w.toList = true) : Spells w.toList [.name w] := by
  have hname := spells_name w.toList h
  rw [String.ofList_toList] at hname
  exact hname

/-- What reads as a numeral whatever ends it spells the number. -/
theorem spells_number (cs : List Char) (x : Float)
    (hstart : cs.head?.any (fun c => !isBlank c && startsNumeral c) = true)
    (h : ∀ rest, Ends rest → ∃ n, Numeral.read? (cs ++ rest) = some (n, rest) ∧ n.value = x) :
    Spells cs [.number x] := by
  intro rest hrest
  rcases h rest hrest with ⟨n, hn, hx⟩
  cases cs with
  | nil => exact absurd hstart Bool.false_ne_true
  | cons c cs =>
      simp only [List.head?_cons, Option.any_some, Bool.and_eq_true, Bool.not_eq_true'] at hstart
      rw [List.cons_append] at hn ⊢
      refine tokensOf_cons _ _ _ (next?_of_read? _ _ _ _ hstart.1 ?_)
      rw [← hx, Token.read?, if_pos hstart.2, hn]
      rfl

end Script

end PlanarMotion
