import PlanarMotion.Proofs.Script.MaximalMunch
import Mathlib.Data.List.DropRight

/-!
# Calling for Token after Token

A reader of programs does not scan a text at once. It asks for one token after the other, and it
stands at a position in the text that each call moves. When there is no token, a call still moves
the position behind the blanks, so it is not clear that asking again changes nothing.

`Tokenizer` is that position and `Tokenizer.next` the call. Each call is one step of the scan, seen
from the text that is left: `call_of_scan` and `call_of_length_le` say so for any number of calls.
What the calls do for a text is then read off the way in which it is taken apart.

## Main definitions

* `Tokenizer`, `Tokenizer.next`, `Tokenizer.call`: A position in a text, a call, and later ones.
* `Munch.ends`: Where lexemes end.
* `Follows`: What the calls do for a text that is taken apart.

## Theorems

* `Tokenizer.next_of_none`, `Tokenizer.call_of_none`: Without a token the tokenizer stays.
* `Tokenizer.call_of_scan`, `Tokenizer.call_of_length_le`: The calls follow the scan.
* `Munches.ends_lt`: The ends of the lexemes increase.
* `exists_unique_munch`: The tokenizer takes a text apart into its longest lexemes.
-/

namespace PlanarMotion

namespace Script

open PlanarMotion.Text

/-- A text and a position in it. -/
structure Tokenizer where
  /-- The text. -/
  content : List Char
  /-- How many of its characters are behind. -/
  position : Nat

namespace Tokenizer

/-- The beginning of a text. -/
def start (text : String) : Tokenizer :=
  ⟨text.toList, 0⟩

/-- A call: the next token, if there is one, and the position behind it. Without one, the position
    is behind the blanks. -/
def next (s : Tokenizer) : Option Token × Tokenizer :=
  let ahead := dropBlanks (s.content.drop s.position)
  match Token.read? ahead with
  | none => (none, ⟨s.content, s.content.length - ahead.length⟩)
  | some (t, rest) => (some t, ⟨s.content, s.content.length - rest.length⟩)

/-- The answer of a call that comes after others. -/
def call (s : Tokenizer) : Nat → Option Token × Tokenizer
  | 0 => s.next
  | k + 1 => s.next.2.call k

/-- At the place in a text behind which this is left. -/
def facing (content ahead : List Char) : Tokenizer :=
  ⟨content, content.length - ahead.length⟩

theorem start_eq (text : String) : start text = facing text.toList text.toList := by
  rw [start, facing, Nat.sub_self]

section Facing

variable {content ahead : List Char} (h : ahead <:+ content)

include h

theorem drop_facing : content.drop (facing content ahead).position = ahead :=
  (List.suffix_iff_eq_drop.mp h).symm

theorem next_facing_of_none (hnext : Token.next? ahead = none) :
    (facing content ahead).next = (none, facing content (dropBlanks ahead)) := by
  rw [Token.next?] at hnext
  have hdrop := drop_facing h
  unfold next
  simp only [facing] at hdrop ⊢
  rw [hdrop, hnext]

/-- A call with a token goes on behind it. -/
theorem next_facing_of_some {t : Token} {rest : List Char}
    (hnext : Token.next? ahead = some (t, rest)) :
    (facing content ahead).next = (some t, facing content rest) := by
  rw [Token.next?] at hnext
  have hdrop := drop_facing h
  unfold next
  simp only [facing] at hdrop ⊢
  rw [hdrop, hnext]

end Facing

theorem dropBlanks_suffix (cs : List Char) : dropBlanks cs <:+ cs :=
  List.dropWhile_suffix _

theorem dropBlanks_dropBlanks (cs : List Char) : dropBlanks (dropBlanks cs) = dropBlanks cs :=
  List.dropWhile_idempotent _ _

theorem suffix_of_next? {cs rest : List Char} {t : Token} (h : Token.next? cs = some (t, rest)) :
    rest <:+ cs := by
  rcases Token.greedy_read?.sound _ t rest h with ⟨front, hcs, _⟩
  exact (List.suffix_append front rest).trans (hcs ▸ dropBlanks_suffix cs)

/-- A call depends only on the text that is left. -/
theorem next_eq_facing (s : Tokenizer) :
    s.next = (facing s.content (s.content.drop s.position)).next := by
  have hdrop := drop_facing (List.drop_suffix s.position s.content)
  unfold next
  simp only [facing] at hdrop ⊢
  rw [hdrop]

/-- A call without a token changes nothing for the next one, wherever the tokenizer stands. -/
theorem next_of_none (s : Tokenizer) (h : s.next.1 = none) : s.next.2.next = s.next := by
  have hsuffix := List.drop_suffix s.position s.content
  rw [next_eq_facing s] at h ⊢
  -- Behind the blanks there are none, so the next call sees the same text.
  generalize s.content.drop s.position = ahead at h hsuffix ⊢
  cases hnext : Token.next? ahead with
  | some answer =>
      rw [next_facing_of_some hsuffix hnext] at h
      cases h
  | none =>
      have hblank : Token.next? (dropBlanks ahead) = none := by
        rw [Token.next?, dropBlanks_dropBlanks]
        exact hnext
      rw [next_facing_of_none hsuffix hnext,
        next_facing_of_none ((dropBlanks_suffix ahead).trans hsuffix) hblank, dropBlanks_dropBlanks]

/-- Once a call has no token, no later one has, and the position stays. -/
theorem call_of_none (s : Tokenizer) (k j : Nat) (h : (s.call k).1 = none) (hj : k ≤ j) :
    s.call j = s.call k := by
  induction j generalizing s k with
  | zero =>
      rw [Nat.le_zero.mp hj]
  | succ j ih =>
      cases k with
      | zero =>
          have hstays := next_of_none s h
          have hagain : (s.next.2.call 0).1 = none := by
            rw [call, hstays]
            exact h
          exact (ih s.next.2 0 hagain (Nat.zero_le j)).trans hstays
      | succ k => exact ih s.next.2 k h (Nat.le_of_succ_le_succ hj)

/-- The answers of the calls are the tokens that a scan finds, and the position after each is where
    the scan goes on. -/
theorem call_of_scan {content ahead rest : List Char} {t : Token} (h : ahead <:+ content) (k : Nat)
    (hk : (Token.scan ahead)[k]? = some (t, rest)) :
    (facing content ahead).call k = (some t, facing content rest) := by
  -- The first call leaves what the scan goes on with, so the others are calls behind it.
  induction k generalizing ahead with
  | zero =>
      cases hnext : Token.next? ahead with
      | none =>
          rw [scan_of_none ahead hnext] at hk
          cases hk
      | some answer =>
          rw [scan_of_some ahead answer.2 answer.1 hnext, List.getElem?_cons_zero,
            Option.some.injEq, Prod.mk.injEq] at hk
          rcases hk with ⟨rfl, rfl⟩
          exact next_facing_of_some h hnext
  | succ k ih =>
      cases hnext : Token.next? ahead with
      | none =>
          rw [scan_of_none ahead hnext] at hk
          cases hk
      | some answer =>
          rw [scan_of_some ahead answer.2 answer.1 hnext, List.getElem?_cons_succ] at hk
          rw [call, next_facing_of_some h hnext]
          exact ih ((suffix_of_next? hnext).trans h) hk

/-- When the scan has found all tokens, the calls find none, and the position is where it stops. -/
theorem call_of_length_le {content ahead : List Char} (h : ahead <:+ content) (k : Nat)
    (hk : (Token.scan ahead).length ≤ k) :
    (facing content ahead).call k = (none, facing content (Token.unread ahead)) := by
  induction k generalizing ahead with
  | zero =>
      cases hnext : Token.next? ahead with
      | none => rw [call, next_facing_of_none h hnext, unread_of_none ahead hnext]
      | some answer =>
          rw [scan_of_some ahead answer.2 answer.1 hnext, List.length_cons] at hk
          omega
  | succ k ih =>
      cases hnext : Token.next? ahead with
      | none =>
          -- The scan has found nothing, so the call in front of the others had no token either.
          have hfirst := next_facing_of_none h hnext
          have hnone : ((facing content ahead).call 0).1 = none := by rw [call, hfirst]
          rw [call_of_none _ 0 (k + 1) hnone (Nat.zero_le _), call, hfirst,
            unread_of_none ahead hnext]
      | some answer =>
          rw [scan_of_some ahead answer.2 answer.1 hnext, List.length_cons] at hk
          -- One token is used up by the first call.
          rw [call, next_facing_of_some h hnext,
            ih ((suffix_of_next? hnext).trans h) (Nat.le_of_succ_le_succ hk),
            unread_of_some ahead answer.2 answer.1 hnext]

end Tokenizer

/-- Where the lexeme of a piece ends: behind the pieces up to it. -/
def Munch.ends (m : Munch) (count : Nat) : Nat :=
  ((m.pieces.take count).flatMap Piece.text).length

/-- Behind each token the scan goes on where its lexeme ends. -/
theorem Munches.getElem?_scan {cs : List Char} {m : Munch} (h : Munches cs m) (k : Nat)
    (hk : k < m.pieces.length) :
    ∃ t rest, (Token.scan cs)[k]? = some (t, rest) ∧
      cs = (m.pieces.take (k + 1)).flatMap Piece.text ++ rest := by
  induction h generalizing k with
  | stop blanks rest hblanks hrest => cases hk
  | piece blanks lexeme tail t m hblanks hlexeme hlongest hm ih =>
      rw [scan_of_some _ tail t (next?_piece blanks lexeme tail t hblanks hlexeme hlongest)]
      cases k with
      | zero =>
          refine ⟨t, tail, rfl, ?_⟩
          rw [List.take_succ_cons, List.take_zero, List.flatMap_cons, List.flatMap_nil,
            List.append_nil, Piece.text, List.append_assoc]
      | succ k =>
          rcases ih k (Nat.lt_of_succ_lt_succ hk) with ⟨t', rest, hget, htail⟩
          refine ⟨t', rest, hget, ?_⟩
          rw [List.take_succ_cons, List.flatMap_cons, Piece.text, List.append_assoc,
            List.append_assoc, ← htail]

/-- The scan stops in front of the rest. -/
theorem Munches.unread_eq {cs : List Char} {m : Munch} (h : Munches cs m) :
    Token.unread cs = m.rest := by
  induction h with
  | stop blanks rest hblanks hrest =>
      rw [unread_of_none _ (next?_stop blanks rest hblanks hrest), hblanks.takeWhile_eq.2]
  | piece blanks lexeme tail t m hblanks hlexeme hlongest hm ih =>
      rw [unread_of_some _ tail t (next?_piece blanks lexeme tail t hblanks hlexeme hlongest), ih]

theorem Munches.length_scan {cs : List Char} {m : Munch} (h : Munches cs m) :
    (Token.scan cs).length = m.pieces.length := by
  have hlength := h.forall₂_scan.length_eq
  rw [List.length_map, tokensOf, List.length_map] at hlength
  exact hlength.symm

/-- No lexeme is empty. -/
theorem Munches.lexeme_ne_nil {cs : List Char} {m : Munch} (h : Munches cs m) :
    ∀ p ∈ m.pieces, p.lexeme ≠ [] := by
  induction h with
  | stop blanks rest hblanks hrest =>
      intro p hp
      cases hp
  | piece blanks lexeme tail t m hblanks hlexeme hlongest hm ih =>
      intro p hp
      rcases List.mem_cons.mp hp with rfl | hp
      · exact hlexeme.ne_nil
      · exact ih p hp

theorem Munch.ends_succ (m : Munch) (k : Nat) (hk : k < m.pieces.length) :
    m.ends (k + 1) = m.ends k + m.pieces[k].text.length := by
  rw [Munch.ends, Munch.ends, ← List.take_append_getElem hk, List.flatMap_append,
    List.length_append, List.flatMap_singleton]

/-- The ends of the lexemes increase, since none is empty. -/
theorem Munches.ends_lt {cs : List Char} {m : Munch} (h : Munches cs m) (j k : Nat) (hjk : j < k)
    (hk : k ≤ m.pieces.length) : m.ends j < m.ends k := by
  induction k with
  | zero => cases hjk
  | succ k ih =>
      have hpiece := h.lexeme_ne_nil _ (List.getElem_mem (Nat.lt_of_succ_le hk))
      have hlexeme : 0 < m.pieces[k].lexeme.length := List.length_pos_iff.mpr hpiece
      have hstep := m.ends_succ k (Nat.lt_of_succ_le hk)
      rw [Piece.text, List.length_append] at hstep
      -- The last step adds a lexeme that is not empty.
      by_cases hlast : j = k
      · rw [hlast]
        omega
      · have hlt := ih (by omega) (by omega)
        omega

theorem Munches.ends_length {cs : List Char} {m : Munch} (h : Munches cs m) :
    cs.length = m.ends m.pieces.length + (m.blanks.length + m.rest.length) := by
  have hlength := congrArg List.length h.text_eq
  rw [List.length_append, List.length_append] at hlength
  rw [hlength, Munch.ends, List.take_length]

/-- Each lexeme is at least one character farther. -/
theorem Munches.le_ends {cs : List Char} {m : Munch} (h : Munches cs m) (k : Nat)
    (hk : k ≤ m.pieces.length) : k ≤ m.ends k := by
  induction k with
  | zero => exact Nat.zero_le _
  | succ k ih =>
      have hle := ih (by omega)
      have hlt := h.ends_lt k (k + 1) (Nat.lt_succ_self k) hk
      omega

/-- What a tokenizer does that follows a way of taking a text apart. -/
structure Follows (text : String) (m : Munch) : Prop where
  /-- No lexeme is empty. -/
  ne_nil : ∀ p ∈ m.pieces, p.lexeme ≠ []
  /-- The pieces and what is behind them are the text. -/
  text_eq : text.toList = m.pieces.flatMap Piece.text ++ (m.blanks ++ m.rest)
  /-- The tokens of the text are those of the lexemes, in order. -/
  tokens : ∀ ts, List.Forall₂ IsLexeme (m.pieces.map Piece.lexeme) ts ↔ ts = Token.ofText text
  /-- Each call gives the next token, and the position behind it is the end of its lexeme. -/
  calls : ∀ k, k < m.pieces.length → (Tokenizer.start text).call k
    = ((Token.ofText text)[k]?, ⟨text.toList, m.ends (k + 1)⟩)
  /-- The positions increase. -/
  increases : ∀ j k, j < k → k ≤ m.pieces.length → m.ends j < m.ends k
  /-- There are no more tokens than characters. -/
  length_le : (Token.ofText text).length = m.pieces.length ∧ m.pieces.length ≤ text.length
  /-- Behind the last lexeme the calls give none, and the position stays behind the blanks. -/
  stops : ∀ k, m.pieces.length ≤ k → (Tokenizer.start text).call k
    = (none, ⟨text.toList, m.ends m.pieces.length + m.blanks.length⟩)
  /-- Once a call gives none, every further one does, and the position stays. -/
  stays : ∀ j k, ((Tokenizer.start text).call j).1 = none → j ≤ k →
    (Tokenizer.start text).call k = (Tokenizer.start text).call j

/-- The tokenizer follows the longest lexemes: its calls are those of the scan. -/
theorem Munches.follows {text : String} {m : Munch} (h : Munches text.toList m) :
    Follows text m := by
  have hself := List.suffix_refl text.toList
  have hlength := h.length_scan
  have htotal := h.ends_length
  refine ⟨h.lexeme_ne_nil, h.text_eq, h.forall₂_iff, fun k hk => ?_, h.ends_lt, ?_, fun k hk => ?_,
    Tokenizer.call_of_none _⟩
  · rcases h.getElem?_scan k hk with ⟨t, rest, hget, htext⟩
    have htoken : (Token.ofText text)[k]? = some t := by
      rw [Token.ofText, List.getElem?_map, hget, Option.map_some]
    have hposition : text.toList.length - rest.length = m.ends (k + 1) := by
      rw [htext, List.length_append, Nat.add_sub_cancel_right, Munch.ends]
    rw [Tokenizer.start_eq, Tokenizer.call_of_scan hself k hget, htoken, Tokenizer.facing,
      hposition]
  · have hle := h.le_ends m.pieces.length (Nat.le_refl _)
    rw [Token.ofText, List.length_map, ← String.length_toList]
    omega
  · have hposition : text.toList.length - m.rest.length
        = m.ends m.pieces.length + m.blanks.length := by
      omega
    rw [Tokenizer.start_eq, Tokenizer.call_of_length_le hself k (by omega), h.unread_eq,
      Tokenizer.facing, hposition]

/-- Every text is taken apart into its longest lexemes in exactly one way, and the tokenizer follows
    it. -/
theorem exists_unique_munch (text : String) :
    ∃ m, Munches text.toList m ∧ (∀ m', Munches text.toList m' → m' = m) ∧ Follows text m := by
  rcases exists_munches text.toList with ⟨m, hm⟩
  exact ⟨m, hm, fun m' hm' => hm.unique hm', hm.follows⟩

end Script

end PlanarMotion
