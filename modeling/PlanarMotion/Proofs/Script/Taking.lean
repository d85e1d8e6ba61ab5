import PlanarMotion.Proofs.Script.Grammar

/-!
# What the Readers Take

Each of the small readers takes tokens of one form from the front. The lemmas here say
which, in the shape that sequencing needs: a reader followed by more reading answers
exactly if the tokens begin with the form and the rest is read by what follows. A
rewrite with all of them turns a reader into the list of tokens it takes, so the proofs
about the grammar need not open a reader again.

They are equivalences, so one rewrite serves both directions: what was read had the form,
and what has the form is read.

## Theorems

* `bind_eq_ok_iff`: Two readers in a row answer exactly if both do.
* `expectMark_bind`, `expectWord_bind`, `takeName_bind`: Marks, words and names.
* `require_bind`, `requireSome_bind`: Conditions take nothing.
* `takeNumber_bind`: Finite numbers.
* `wholeSegments?_eq_some_iff`: A double asks for as many chords as its value says.
* `takeSegments_bind`, `takeVector_bind`: Numbers of chords and vectors.
-/

namespace PlanarMotion

namespace Script

open PlanarMotion.Number

/-- Two readers in a row answer exactly if both do. -/
theorem bind_eq_ok_iff {β γ : Type} (r : Reader β) (f : β → Reader γ) (tokens rest : List Token)
    (c : γ) : (r >>= f) tokens = .ok (c, rest) ↔
      ∃ b middle, r tokens = .ok (b, middle) ∧ f b middle = .ok (c, rest) := by
  constructor
  · exact bind_eq_ok
  · rintro ⟨b, middle, hr, hf⟩
    simp only [bind, StateT.bind, Except.bind, hr]
    exact hf

theorem throw_ne_ok {β : Type} (cause : Rejection) (tokens : List Token)
    (answer : β × List Token) : (throw cause : Reader β) tokens ≠ .ok answer := by
  simp [throw, throwThe, MonadExceptOf.throw, StateT.lift, bind, Except.bind]

/-- A token is taken exactly if it comes first and is one of those that are wanted. -/
theorem takeToken_eq_ok_iff {β : Type} (wanted : Token → Option β) (cause : Rejection)
    (tokens rest : List Token) (b : β) : takeToken wanted cause tokens = .ok (b, rest) ↔
      ∃ t, tokens = t :: rest ∧ wanted t = some b := by
  cases tokens with
  | nil =>
      simp only [takeToken, reduceCtorEq, false_iff, not_exists, not_and, false_implies,
        implies_true]
  | cons t ts =>
      cases hwanted : wanted t with
      | none =>
          simp only [takeToken, hwanted, reduceCtorEq, false_iff, List.cons.injEq]
          rintro ⟨t', ⟨rfl, -⟩, hb⟩
          rw [hwanted] at hb
          cases hb
      | some b' =>
          simp only [takeToken, hwanted, Except.ok.injEq, Prod.mk.injEq, List.cons.injEq]
          constructor
          · rintro ⟨rfl, rfl⟩
            exact ⟨t, ⟨rfl, rfl⟩, hwanted⟩
          · rintro ⟨t', ⟨rfl, rfl⟩, hb⟩
            rw [hwanted, Option.some.injEq] at hb
            exact ⟨hb, rfl⟩

theorem takeToken_bind {β γ : Type} (wanted : Token → Option β) (cause : Rejection)
    (f : β → Reader γ) (tokens rest : List Token) (c : γ) :
    (takeToken wanted cause >>= f) tokens = .ok (c, rest) ↔
      ∃ t tail b, tokens = t :: tail ∧ wanted t = some b ∧ f b tail = .ok (c, rest) := by
  rw [bind_eq_ok_iff]
  simp only [takeToken_eq_ok_iff]
  constructor
  · rintro ⟨b, tail, ⟨t, htokens, hb⟩, hf⟩
    exact ⟨t, tail, b, htokens, hb, hf⟩
  · rintro ⟨t, tail, b, htokens, hb, hf⟩
    exact ⟨b, tail, ⟨t, htokens, hb⟩, hf⟩

-- Marks and words are both read as one given token.
theorem takeGiven_bind {γ : Type} (u : Token) (cause : Rejection) (f : Unit → Reader γ)
    (tokens rest : List Token) (c : γ) :
    (takeToken (fun t => if t = u then some () else none) cause >>= f) tokens = .ok (c, rest) ↔
      ∃ tail, tokens = u :: tail ∧ f () tail = .ok (c, rest) := by
  rw [takeToken_bind]
  constructor
  · rintro ⟨t, tail, b, htokens, hb, hf⟩
    rw [Option.ite_none_right_eq_some] at hb
    exact ⟨tail, by rw [htokens, hb.1], hf⟩
  · rintro ⟨tail, htokens, hf⟩
    exact ⟨u, tail, (), htokens, if_pos rfl, hf⟩

theorem expectMark_bind {γ : Type} (m : Mark) (f : Unit → Reader γ) (tokens rest : List Token)
    (c : γ) : (expectMark m >>= f) tokens = .ok (c, rest) ↔
      ∃ tail, tokens = .mark m :: tail ∧ f () tail = .ok (c, rest) :=
  takeGiven_bind _ _ f tokens rest c

theorem expectWord_bind {γ : Type} (w : String) (cause : Rejection) (f : Unit → Reader γ)
    (tokens rest : List Token) (c : γ) : (expectWord w cause >>= f) tokens = .ok (c, rest) ↔
      ∃ tail, tokens = .name w :: tail ∧ f () tail = .ok (c, rest) :=
  takeGiven_bind _ _ f tokens rest c

/-- After a name it goes on with the text of the name. -/
theorem takeName_bind {γ : Type} (cause : Rejection) (f : String → Reader γ)
    (tokens rest : List Token) (c : γ) : (takeName cause >>= f) tokens = .ok (c, rest) ↔
      ∃ text tail, tokens = .name text :: tail ∧ f text tail = .ok (c, rest) := by
  rw [takeName, takeToken_bind]
  constructor
  · rintro ⟨t, tail, text, htokens, htext, hf⟩
    cases t with
    | name text' =>
        rw [Option.some.injEq] at htext
        exact ⟨text, tail, by rw [htokens, htext], hf⟩
    | _ => cases htext
  · rintro ⟨text, tail, htokens, hf⟩
    exact ⟨.name text, tail, text, htokens, rfl, hf⟩

/-- A condition takes no token, and holds of every answer. -/
theorem require_bind {γ : Type} (condition : Bool) (cause : Rejection) (f : Unit → Reader γ)
    (tokens rest : List Token) (c : γ) : (require condition cause >>= f) tokens = .ok (c, rest) ↔
      condition = true ∧ f () tokens = .ok (c, rest) := by
  unfold require
  cases condition with
  | true =>
      simp only [if_true, true_and]
      rfl
  | false =>
      simp only [Bool.false_eq_true, if_false, false_and, iff_false]
      intro h
      -- An unmet condition answers nothing, and so does whatever follows it.
      rcases (bind_eq_ok_iff _ _ _ _ _).mp h with ⟨_, _, hthrow, -⟩
      exact throw_ne_ok _ _ _ hthrow

theorem requireSome_bind {β γ : Type} (value : Option β) (cause : Rejection) (f : β → Reader γ)
    (tokens rest : List Token) (c : γ) : (requireSome value cause >>= f) tokens = .ok (c, rest) ↔
      ∃ b, value = some b ∧ f b tokens = .ok (c, rest) := by
  unfold requireSome
  cases value with
  | some b =>
      simp only [Option.some.injEq, exists_eq_left']
      rfl
  | none =>
      simp only [reduceCtorEq, false_and, exists_false, iff_false]
      intro h
      rcases (bind_eq_ok_iff _ _ _ _ _).mp h with ⟨_, _, hthrow, -⟩
      exact throw_ne_ok _ _ _ hthrow

theorem pure_eq_ok_iff {β : Type} (b c : β) (tokens rest : List Token) :
    (pure b : Reader β) tokens = .ok (c, rest) ↔ b = c ∧ tokens = rest := by
  have hpure : (pure b : Reader β) tokens = .ok (b, tokens) := rfl
  rw [hpure, Except.ok.injEq, Prod.mk.injEq]

/-- After a number the reading goes on with it, if it is finite. -/
theorem takeNumber_bind {γ : Type} (role : NumberRole) (f : Float → Reader γ)
    (tokens rest : List Token) (c : γ) : (takeNumber role >>= f) tokens = .ok (c, rest) ↔
      ∃ x tail, tokens = .number x :: tail ∧ x.isFinite = true ∧ f x tail = .ok (c, rest) := by
  rw [bind_eq_ok_iff]
  unfold takeNumber
  -- The token comes first, and then the condition on it.
  simp only [takeToken_bind, require_bind, pure_eq_ok_iff]
  constructor
  · rintro ⟨x, tail, ⟨t, tail', x', htokens, hx', hfinite, rfl, rfl⟩, hf⟩
    cases t with
    | number x'' =>
        rw [Option.some.injEq] at hx'
        exact ⟨x', tail', by rw [htokens, hx'], hfinite, hf⟩
    | _ => cases hx'
  · rintro ⟨x, tail, htokens, hfinite, hf⟩
    exact ⟨x, tail, ⟨.number x, tail, x, htokens, rfl, hfinite, rfl, rfl⟩, hf⟩

/-- A double asks for a number of chords exactly if that is its value. -/
theorem wholeSegments?_eq_some_iff (x : Float) (n : Nat) (h : x.isFinite = true) :
    wholeSegments? x = some n ↔ value x = n ∧ 1 ≤ n := by
  have hfinite := (isFinite_iff x).mp h
  have hone := cast_unitsPerOne_pos
  unfold wholeSegments?
  simp only [magnitude_of_finite x hfinite, Magnitude.whole?]
  cases hneg : (Binary64.ofFloat x).negative with
  | true =>
      -- A number with a sign is not above zero.
      have hvalue : value x ≤ 0 := by
        rw [value, signOf, hneg, if_pos rfl, neg_one_mul, Left.neg_nonpos_iff]
        exact div_nonneg (Nat.cast_nonneg _) hone.le
      simp only [if_true, reduceCtorEq, false_iff, not_and]
      intro hn hpos
      rw [hn] at hvalue
      have hcast : (1 : ℚ) ≤ n := Nat.one_le_cast.mpr hpos
      linarith
  | false =>
      have hvalue : value x = unitsOf x / unitsPerOne := by
        rw [value, signOf, hneg, if_neg Bool.false_ne_true, one_mul]
      -- The value is whole if the units are a multiple of those of one.
      have hwhole : value x = n ↔ unitsOf x = n * unitsPerOne := by
        rw [hvalue, div_eq_iff hone.ne']
        exact_mod_cast Iff.rfl
      rw [hwhole, if_neg Bool.false_ne_true]
      constructor
      · intro hsome
        rw [Option.filter_eq_some_iff] at hsome
        rcases hsome with ⟨hsome, hpos⟩
        split at hsome
        · rename_i hmod
          rw [Option.some.injEq] at hsome
          rw [decide_eq_true_eq] at hpos
          refine ⟨?_, hpos⟩
          rw [← hsome]
          exact (Nat.div_mul_cancel (Nat.dvd_of_mod_eq_zero hmod)).symm
        · cases hsome
      · rintro ⟨hunits, hpos⟩
        rw [hunits, Nat.mul_mod_left, if_pos rfl, Nat.mul_div_cancel _ unitsPerOne_pos,
          Option.filter_some, decide_eq_true hpos, if_pos rfl]

/-- After a count of chords the reading goes on with the count. -/
theorem takeSegments_bind {γ : Type} (owner : String) (f : Nat → Reader γ)
    (tokens rest : List Token) (c : γ) : (takeSegments owner >>= f) tokens = .ok (c, rest) ↔
      ∃ x n tail, tokens = .number x :: tail ∧ IsCount x n ∧ f n tail = .ok (c, rest) := by
  rw [bind_eq_ok_iff]
  unfold takeSegments IsCount
  simp only [takeNumber_bind]
  constructor
  · rintro ⟨n, tail, ⟨x, tail', htokens, hfinite, hn⟩, hf⟩
    rw [← bind_pure (requireSome _ _), requireSome_bind] at hn
    rcases hn with ⟨n', hn', hpure⟩
    rw [pure_eq_ok_iff] at hpure
    rw [wholeSegments?_eq_some_iff x n' hfinite, hpure.1] at hn'
    rw [hpure.2] at htokens
    exact ⟨x, n, tail, htokens, ⟨hfinite, hn'⟩, hf⟩
  · rintro ⟨x, n, tail, htokens, ⟨hfinite, hn⟩, hf⟩
    refine ⟨n, tail, ⟨x, tail, htokens, hfinite, ?_⟩, hf⟩
    rw [(wholeSegments?_eq_some_iff x n hfinite).mpr hn]
    rfl

theorem vectorBody_eq_ok_iff (tokens rest : List Token) (v : Vec Float) :
    vectorBody tokens = .ok (v, rest) ↔ ∃ front, IsVector front v ∧ tokens = front ++ rest := by
  unfold vectorBody
  simp only [expectWord_bind, expectMark_bind, takeNumber_bind, pure_eq_ok_iff]
  -- After the rewrite both sides list the same seven tokens.
  constructor
  · rintro ⟨_, rfl, _, rfl, _, rfl, x, _, rfl, hx, _, rfl, y, _, rfl, hy, _, rfl, rfl, rfl⟩
    exact ⟨_, .call x y hx hy, rfl⟩
  · rintro ⟨front, ⟨x, y, hx, hy⟩, rfl⟩
    exact ⟨_, rfl, _, rfl, _, rfl, x, _, rfl, hx, _, rfl, y, _, rfl, hy, _, rfl, rfl, rfl⟩

/-- After a vector the reading goes on with the vector. -/
theorem takeVector_bind {γ : Type} (role : String) (f : Vec Float → Reader γ)
    (tokens rest : List Token) (c : γ) : (takeVector role >>= f) tokens = .ok (c, rest) ↔
      ∃ front v tail, IsVector front v ∧ tokens = front ++ tail ∧ f v tail = .ok (c, rest) := by
  -- The role is only for the report, so it does not matter to an answer.
  have hrole : ∀ v tail, takeVector role tokens = .ok (v, tail) ↔
      vectorBody tokens = .ok (v, tail) := by
    intro v tail
    unfold takeVector
    cases vectorBody tokens with
    | ok answer => exact Iff.rfl
    | error cause =>
        refine iff_of_false ?_ ?_ <;> exact fun h => nomatch h
  rw [bind_eq_ok_iff]
  simp only [hrole, vectorBody_eq_ok_iff]
  constructor
  · rintro ⟨v, tail, ⟨front, hv, htokens⟩, hf⟩
    exact ⟨front, v, tail, hv, htokens, hf⟩
  · rintro ⟨front, v, tail, hv, htokens, hf⟩
    exact ⟨v, tail, ⟨front, hv, htokens⟩, hf⟩

end Script

end PlanarMotion
