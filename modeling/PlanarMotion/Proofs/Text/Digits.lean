import PlanarMotion.Number.Layout
import PlanarMotion.Text.Blank
import PlanarMotion.Text.DecimalDigit
import Mathlib.Tactic.Ring

/-!
# Digits and the Numbers They Denote

Numbers are written with ASCII digits only, and read with the digits of any script. The
first run of digits in the table is that of ASCII, so the two agree on what is written:
`digitsValue` undoes `digits`.

The value of digits is a fold, so it splits where the digits do, each part scaled by the
length of what follows. Zeros in front change nothing, and zeros at the end scale; that
is all the printer's paddings and trimmings need.

## Theorems

* `digitValue?_of_isDigit`: An ASCII digit has its distance from `0` as value.
* `isBlank_of_isDigit`: No digit is blank.
* `digitsValue_append`: The value of two rows of digits.
* `digitsValue_digits`, `digitsValue_padded`: A number is read back from its digits.
* `length_padded`: Padding reaches the width.
* `exists_trimZeros`: What trimming drops are zeros.
-/

namespace PlanarMotion

namespace Number

open PlanarMotion.Text

/-- An ASCII digit has its distance from `0` as value. -/
theorem digitValue?_of_isDigit (c : Char) (h : c.isDigit = true) :
    digitValue? c = some (c.toNat - 48) := by
  rw [Char.isDigit_iff_toNat, show '0'.toNat = 48 by decide, show '9'.toNat = 57 by decide] at h
  have hrange : 0x30 ≤ c.toNat ∧ c.toNat < 0x30 + 10 := by omega
  rw [digitValue?, digitZeros, List.findSome?_cons, if_pos hrange]

theorem isDigit_of_isDigit (c : Char) (h : c.isDigit = true) : isDigit c = true := by
  rw [isDigit, digitValue?_of_isDigit c h, Option.isSome_some]

/-- No digit of any script is blank. -/
theorem isBlank_of_isDigit (c : Char) (h : isDigit c = true) : isBlank c = false := by
  have hapart : ∀ start ∈ digitZeros, ∀ range ∈ blankRanges,
      range.2 < start ∨ start + 10 ≤ range.1 := by decide +kernel
  rcases (isDigit_iff c).mp h with ⟨start, hstart, hin⟩
  rw [isBlank, List.any_eq_false]
  intro range hrange
  have hside := hapart start hstart range hrange
  rw [Bool.and_eq_true, decide_eq_true_eq, decide_eq_true_eq]
  omega

theorem isDigit_digits (n : Nat) : ∀ c ∈ digits n, c.isDigit = true := by
  intro c hc
  exact Nat.isDigit_of_mem_toDigits (by decide) (by decide) hc

theorem digits_ne_nil (n : Nat) : digits n ≠ [] :=
  Nat.toDigits_ne_nil

/-- A number that is already there is scaled by the length of the digits that follow. -/
theorem foldl_digits (cs : List Char) (init : Nat) :
    cs.foldl (fun value c => 10 * value + (digitValue? c).getD 0) init
      = init * 10 ^ cs.length + digitsValue cs := by
  induction cs generalizing init with
  | nil => rw [List.foldl_nil, List.length_nil, digitsValue, List.foldl_nil]; ring
  | cons c cs ih =>
      rw [digitsValue, List.foldl_cons, List.foldl_cons, ih, ih (10 * 0 + _), List.length_cons]
      ring

theorem digitsValue_append (cs ds : List Char) :
    digitsValue (cs ++ ds) = digitsValue cs * 10 ^ ds.length + digitsValue ds := by
  have hsplit := foldl_digits ds (digitsValue cs)
  rw [← hsplit, digitsValue, digitsValue, List.foldl_append]

theorem digitsValue_eq_ofDigitChars (cs : List Char) (h : ∀ c ∈ cs, c.isDigit = true) :
    digitsValue cs = Nat.ofDigitChars 10 cs 0 := by
  -- Both are folds with the same step on ASCII digits, from any value that is already there.
  have hfold : ∀ init, cs.foldl (fun value c => 10 * value + (digitValue? c).getD 0) init
      = Nat.ofDigitChars 10 cs init := by
    induction cs with
    | nil => intro init; rfl
    | cons c cs ih =>
        intro init
        rw [List.forall_mem_cons] at h
        rw [List.foldl_cons, ih h.2, Nat.ofDigitChars_cons, digitValue?_of_isDigit c h.1]
        rfl
  exact hfold 0

theorem digitsValue_digits (n : Nat) : digitsValue (digits n) = n := by
  rw [digitsValue_eq_ofDigitChars _ (isDigit_digits n), digits, Nat.ofDigitChars_ten_toDigits]

theorem digitsValue_replicate (count : Nat) : digitsValue (List.replicate count '0') = 0 := by
  induction count with
  | zero => rfl
  | succ count ih =>
      rw [List.replicate_succ', digitsValue_append, ih, Nat.zero_mul, Nat.zero_add]
      decide

theorem isDigit_replicate (count : Nat) :
    ∀ c ∈ List.replicate count '0', c.isDigit = true := by
  intro c hc
  rw [List.eq_of_mem_replicate hc]
  decide

theorem digitsValue_padded (width n : Nat) : digitsValue (padded width n) = n := by
  rw [padded, digitsValue_append, digitsValue_replicate, Nat.zero_mul, Nat.zero_add,
    digitsValue_digits]

theorem isDigit_padded (width n : Nat) : ∀ c ∈ padded width n, c.isDigit = true := by
  rw [padded, List.forall_mem_append]
  exact ⟨isDigit_replicate _, isDigit_digits n⟩

theorem length_padded (width n : Nat) (hwidth : 0 < width) (h : n < 10 ^ width) :
    (padded width n).length = width := by
  have hlength : (digits n).length ≤ width :=
    (Nat.length_toDigits_le_iff (by decide) hwidth).mpr h
  rw [padded, List.length_append, List.length_replicate]
  omega

/-- What trimming drops are zeros. -/
theorem exists_trimZeros (ds : List Char) :
    ∃ count, ds = trimZeros ds ++ List.replicate count '0' := by
  -- Trimming drops from the reversed row while there are zeros, so what goes is a row of them.
  have hall : ∀ c ∈ ds.reverse.takeWhile (· == '0'), c = '0' := by
    intro c hc
    have hzero := List.all_eq_true.mp (List.all_takeWhile (p := (· == '0')) (l := ds.reverse)) c hc
    exact eq_of_beq hzero
  have hzeros := List.eq_replicate_iff.mpr ⟨rfl, hall⟩
  refine ⟨(ds.reverse.takeWhile (· == '0')).length, ?_⟩
  calc ds = (ds.reverse.takeWhile (· == '0') ++ ds.reverse.dropWhile (· == '0')).reverse := by
        rw [List.takeWhile_append_dropWhile, List.reverse_reverse]
    _ = trimZeros ds ++ (ds.reverse.takeWhile (· == '0')).reverse := List.reverse_append
    _ = trimZeros ds ++ List.replicate (ds.reverse.takeWhile (· == '0')).length '0' := by
        nth_rewrite 1 [hzeros]
        rw [List.reverse_replicate]

theorem isDigit_trimZeros (ds : List Char) (h : ∀ c ∈ ds, c.isDigit = true) :
    ∀ c ∈ trimZeros ds, c.isDigit = true := by
  rcases exists_trimZeros ds with ⟨count, hds⟩
  intro c hc
  refine h c ?_
  rw [hds]
  exact List.mem_append_left _ hc

theorem trimZeros_ne_nil (ds : List Char) (h : digitsValue ds ≠ 0) : trimZeros ds ≠ [] := by
  -- If nothing were left, the digits would all have been zeros.
  rcases exists_trimZeros ds with ⟨count, hds⟩
  intro hnil
  rw [hnil, List.nil_append] at hds
  rw [hds, digitsValue_replicate] at h
  exact h rfl

end Number

end PlanarMotion
