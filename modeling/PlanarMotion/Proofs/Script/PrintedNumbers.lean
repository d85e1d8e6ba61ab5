import PlanarMotion.Proofs.Program.Storable
import PlanarMotion.Proofs.Script.Grammar
import PlanarMotion.Proofs.Script.Lexemes

/-!
# Printed Numbers

Three kinds of number are printed, each in its own way, and each is read by the same
numeral reader. A literal is its thousandths around a point; what is read is the double
nearest to them. A count of chords and a whole duration are plain digits, of any length;
what is read is the double itself, since a count of units that is a whole number of ones
is a decimal without places. Any other duration is in the shortest digits that read back.

The sign needs care twice. A literal that rounds to zero is printed without one, which is
decided by comparing texts, so it has to be shown that no other literal has the text of a
negative zero. A whole duration is printed with a sign only if it is not zero, and the
durations of a valid program are not negative, so none is ever printed.

## Main definitions

* `placesText`: Thousandths around a point.

## Theorems

* `fixed_eq`, `numberText_eq`: Three places are the digits of the thousandths.
* `spells_numberText`: A literal is read as `rounded` says.
* `spells_durationText`: A duration is read as itself, but for the sign of a zero.
* `spells_count`: A count that a double can be is read as such a double.
-/

namespace PlanarMotion

namespace Script

open PlanarMotion.Number PlanarMotion.Text

/-- A double with three places: the digits of its thousandths around a point. -/
def placesText (count : Nat) : List Char :=
  digits (count / 1000) ++ '.' :: padded 3 (count % 1000)

theorem read?_placesText (negative : Bool) (count : Nat) (rest : List Char) (hrest : Ends rest) :
    Numeral.read? (signed negative (placesText count) ++ rest)
      = some (⟨negative, digits (count / 1000), padded 3 (count % 1000), 0⟩, rest) :=
  Numeral.read?_point negative _ _ rest (isDigit_digits _) (digits_ne_nil _) (isDigit_padded _ _)
    hrest

/-- The decimal of its parts has the thousandths for a coefficient. -/
theorem decimal_placesText (negative : Bool) (count : Nat) :
    Numeral.decimal ⟨negative, digits (count / 1000), padded 3 (count % 1000), 0⟩
      = ⟨count, -3⟩ := by
  have hlength : (padded 3 (count % 1000)).length = 3 :=
    length_padded 3 _ (by decide) (Nat.mod_lt _ (by decide))
  have hvalue : digitsValue (digits (count / 1000) ++ padded 3 (count % 1000)) = count := by
    rw [digitsValue_append, hlength, digitsValue_digits, digitsValue_padded]
    omega
  rw [Numeral.decimal, hvalue, hlength]
  rfl

theorem fixed_eq (x : Float) (h : magnitudeWord x < infinityWord) :
    fixed 3 x = signed (Binary64.ofFloat x).negative (placesText (thousandths x)) := by
  unfold fixed
  simp only [magnitude_of_finite x h]
  rfl

/-- The text of a zero with a sign is that of nothing else. -/
theorem signed_placesText_eq_iff (negative : Bool) (count : Nat) :
    signed negative (placesText count) = "-0.000".toList ↔ negative = true ∧ count = 0 := by
  constructor
  · intro h
    -- The text is read back, and what is read has the sign and the thousandths.
    have hzero : "-0.000".toList = signed true (placesText 0) := by decide
    have hread := read?_placesText negative count [] ends_nil
    rw [h, hzero, read?_placesText true 0 [] ends_nil, Option.some.injEq, Prod.mk.injEq] at hread
    have hcount := decimal_placesText negative count
    rw [← hread.1, decimal_placesText true 0, Decimal.mk.injEq] at hcount
    exact ⟨(congrArg Numeral.negative hread.1).symm, hcount.1.symm⟩
  · rintro ⟨rfl, rfl⟩
    decide

/-- A literal is printed as its thousandths, and a zero without a sign. -/
theorem numberText_eq (x : Float) (h : magnitudeWord x < infinityWord) :
    numberText x = signed ((Binary64.ofFloat x).negative && thousandths x != 0)
      (placesText (thousandths x)) ++ ['f'] := by
  unfold numberText
  -- The printer compares texts; by the lemma above it asks for a sign without thousandths.
  simp only [fixed_eq x h, signed_placesText_eq_iff]
  split
  · rename_i hzero
    rw [hzero.1, hzero.2]
    rfl
  · rename_i hzero
    cases hneg : (Binary64.ofFloat x).negative with
    | false => rfl
    | true =>
        have hcount : (thousandths x != 0) = true := by
          rw [bne_iff_ne]
          intro hcount
          exact hzero ⟨hneg, hcount⟩
        rw [hcount]
        rfl

theorem starts_signed (negative : Bool) (body : List Char)
    (h : body.head?.any Char.isDigit = true) :
    (signed negative body).head?.any (fun c => !isBlank c && startsNumeral c) = true := by
  cases negative with
  | true =>
      rw [signed, if_pos rfl, List.head?_cons, Option.any_some]
      decide
  | false =>
      cases body with
      | nil => exact absurd h Bool.false_ne_true
      | cons d body =>
          rw [List.head?_cons, Option.any_some] at h
          rw [signed, if_neg Bool.false_ne_true, List.head?_cons, Option.any_some,
            isBlank_of_isDigit d (isDigit_of_isDigit d h), startsNumeral, isDigit_of_isDigit d h]
          rfl

theorem head_isDigit (ds cs : List Char) (hds : ∀ c ∈ ds, c.isDigit = true) (hne : ds ≠ []) :
    (ds ++ cs).head?.any Char.isDigit = true := by
  cases ds with
  | nil => exact absurd rfl hne
  | cons d ds => exact hds d List.mem_cons_self

theorem head_write (ds : List Char) (exponent : Int) (hds : ∀ c ∈ ds, c.isDigit = true)
    (hne : ds ≠ []) : (shortestLayout.write ds exponent).head?.any Char.isDigit = true := by
  cases ds with
  | nil => exact absurd rfl hne
  | cons d ds =>
      have hd : d.isDigit = true := hds d List.mem_cons_self
      unfold Layout.write positional scientific
      split
      · split
        · rfl
        · simp only
          split
          · exact hd
          · exact hd
      · exact hd

theorem head_shortestDigits (word : Nat) (hpos : word ≠ 0) (hword : word < infinityWord) :
    (shortestDigits word).head?.any Char.isDigit = true := by
  have hcoefficient := coefficient_shortestDecimal word hpos hword
  rw [shortestDigits, if_neg hpos]
  exact head_write _ _ (isDigit_trimZeros _ (isDigit_digits _))
    (trimZeros_ne_nil _ (by rw [digitsValue_digits]; exact hcoefficient))

theorem spells_numberText (x : Float) (h : x.isFinite = true) :
    Spells (numberText x) [.number (rounded x)] := by
  rw [numberText_eq x ((isFinite_iff x).mp h)]
  generalize hneg : ((Binary64.ofFloat x).negative && thousandths x != 0) = negative
  refine spells_number _ _ ?_ ?_
  · rw [signed_append, placesText, List.append_assoc]
    exact starts_signed _ _ (head_isDigit _ _ (isDigit_digits _) (digits_ne_nil _))
  · intro rest _
    refine ⟨⟨negative, digits (thousandths x / 1000), padded 3 (thousandths x % 1000), 0⟩, ?_, ?_⟩
    · rw [List.append_assoc]
      exact Numeral.read?_point_suffix _ _ _ rest (isDigit_digits _) (digits_ne_nil _)
        (isDigit_padded _ _)
    · rw [Numeral.value, decimal_placesText, rounded, hneg]

theorem word_whole (x : Float) (n : Nat) (h : magnitudeWord x < infinityWord)
    (hn : unitsOf x = n * unitsPerOne) : (Decimal.mk n 0).word = magnitudeWord x := by
  rw [Decimal.word_eq]
  refine wordOfRatio_eq_of_units _ _ _ (Nat.pow_pos (by decide)) h ?_
  rw [unitsOf_of_finite x h] at hn
  simp only [show (0 : Int).toNat = 0 by decide, show (-0 : Int).toNat = 0 by decide,
    Nat.pow_zero, Nat.mul_one]
  exact hn.symm

/-- The digits of a whole number spell it, without a sign. -/
theorem spells_digits (x : Float) (n : Nat) (h : magnitudeWord x < infinityWord)
    (hn : unitsOf x = n * unitsPerOne) : Spells (digits n) [.number (unsigned x)] := by
  have hhead := head_isDigit (digits n) [] (isDigit_digits n) (digits_ne_nil n)
  rw [List.append_nil] at hhead
  refine spells_number _ _ (starts_signed false _ hhead) ?_
  intro rest hrest
  refine ⟨⟨false, digits n, [], 0⟩, ?_, ?_⟩
  · exact Numeral.read?_digits false (digits n) rest (isDigit_digits n) (digits_ne_nil n) hrest
  · rw [Numeral.value, Numeral.decimal, Decimal.toFloat, List.append_nil, digitsValue_digits,
      List.length_nil, Int.ofNat_zero, Int.sub_zero, word_whole x n h hn, unsigned]

/-- A duration is read back, without the sign of a zero. -/
theorem spells_durationText (x : Float) (h : x.isFinite = true) (hnonneg : 0 ≤ value x) :
    Spells (durationText x) [.number (unsigned x)] := by
  have hfinite := (isFinite_iff x).mp h
  have hsign := (zero_le_iff x hfinite).mp ((zero_le_value_iff x hfinite).mp hnonneg)
  unfold durationText
  simp only [magnitude_of_finite x hfinite, Magnitude.whole?]
  split
  · rename_i n hn
    rw [Option.ite_none_right_eq_some, Option.some.injEq] at hn
    have hunits : unitsOf x = n * unitsPerOne := by
      rw [← hn.2]
      exact (Nat.div_mul_cancel (Nat.dvd_of_mod_eq_zero hn.1)).symm
    -- A valid duration has a sign only if it is zero, and then the printer drops it.
    have hplain : ((Binary64.ofFloat x).negative && n != 0) = false := by
      rcases hsign with hneg | hzero
      · rw [hneg, Bool.false_and]
      · have hn0 : n = 0 := by
          rw [← hn.2, unitsOf_of_finite x hfinite, hzero, show unitsOfWord 0 = 0 by decide,
            Nat.zero_div]
        rw [hn0]
        exact Bool.and_false _
    rw [hplain]
    exact spells_digits x n hfinite hunits
  · -- What has a fraction is not zero, so it has no sign either.
    rename_i hfraction
    have hpos : magnitudeWord x ≠ 0 := by
      intro hzero
      rw [unitsOf_of_finite x hfinite, hzero] at hfraction
      exact absurd hfraction (by rw [show unitsOfWord 0 = 0 by decide, Nat.zero_mod]; simp)
    have hneg := hsign.resolve_right hpos
    have htext : shortest x = signed false (shortestDigits (magnitudeWord x)) := by
      unfold shortest
      simp only [magnitude_of_finite x hfinite, hneg]
      rfl
    rw [htext]
    refine spells_number _ _ (starts_signed false _ (head_shortestDigits _ hpos hfinite)) ?_
    intro rest hrest
    rcases Numeral.read?_shortestDigits false (magnitudeWord x) rest hpos hfinite hrest with
      ⟨n, hn, hsign', hword⟩
    exact ⟨n, hn, by rw [Numeral.value, Decimal.toFloat, hword, hsign', unsigned]⟩

/-- A count that a double can be is read back from its digits. -/
theorem spells_count (n : Nat) (h : Representable n) (hpos : 1 ≤ n) :
    ∃ x, IsCount x n ∧ Spells (digits n) [.number x] := by
  rcases h with ⟨y, hfinite, hvalue⟩
  have hword := (isFinite_iff y).mp hfinite
  have hnonneg : 0 ≤ value y := by
    rw [hvalue]
    exact Nat.cast_nonneg n
  have hunits : unitsOf y = n * unitsPerOne := by
    have habs := abs_value y
    rw [hvalue, Nat.abs_cast, eq_div_iff cast_unitsPerOne_pos.ne'] at habs
    exact_mod_cast habs.symm
  refine ⟨unsigned y, ⟨?_, ?_, hpos⟩, spells_digits y n hword hunits⟩
  · exact isFinite_unsigned y hfinite
  · rw [value_unsigned y hword hnonneg, hvalue]

end Script

end PlanarMotion
