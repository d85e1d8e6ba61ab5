import PlanarMotion.Proofs.Number.ReadBack
import PlanarMotion.Proofs.Text.Digits
import PlanarMotion.Number.Fixed
import PlanarMotion.Script.Token

/-!
# Written Numerals Read Back

A numeral is read as long as the text goes on with its characters, so a written numeral
is read whole exactly if what follows it is of another kind. `Ends` says that of a text,
for numerals and for names at once: nothing follows, or a character that continues
neither.

A numeral that is read keeps the digits as they were written. The decimal they denote is
the one that was written up to zeros that moved between the digits and the exponent, and
`Decimal.word_shift` says that those do not matter.

## Main definitions

* `Ends`: A text that continues no number and no name.

## Theorems

* `Numeral.read?_signed`: A numeral is read part by part.
* `Numeral.read?_digits`: Digits are read as they are written.
* `Numeral.read?_point`: So are digits around a point.
* `Numeral.read?_write`: A decimal is read back from its shortest layout.
-/

namespace PlanarMotion

namespace Script

open PlanarMotion.Number PlanarMotion.Text

/-- What follows a number or a name: nothing, or a character that continues neither. -/
def Ends (rest : List Char) : Prop :=
  rest.head?.all (fun c => !(continuesName c || isDigit c || c == '.')) = true

instance (rest : List Char) : Decidable (Ends rest) :=
  inferInstanceAs (Decidable (_ = _))

theorem ends_nil : Ends [] :=
  rfl

theorem Ends.append (cs ds : List Char) (hcs : Ends cs) (hds : Ends ds) : Ends (cs ++ ds) := by
  cases cs with
  | nil => exact hds
  | cons c cs => exact hcs

theorem Ends.not_continuesName (rest : List Char) (h : Ends rest) :
    rest.head?.any continuesName = false := by
  cases rest with
  | nil => rfl
  | cons c rest =>
      simp only [Ends, List.head?_cons, Option.all_some, Bool.not_eq_true',
        Bool.or_eq_false_iff] at h
      rw [List.head?_cons, Option.any_some, h.1.1]

theorem Ends.not_isDigit (rest : List Char) (h : Ends rest) :
    rest.head?.any isDigit = false := by
  cases rest with
  | nil => rfl
  | cons c rest =>
      simp only [Ends, List.head?_cons, Option.all_some, Bool.not_eq_true',
        Bool.or_eq_false_iff] at h
      rw [List.head?_cons, Option.any_some, h.1.2]

theorem Ends.ne_point (rest : List Char) (h : Ends rest) : rest.head? ≠ some '.' := by
  intro hpoint
  rw [Ends, hpoint] at h
  exact absurd h (by decide)

-- A row of characters of one kind is taken whole if what follows begins with another kind.
theorem takeWhile_append_eq (p : Char → Bool) (cs rest : List Char) (hcs : ∀ c ∈ cs, p c = true)
    (hrest : rest.head?.any p = false) :
    (cs ++ rest).takeWhile p = cs ∧ (cs ++ rest).dropWhile p = rest := by
  have hnone : rest.takeWhile p = [] ∧ rest.dropWhile p = rest := by
    cases rest with
    | nil => exact ⟨rfl, rfl⟩
    | cons c rest =>
        rw [List.head?_cons, Option.any_some] at hrest
        rw [List.takeWhile_cons_of_neg (Bool.eq_false_iff.mp hrest),
          List.dropWhile_cons_of_neg (Bool.eq_false_iff.mp hrest)]
        exact ⟨rfl, rfl⟩
  rw [List.takeWhile_append_of_pos hcs, List.dropWhile_append_of_pos hcs, hnone.1, hnone.2,
    List.append_nil]
  exact ⟨rfl, rfl⟩

theorem takeWhile_isDigit (ds rest : List Char) (hds : ∀ c ∈ ds, c.isDigit = true)
    (hrest : rest.head?.any isDigit = false) :
    (ds ++ rest).takeWhile isDigit = ds ∧ (ds ++ rest).dropWhile isDigit = rest :=
  takeWhile_append_eq isDigit ds rest (fun c hc => isDigit_of_isDigit c (hds c hc)) hrest

/-- Digits in front of a point. -/
theorem readMantissa?_of_point (cs rest : List Char) (h : cs.dropWhile isDigit = '.' :: rest)
    (hne : cs.takeWhile isDigit ≠ [] ∨ rest.takeWhile isDigit ≠ []) :
    readMantissa? cs = some (cs.takeWhile isDigit, rest.takeWhile isDigit,
      rest.dropWhile isDigit) := by
  have hsome : ¬ ((cs.takeWhile isDigit).isEmpty && (rest.takeWhile isDigit).isEmpty) = true := by
    rw [Bool.and_eq_true, List.isEmpty_iff, List.isEmpty_iff]
    exact fun hnone => hne.elim (absurd hnone.1) (absurd hnone.2)
  unfold readMantissa?
  simp only [h, if_neg hsome]

/-- Digits without a point behind them. -/
theorem readMantissa?_of_no_point (cs : List Char) (h : (cs.dropWhile isDigit).head? ≠ some '.')
    (hne : cs.takeWhile isDigit ≠ []) :
    readMantissa? cs = some (cs.takeWhile isDigit, [], cs.dropWhile isDigit) := by
  unfold readMantissa?
  simp only
  split
  · rename_i hpoint
    rw [hpoint] at h
    exact absurd rfl h
  · rw [if_neg (by rw [List.isEmpty_iff]; exact hne)]

theorem readMantissa?_digits (ds rest : List Char) (hds : ∀ c ∈ ds, c.isDigit = true)
    (hne : ds ≠ []) (hrest : rest.head?.any isDigit = false) (hpoint : rest.head? ≠ some '.') :
    readMantissa? (ds ++ rest) = some (ds, [], rest) := by
  rcases takeWhile_isDigit ds rest hds hrest with ⟨htake, hdrop⟩
  rw [← htake] at hne
  rw [← hdrop] at hpoint
  rw [readMantissa?_of_no_point _ hpoint hne, htake, hdrop]

/-- Digits around a point are taken, if no further digit follows. -/
theorem readMantissa?_point (ds fs rest : List Char) (hds : ∀ c ∈ ds, c.isDigit = true)
    (hne : ds ≠ []) (hfs : ∀ c ∈ fs, c.isDigit = true)
    (hrest : rest.head?.any isDigit = false) :
    readMantissa? (ds ++ '.' :: (fs ++ rest)) = some (ds, fs, rest) := by
  have hpoint : isDigit '.' = false := by decide
  rcases takeWhile_isDigit ds ('.' :: (fs ++ rest)) hds hpoint with ⟨htake, hdrop⟩
  rcases takeWhile_isDigit fs rest hfs hrest with ⟨htake', hdrop'⟩
  rw [← htake] at hne
  rw [readMantissa?_of_point _ _ hdrop (Or.inl hne), htake, htake', hdrop']

/-- Without its letter there is no exponent. -/
theorem readExponent_of_head (rest : List Char)
    (h : rest.head?.any (fun c => c == 'e' || c == 'E') = false) :
    readExponent rest = (0, rest) := by
  cases rest with
  | nil => rfl
  | cons c rest =>
      simp only [List.head?_cons, Option.any_some, Bool.or_eq_false_iff, beq_eq_false_iff_ne] at h
      rw [readExponent, if_neg (not_or.mpr h)]

/-- An exponent with digits is taken. -/
theorem readExponent_of_digits (c : Char) (rest : List Char) (hc : c = 'e' ∨ c = 'E')
    (h : (readSign rest).2.takeWhile isDigit ≠ []) :
    readExponent (c :: rest)
      = (if (readSign rest).1 then -(digitsValue ((readSign rest).2.takeWhile isDigit) : Int)
          else digitsValue ((readSign rest).2.takeWhile isDigit),
        (readSign rest).2.dropWhile isDigit) := by
  have hsome : ¬ ((readSign rest).2.takeWhile isDigit).isEmpty = true := by
    rw [List.isEmpty_iff]
    exact h
  rw [readExponent, if_pos hc]
  simp only [if_neg hsome]

/-- An exponent that is printed with a sign is read with it. -/
theorem readExponent_mark (negative : Bool) (ds rest : List Char)
    (hds : ∀ c ∈ ds, c.isDigit = true) (hne : ds ≠ [])
    (hrest : rest.head?.any isDigit = false) :
    readExponent ('e' :: (if negative then '-' else '+') :: (ds ++ rest))
      = (if negative then -(digitsValue ds : Int) else digitsValue ds, rest) := by
  rcases takeWhile_isDigit ds rest hds hrest with ⟨htake, hdrop⟩
  have hsign : readSign ((if negative then '-' else '+') :: (ds ++ rest))
      = (negative, ds ++ rest) := by
    cases negative <;> rfl
  rw [readExponent_of_digits 'e' _ (Or.inl rfl) (by rw [hsign, htake]; exact hne), hsign, htake,
    hdrop]

-- Exponents and size marks begin with letters, and a letter continues a name.
theorem Ends.readExponent (rest : List Char) (h : Ends rest) : readExponent rest = (0, rest) := by
  refine readExponent_of_head rest ?_
  have hname := h.not_continuesName
  cases rest with
  | nil => rfl
  | cons c rest =>
      rw [List.head?_cons, Option.any_some] at hname ⊢
      rw [Bool.or_eq_false_iff, beq_eq_false_iff_ne, beq_eq_false_iff_ne]
      constructor
      · rintro rfl
        exact absurd hname (by decide)
      · rintro rfl
        exact absurd hname (by decide)

/-- And no size mark is dropped. -/
theorem Ends.dropSuffix (rest : List Char) (h : Ends rest) : dropSuffix rest = rest := by
  have hname := h.not_continuesName
  cases rest with
  | nil => rfl
  | cons c rest =>
      rw [List.head?_cons, Option.any_some] at hname
      refine if_neg ?_
      rintro (rfl | rfl)
      · exact absurd hname (by decide)
      · exact absurd hname (by decide)

theorem signed_append (negative : Bool) (body rest : List Char) :
    signed negative body ++ rest = signed negative (body ++ rest) := by
  cases negative <;> rfl

/-- A sign is read as it is printed. -/
theorem readSign_signed (negative : Bool) (c : Char) (cs : List Char) (h : c.isDigit = true) :
    readSign (signed negative (c :: cs)) = (negative, c :: cs) := by
  cases negative with
  | true => rfl
  | false =>
      -- The digit in front is not taken for a sign.
      have hminus : c ≠ '-' := by
        rintro rfl
        exact absurd h (by decide)
      have hplus : c ≠ '+' := by
        rintro rfl
        exact absurd h (by decide)
      rw [signed, if_neg Bool.false_ne_true]
      unfold readSign
      split
      · exact absurd (List.cons.inj ‹_›).1 hminus
      · exact absurd (List.cons.inj ‹_›).1 hplus
      · rfl

/-- A numeral is read part by part: its sign, its digits, its exponent and its size mark. -/
theorem Numeral.read?_signed (negative : Bool) (ds tail whole fraction rest : List Char)
    (hds : ∀ c ∈ ds, c.isDigit = true) (hne : ds ≠ [])
    (hmantissa : readMantissa? (ds ++ tail) = some (whole, fraction, rest)) :
    Numeral.read? (signed negative (ds ++ tail))
      = some (⟨negative, whole, fraction, (readExponent rest).1⟩,
          dropSuffix (readExponent rest).2) := by
  cases ds with
  | nil => exact absurd rfl hne
  | cons c cs =>
      have hsign := readSign_signed negative c (cs ++ tail) (hds c List.mem_cons_self)
      rw [List.cons_append] at hmantissa ⊢
      unfold Numeral.read?
      simp only [hsign, hmantissa, Option.map_some]

theorem Numeral.read?_digits (negative : Bool) (ds rest : List Char)
    (hds : ∀ c ∈ ds, c.isDigit = true) (hne : ds ≠ []) (hrest : Ends rest) :
    Numeral.read? (signed negative ds ++ rest) = some (⟨negative, ds, [], 0⟩, rest) := by
  rw [signed_append, Numeral.read?_signed negative ds rest ds [] rest hds hne
    (readMantissa?_digits ds rest hds hne hrest.not_isDigit hrest.ne_point), hrest.readExponent,
    hrest.dropSuffix]

/-- A decimal with a point is read whole if something ends it. -/
theorem Numeral.read?_point (negative : Bool) (ds fs rest : List Char)
    (hds : ∀ c ∈ ds, c.isDigit = true) (hne : ds ≠ []) (hfs : ∀ c ∈ fs, c.isDigit = true)
    (hrest : Ends rest) :
    Numeral.read? (signed negative (ds ++ '.' :: fs) ++ rest)
      = some (⟨negative, ds, fs, 0⟩, rest) := by
  rw [signed_append, List.append_assoc, List.cons_append,
    Numeral.read?_signed negative ds _ ds fs rest hds hne
      (readMantissa?_point ds fs rest hds hne hfs hrest.not_isDigit), hrest.readExponent,
    hrest.dropSuffix]

/-- It is also read whole if a size mark follows, whatever comes then. -/
theorem Numeral.read?_point_suffix (negative : Bool) (ds fs rest : List Char)
    (hds : ∀ c ∈ ds, c.isDigit = true) (hne : ds ≠ []) (hfs : ∀ c ∈ fs, c.isDigit = true) :
    Numeral.read? (signed negative (ds ++ '.' :: fs) ++ 'f' :: rest)
      = some (⟨negative, ds, fs, 0⟩, rest) := by
  have hdigit : isDigit 'f' = false := by decide
  rw [signed_append, List.append_assoc, List.cons_append,
    Numeral.read?_signed negative ds _ ds fs ('f' :: rest) hds hne
      (readMantissa?_point ds fs ('f' :: rest) hds hne hfs hdigit),
    readExponent_of_head ('f' :: rest) rfl]
  rfl

/-- The digits of a decimal and where its point is, as far as the double depends on them. -/
theorem Numeral.read?_positional (negative : Bool) (ds : List Char) (exponent : Int)
    (rest : List Char) (hds : ∀ c ∈ ds, c.isDigit = true) (hne : ds ≠ []) (hrest : Ends rest) :
    ∃ n, Numeral.read? (signed negative (positional ['.', '0'] ds exponent) ++ rest)
        = some (n, rest) ∧
      n.negative = negative ∧
      n.decimal.word = (Decimal.mk (digitsValue ds) (exponent - (ds.length - 1))).word := by
  have hzero : ∀ c ∈ ['0'], c.isDigit = true := List.forall_mem_singleton.mpr (by decide)
  unfold positional
  simp only
  split
  · -- Zeros between the point and the digits count for places, not for the value.
    have hfs : ∀ c ∈ List.replicate (exponent.natAbs - 1) '0' ++ ds, c.isDigit = true :=
      List.forall_mem_append.mpr ⟨isDigit_replicate _, hds⟩
    refine ⟨_, Numeral.read?_point negative ['0'] _ rest hzero (List.cons_ne_nil _ _) hfs hrest,
      rfl, ?_⟩
    have hvalue : digitsValue (['0'] ++ (List.replicate (exponent.natAbs - 1) '0' ++ ds))
        = digitsValue ds := by
      rw [digitsValue_append, digitsValue_append, digitsValue_replicate,
        show digitsValue ['0'] = 0 by decide]
      omega
    have hlength : (0 : Int) - (List.replicate (exponent.natAbs - 1) '0' ++ ds).length
        = exponent - (ds.length - 1) := by
      rw [List.length_append, List.length_replicate]
      omega
    rw [Numeral.decimal, hvalue, hlength]
  · split
    · -- Zeros between the digits and the point are moved to the exponent.
      rename_i hexponent hlong
      have hwhole : ∀ c ∈ ds ++ List.replicate (exponent.toNat + 1 - ds.length) '0',
          c.isDigit = true := List.forall_mem_append.mpr ⟨hds, isDigit_replicate _⟩
      refine ⟨_, Numeral.read?_point negative _ ['0'] rest hwhole
        (List.append_ne_nil_of_left_ne_nil hne _) hzero hrest, rfl, ?_⟩
      have hvalue : digitsValue
          (ds ++ List.replicate (exponent.toNat + 1 - ds.length) '0' ++ ['0'])
          = digitsValue ds * 10 ^ (exponent.toNat + 2 - ds.length) := by
        rw [digitsValue_append, digitsValue_append, digitsValue_replicate, List.length_replicate,
          show digitsValue ['0'] = 0 by decide,
          show exponent.toNat + 2 - ds.length = exponent.toNat + 1 - ds.length + 1 by omega,
          Nat.add_zero, Nat.add_zero, List.length_singleton, Nat.pow_succ, Nat.pow_succ,
          Nat.pow_zero, Nat.one_mul, Nat.mul_assoc]
      have hshift : (0 : Int) - (['0'] : List Char).length + (exponent.toNat + 2 - ds.length : Nat)
          = exponent - (ds.length - 1) := by
        rw [List.length_singleton]
        omega
      rw [Numeral.decimal, hvalue, Decimal.word_shift, hshift]
    · -- The point is between the digits, which stay as they are.
      rename_i hexponent hlong
      have htake : ∀ c ∈ ds.take (exponent.toNat + 1), c.isDigit = true :=
        fun c hc => hds c (List.mem_of_mem_take hc)
      have hdrop : ∀ c ∈ ds.drop (exponent.toNat + 1), c.isDigit = true :=
        fun c hc => hds c (List.mem_of_mem_drop hc)
      refine ⟨_, Numeral.read?_point negative _ _ rest htake ?_ hdrop hrest, rfl, ?_⟩
      · rw [Ne, List.take_eq_nil_iff]
        simp only [Nat.add_eq_zero_iff, Nat.one_ne_zero, and_false, hne, or_self,
          not_false_eq_true]
      · have hpoint : (0 : Int) - (ds.length - (exponent.toNat + 1) : Nat)
            = exponent - (ds.length - 1) := by omega
        rw [Numeral.decimal, List.take_append_drop, List.length_drop, hpoint]

/-- The digits of a decimal in scientific notation, and where its point is. -/
theorem Numeral.read?_scientific (negative : Bool) (ds : List Char) (exponent : Int)
    (rest : List Char) (hds : ∀ c ∈ ds, c.isDigit = true) (hne : ds ≠ []) (hrest : Ends rest) :
    ∃ n, Numeral.read? (signed negative (scientific ds exponent) ++ rest) = some (n, rest) ∧
      n.negative = negative ∧
      n.decimal = Decimal.mk (digitsValue ds) (exponent - (ds.length - 1)) := by
  cases ds with
  | nil => exact absurd rfl hne
  | cons d fs =>
      rw [List.forall_mem_cons] at hds
      have hd : ∀ c ∈ [d], c.isDigit = true := List.forall_mem_singleton.mpr hds.1
      -- The exponent, from its mark on.
      let tail := 'e' :: (if exponent < 0 then '-' else '+') :: (padded 2 exponent.natAbs ++ rest)
      have htail : tail.head?.any isDigit = false := by
        rw [List.head?_cons, Option.any_some]
        decide
      have hexponent : readExponent tail = (exponent, rest) := by
        have hread := readExponent_mark (decide (exponent < 0)) (padded 2 exponent.natAbs) rest
          (isDigit_padded _ _) (List.append_ne_nil_of_right_ne_nil _ (digits_ne_nil _))
          hrest.not_isDigit
        have hvalue : (if exponent < 0 then -(exponent.natAbs : Int) else exponent.natAbs)
            = exponent := by
          split <;> omega
        simp only [decide_eq_true_eq, digitsValue_padded] at hread
        rw [hread, hvalue]
      have hmantissa : readMantissa? ([d] ++ ((if fs.isEmpty then [] else '.' :: fs) ++ tail))
          = some ([d], fs, tail) := by
        cases fs with
        | nil =>
            have hpoint : tail.head? ≠ some '.' := by
              rw [List.head?_cons]
              decide
            exact readMantissa?_digits [d] tail hd (List.cons_ne_nil _ _) htail hpoint
        | cons f fs =>
            exact readMantissa?_point [d] (f :: fs) tail hd (List.cons_ne_nil _ _) hds.2 htail
      have htext : signed negative (scientific (d :: fs) exponent) ++ rest
          = signed negative ([d] ++ ((if fs.isEmpty then [] else '.' :: fs) ++ tail)) := by
        have hmark : (if exponent < 0 then ['e', '-'] else ['e', '+'])
            = ['e', if exponent < 0 then '-' else '+'] := by
          split <;> rfl
        rw [signed_append, scientific]
        simp only [hmark, List.take_succ_cons, List.take_zero, List.drop_succ_cons,
          List.drop_zero, List.append_assoc, tail]
        rfl
      refine ⟨⟨negative, [d], fs, exponent⟩, ?_, rfl, ?_⟩
      · rw [htext, Numeral.read?_signed negative [d] _ [d] fs tail hd (List.cons_ne_nil _ _)
          hmantissa, hexponent, hrest.dropSuffix]
      · have hlength : exponent - fs.length = exponent - ((d :: fs).length - 1) := by
          rw [List.length_cons]
          omega
        rw [Numeral.decimal, hlength, List.singleton_append]

theorem Numeral.read?_write (negative : Bool) (ds : List Char) (exponent : Int)
    (rest : List Char) (hds : ∀ c ∈ ds, c.isDigit = true) (hne : ds ≠ []) (hrest : Ends rest) :
    ∃ n, Numeral.read? (signed negative (shortestLayout.write ds exponent) ++ rest)
        = some (n, rest) ∧
      n.negative = negative ∧
      n.decimal.word = (Decimal.mk (digitsValue ds) (exponent - (ds.length - 1))).word := by
  unfold Layout.write
  split
  · exact Numeral.read?_positional negative ds exponent rest hds hne hrest
  · rcases Numeral.read?_scientific negative ds exponent rest hds hne hrest with ⟨n, hn, hneg, hd⟩
    exact ⟨n, hn, hneg, by rw [hd]⟩

/-- Digits without the zeros at their end are read back as the decimal they were of. -/
theorem Numeral.read?_trimZeros (negative : Bool) (d : Decimal) (rest : List Char)
    (hpos : d.coefficient ≠ 0) (hrest : Ends rest) :
    ∃ n, Numeral.read? (signed negative (shortestLayout.write (trimZeros (digits d.coefficient))
          (d.exponent + (digits d.coefficient).length - 1)) ++ rest) = some (n, rest) ∧
      n.negative = negative ∧ n.decimal.word = d.word := by
  -- A digit is left, as the coefficient is not zero.
  have hne := trimZeros_ne_nil (digits d.coefficient) (by rw [digitsValue_digits]; exact hpos)
  have hdigit := isDigit_trimZeros _ (isDigit_digits d.coefficient)
  rcases exists_trimZeros (digits d.coefficient) with ⟨count, hzeros⟩
  generalize trimZeros (digits d.coefficient) = ds at hne hdigit hzeros
  rcases Numeral.read?_write negative ds (d.exponent + (digits d.coefficient).length - 1) rest
    hdigit hne hrest with ⟨n, hn, hneg, hword⟩
  refine ⟨n, hn, hneg, ?_⟩
  -- The zeros that were trimmed are in the exponent of what is read.
  have hcoefficient : d.coefficient = digitsValue ds * 10 ^ count := by
    have hsplit := digitsValue_append ds (List.replicate count '0')
    rw [← hzeros, digitsValue_digits, digitsValue_replicate, List.length_replicate] at hsplit
    exact hsplit
  have hexponent : d.exponent + (digits d.coefficient).length - 1 - (ds.length - 1)
      = d.exponent + count := by
    rw [hzeros, List.length_append, List.length_replicate]
    omega
  rw [hword, hexponent, ← Decimal.word_shift, ← hcoefficient]

-- Were its coefficient zero, the decimal would read back as the zero word.
theorem coefficient_shortestDecimal (word : Nat) (hpos : word ≠ 0) (hword : word < infinityWord) :
    (shortestDecimal word).coefficient ≠ 0 := by
  have hback := word_shortestDecimal word hword
  intro hzero
  rw [Decimal.word, if_pos hzero] at hback
  exact hpos hback.symm

theorem Numeral.read?_shortestDigits (negative : Bool) (word : Nat) (rest : List Char)
    (hpos : word ≠ 0) (hword : word < infinityWord) (hrest : Ends rest) :
    ∃ n, Numeral.read? (signed negative (shortestDigits word) ++ rest) = some (n, rest) ∧
      n.negative = negative ∧ n.decimal.word = word := by
  rcases Numeral.read?_trimZeros negative (shortestDecimal word) rest
    (coefficient_shortestDecimal word hpos hword) hrest with ⟨n, hn, hneg, hd⟩
  rw [shortestDigits, if_neg hpos]
  exact ⟨n, hn, hneg, hd.trans (word_shortestDecimal word hword)⟩

end Script

end PlanarMotion
