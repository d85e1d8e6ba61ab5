import PlanarMotion.Number.Decimal
import PlanarMotion.Text.DecimalDigit

/-!
# Numerals

A numeral is an optional sign, digits with an optional point among or in front of
them, an optional exponent and an optional `f` that marks the number's size and has
no meaning here. Reading takes as much of the text as belongs to the numeral: a
letter `e` without digits behind it is left for the next token.

A numeral keeps its parts as written. Its value joins the digits on both sides of
the point into one coefficient, so a single rounding makes the double.

## Main definitions

* `Numeral`: The parts of a numeral.
* `Numeral.decimal`: Its exact unsigned value.
* `Numeral.value`: The double it denotes.
* `Numeral.read?`: Takes a numeral off the front of a text.

## Theorems

* `Numeral.read?_length_lt`: A numeral takes at least one character.
-/

namespace PlanarMotion

namespace Script

open PlanarMotion.Number PlanarMotion.Text

/-- The parts of a numeral as written. -/
structure Numeral where
  /-- Whether it has a minus sign. -/
  negative : Bool
  /-- The digits in front of the point. -/
  whole : List Char
  /-- The digits behind the point. -/
  fraction : List Char
  /-- The value of the exponent, zero if there is none. -/
  exponent : Int
  deriving DecidableEq, Repr

/-- The exact unsigned value: all digits as one number, scaled down by the fraction's
    length. -/
def Numeral.decimal (n : Numeral) : Decimal :=
  ⟨digitsValue (n.whole ++ n.fraction), n.exponent - n.fraction.length⟩

/-- The double nearest to the numeral's value. -/
def Numeral.value (n : Numeral) : Float :=
  n.decimal.toFloat n.negative

/-- Takes an optional sign off the front of a text. -/
def readSign : List Char → Bool × List Char
  | '-' :: rest => (true, rest)
  | '+' :: rest => (false, rest)
  | rest => (false, rest)

/-- Takes the digits around the point off the front of a text. One of the two sides may
    be empty, and the point may be missing behind whole digits. -/
def readMantissa? (cs : List Char) : Option (List Char × List Char × List Char) :=
  let whole := cs.takeWhile isDigit
  match cs.dropWhile isDigit with
  | '.' :: rest =>
    let fraction := rest.takeWhile isDigit
    -- A point alone is no number.
    if whole.isEmpty && fraction.isEmpty then none
    else some (whole, fraction, rest.dropWhile isDigit)
  | rest => if whole.isEmpty then none else some (whole, [], rest)

/-- Takes an optional exponent off the front of a text. -/
def readExponent : List Char → Int × List Char
  | c :: rest =>
    if c = 'e' ∨ c = 'E' then
      let (negative, tail) := readSign rest
      let ds := tail.takeWhile isDigit
      -- Without digits it is no exponent, and the letter is left with its sign.
      if ds.isEmpty then (0, c :: rest)
      else
        let size : Int := digitsValue ds
        (if negative then -size else size, tail.dropWhile isDigit)
    else (0, c :: rest)
  | [] => (0, [])

/-- Drops one size mark from the front of a text, if there is one. -/
def dropSuffix : List Char → List Char
  | c :: rest => if c = 'f' ∨ c = 'F' then rest else c :: rest
  | [] => []

/-- Takes a numeral off the front of a text. -/
def Numeral.read? (cs : List Char) : Option (Numeral × List Char) :=
  let (negative, unsigned) := readSign cs
  (readMantissa? unsigned).map fun (whole, fraction, tail) =>
    let (exponent, rest) := readExponent tail
    (⟨negative, whole, fraction, exponent⟩, dropSuffix rest)

/-- Dropping a prefix of a text makes it no longer. -/
theorem length_dropDigits_le (cs : List Char) : (cs.dropWhile isDigit).length ≤ cs.length :=
  (List.dropWhile_sublist isDigit).length_le

/-- Reading a sign makes a text no longer. -/
theorem readSign_length_le (cs : List Char) : (readSign cs).2.length ≤ cs.length := by
  unfold readSign
  split <;> simp

/-- Reading digits makes a text shorter. -/
theorem readMantissa?_length_lt (cs whole fraction rest : List Char)
    (h : readMantissa? cs = some (whole, fraction, rest)) : rest.length < cs.length := by
  have htotal : (cs.takeWhile isDigit).length + (cs.dropWhile isDigit).length = cs.length := by
    rw [← List.length_append, List.takeWhile_append_dropWhile]
  unfold readMantissa? at h
  simp only at h
  split at h
  · rename_i tail htail
    have hle := length_dropDigits_le tail
    split at h
    · exact absurd h (by simp only [reduceCtorEq, not_false_eq_true])
    · simp only [Option.some.injEq, Prod.mk.injEq] at h
      rw [← h.2.2]
      rw [htail, List.length_cons] at htotal
      omega
  · split at h
    · exact absurd h (by simp only [reduceCtorEq, not_false_eq_true])
    · rename_i hne
      simp only [Option.some.injEq, Prod.mk.injEq] at h
      rw [← h.2.2]
      have hpos : 0 < (cs.takeWhile isDigit).length := by
        rw [List.length_pos_iff]
        simpa using hne
      omega

/-- Reading an exponent makes a text no longer. -/
theorem readExponent_length_le (cs : List Char) : (readExponent cs).2.length ≤ cs.length := by
  unfold readExponent
  split
  · rename_i c rest
    split
    · simp only
      split
      · simp
      · have hdrop := length_dropDigits_le (readSign rest).2
        have hsign := readSign_length_le rest
        simp only [List.length_cons]
        omega
    · simp
  · simp

/-- Dropping a size mark makes a text no longer. -/
theorem dropSuffix_length_le (cs : List Char) : (dropSuffix cs).length ≤ cs.length := by
  unfold dropSuffix
  split
  · split <;> simp
  · simp

/-- A numeral takes at least one character. -/
theorem Numeral.read?_length_lt (cs rest : List Char) (n : Numeral)
    (h : Numeral.read? cs = some (n, rest)) : rest.length < cs.length := by
  unfold Numeral.read? at h
  simp only [Option.map_eq_some_iff] at h
  obtain ⟨⟨whole, fraction, tail⟩, hmantissa, hparts⟩ := h
  simp only [Prod.mk.injEq] at hparts
  have hlt := readMantissa?_length_lt _ _ _ _ hmantissa
  have hsign := readSign_length_le cs
  have hexp := readExponent_length_le tail
  have hdrop := dropSuffix_length_le (readExponent tail).2
  rw [← hparts.2]
  omega

end Script

end PlanarMotion
