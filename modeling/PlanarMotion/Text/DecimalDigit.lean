/-!
# Decimal Digits

A numeral may be written with the decimal digits of any script: the characters of
Unicode category `Nd`, which come in runs of ten consecutive code points from zero
to nine. Only the start of each run has to be listed, and the value of a digit is
its distance from there.

## Main definitions

* `digitZeros`: The code points of the zeros, one for each run.
* `digitValue?`: The value of a decimal digit.
* `isDigit`: Whether a character is a decimal digit.
* `digitsValue`: The number that a list of digits denotes.

## Theorems

* `isDigit_iff`: The digits are the runs of ten.
-/

namespace PlanarMotion

namespace Text

/-- The code points of the zeros of all scripts, in increasing order. -/
def digitZeros : List Nat :=
  [0x30, 0x660, 0x6F0, 0x7C0, 0x966, 0x9E6, 0xA66, 0xAE6, 0xB66, 0xBE6, 0xC66, 0xCE6,
   0xD66, 0xDE6, 0xE50, 0xED0, 0xF20, 0x1040, 0x1090, 0x17E0, 0x1810, 0x1946, 0x19D0,
   0x1A80, 0x1A90, 0x1B50, 0x1BB0, 0x1C40, 0x1C50, 0xA620, 0xA8D0, 0xA900, 0xA9D0,
   0xA9F0, 0xAA50, 0xABF0, 0xFF10, 0x104A0, 0x10D30, 0x11066, 0x110F0, 0x11136, 0x111D0,
   0x112F0, 0x11450, 0x114D0, 0x11650, 0x116C0, 0x11730, 0x118E0, 0x11950, 0x11C50,
   0x11D50, 0x11DA0, 0x16A60, 0x16AC0, 0x16B50, 0x1D7CE, 0x1D7D8, 0x1D7E2, 0x1D7EC,
   0x1D7F6, 0x1E140, 0x1E2F0, 0x1E950, 0x1FBF0]

/-- The value of a decimal digit; `none` for every other character. -/
def digitValue? (c : Char) : Option Nat :=
  digitZeros.findSome? fun start =>
    if start ≤ c.toNat ∧ c.toNat < start + 10 then some (c.toNat - start) else none

/-- Whether a character is a decimal digit of some script. -/
def isDigit (c : Char) : Bool :=
  (digitValue? c).isSome

/-- The number that a list of digits denotes; what is no digit counts as zero. -/
def digitsValue (cs : List Char) : Nat :=
  cs.foldl (fun value c => 10 * value + (digitValue? c).getD 0) 0

/-- The digits are the runs of ten that begin with the zeros. -/
theorem isDigit_iff (c : Char) :
    isDigit c = true ↔ ∃ start ∈ digitZeros, start ≤ c.toNat ∧ c.toNat < start + 10 := by
  rw [isDigit, digitValue?, List.findSome?_isSome_iff]
  constructor
  · rintro ⟨start, hstart, hvalue⟩
    refine ⟨start, hstart, ?_⟩
    by_cases hin : start ≤ c.toNat ∧ c.toNat < start + 10
    · exact hin
    · rw [if_neg hin] at hvalue
      cases hvalue
  · rintro ⟨start, hstart, hin⟩
    exact ⟨start, hstart, by rw [if_pos hin]; rfl⟩

end Text

end PlanarMotion
