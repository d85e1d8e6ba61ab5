/-!
# Blank Characters

The characters that separate tokens: those with the Unicode property `White_Space`,
and the four information separators `U+001C` to `U+001F`, which have blank effect in
bidirectional text without that property. There are twenty-nine.

## Main definitions

* `isBlank`: Whether a character is blank.
* `isWhiteSpace`: Whether it has the property `White_Space`.
* `dropBlanks`: A text without the blanks in front.
* `trimBlanks`, `trimWhiteSpace`: A text without those around it.

## Theorems

* `isBlank_of_range`: What ASCII prints is not blank.
* `length_dropBlanks_le`: Dropping blanks makes no text longer.
-/

namespace PlanarMotion

namespace Text

/-- The blank code points, as inclusive ranges in increasing order. -/
def blankRanges : List (Nat × Nat) :=
  [(0x09, 0x0D), (0x1C, 0x20), (0x85, 0x85), (0xA0, 0xA0), (0x1680, 0x1680),
   (0x2000, 0x200A), (0x2028, 0x2029), (0x202F, 0x202F), (0x205F, 0x205F),
   (0x3000, 0x3000)]

/-- Whether a character is blank. -/
def isBlank (c : Char) : Bool :=
  blankRanges.any fun (low, high) => decide (low ≤ c.toNat) && decide (c.toNat ≤ high)

/-- Whether a character is one of the four information separators. -/
def isSeparator (c : Char) : Bool :=
  decide (0x1C ≤ c.toNat) && decide (c.toNat ≤ 0x1F)

/-- Whether a character has the property `White_Space`. -/
def isWhiteSpace (c : Char) : Bool :=
  isBlank c && !isSeparator c

/-- A text without the blanks in front. -/
def dropBlanks (cs : List Char) : List Char :=
  cs.dropWhile isBlank

/-- A text without the blanks at its end. -/
def dropBlanksRight (cs : List Char) : List Char :=
  (dropBlanks cs.reverse).reverse

/-- A text without the blanks around it. -/
def trimBlanks (cs : List Char) : List Char :=
  dropBlanksRight (dropBlanks cs)

/-- A text without the white space around it. -/
def trimWhiteSpace (cs : List Char) : List Char :=
  ((cs.dropWhile isWhiteSpace).reverse.dropWhile isWhiteSpace).reverse

/-- The characters that ASCII prints are not blank. -/
theorem isBlank_of_range (c : Char) (hlow : 0x21 ≤ c.toNat) (hhigh : c.toNat ≤ 0x7E) :
    isBlank c = false := by
  have hapart : ∀ range ∈ blankRanges, range.2 < 0x21 ∨ 0x7E < range.1 := by decide
  rw [isBlank, List.any_eq_false]
  intro range hrange
  have hside := hapart range hrange
  rw [Bool.and_eq_true, decide_eq_true_eq, decide_eq_true_eq]
  omega

/-- Dropping blanks makes no text longer. -/
theorem length_dropBlanks_le (cs : List Char) : (dropBlanks cs).length ≤ cs.length :=
  (List.dropWhile_sublist isBlank).length_le

end Text

end PlanarMotion
