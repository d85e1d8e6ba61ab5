/-!
# Lines

A line may end in a line feed, a carriage return or both. Text that comes from a file has
line feeds only, so that nothing behind depends on where the file was written.

## Main definitions

* `unifyLineEnds`: A text whose lines all end in a line feed.

## Theorems

* `not_mem_unifyLineEnds`: No carriage return is left.
-/

namespace PlanarMotion

namespace Text

/-- The carriage return. -/
def carriageReturn : Char :=
  '\r'

/-- A text whose lines all end in a line feed. -/
def unifyLineEnds : List Char → List Char
  | '\r' :: '\n' :: rest => '\n' :: unifyLineEnds rest
  | '\r' :: rest => '\n' :: unifyLineEnds rest
  | c :: rest => c :: unifyLineEnds rest
  | [] => []

/-- No carriage return is left. -/
theorem not_mem_unifyLineEnds (cs : List Char) : carriageReturn ∉ unifyLineEnds cs := by
  fun_induction unifyLineEnds cs with
  | case1 rest ih => simpa [carriageReturn] using ih
  | case2 rest _ ih => simpa [carriageReturn] using ih
  | case3 c rest _ hc ih =>
    have hne : carriageReturn ≠ c := fun h => hc h.symm
    simpa [hne] using ih
  | case4 => simp

end Text

end PlanarMotion
