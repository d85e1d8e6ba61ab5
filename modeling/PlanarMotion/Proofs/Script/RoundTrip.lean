import PlanarMotion.Proofs.Script.Acceptance
import PlanarMotion.Proofs.Script.PrintedProgram

/-!
# Printing and Reading Back

A program that a text can hold is read back from its canonical text. What is read is
`Program.rounded`, and `RoundsTo` says in the terms of the two programs alone what that
keeps: everything but the literals, and of each literal the double nearest to the decimal
that was printed.

The grammar is what printing and reading have in common. The printed text has the tokens
that the grammar gives the rounded program, with a semicolon behind them, and the reader
accepts exactly what the grammar denotes. Neither the printer nor the reader has to be
compared with the other.

## Main definitions

* `Numeral.exactValue`: The value that a numeral denotes before it becomes a double.
* `RoundsTo`: A program and what is read back from its text.
* `IsRounding`: A literal and what is read back from its text.

## Theorems

* `denotes_print`, `read_print`: The canonical text denotes the rounded program, which is
  therefore read from it.
* `isRounding_rounded`: A literal is read as the double nearest to the printed decimal.
* `read_print_rounds`: A program is read back from its text, up to three places.
-/

namespace PlanarMotion

namespace Script

open PlanarMotion.Number PlanarMotion.Text

/-- The value that a numeral denotes before it becomes a double. -/
def Numeral.exactValue (n : Numeral) : ℚ :=
  (if n.negative then -1 else 1) * (n.decimal.coefficient * 10 ^ n.decimal.exponent)

/-- What a program has in common with the one that is read back from its text. -/
structure RoundsTo (p q : Program Float) : Prop where
  /-- The phases have the same methods, in the same order. -/
  methods : q.phases.map (·.method) = p.phases.map (·.method)
  /-- Durations have the same value. -/
  durations : q.phases.map (fun phase => value phase.duration)
    = p.phases.map fun phase => value phase.duration
  /-- Statements are of the same kinds and have the same counts of chords. -/
  forms : q.phases.map (fun phase => phase.statements.map fun s => (s.kind, s.segments?))
    = p.phases.map fun phase => phase.statements.map fun s => (s.kind, s.segments?)
  /-- Literals are cut to three places. -/
  literals : q.phases.map (fun phase => phase.statements.map fun s => s.literals)
    = p.phases.map fun phase => phase.statements.map fun s => s.literals.map rounded

/-- What a text keeps of a program has its outline, and each literal is rounded. -/
theorem roundsTo_rounded (p : Program Float) (hvalid : p.Valid) (h : p.Storable) :
    RoundsTo p p.rounded := by
  constructor
  · rw [Program.rounded, List.map_map]
    rfl
  · rw [Program.rounded, List.map_map]
    refine List.map_congr_left ?_
    intro phase hphase
    have hword := (isFinite_iff _).mp (h phase hphase).finite
    exact value_unsigned _ hword ((zero_le_value_iff _ hword).mpr (hvalid phase hphase).1)
  · rw [Program.rounded, List.map_map]
    refine List.map_congr_left ?_
    intro phase _
    simp only [Function.comp_def, Phase.rounded, List.map_map, Statement.kind_map,
      Statement.segments?_map]
  · rw [Program.rounded, List.map_map]
    refine List.map_congr_left ?_
    intro phase _
    simp only [Function.comp_def, Phase.rounded, List.map_map, Statement.literals_map]

/-- The canonical text of a program denotes what it keeps of the program. -/
theorem denotes_print (p : Program Float) (hvalid : p.Valid) (h : p.Storable) :
    Denotes (Token.ofText (print p)) p.rounded := by
  rcases tokensOf_printChars p h hvalid with ⟨front, hfront, htokens⟩
  have htext : Token.ofText (print p) = tokensOf (printChars p) := by
    rw [print, Token.ofText, String.toList_ofList, tokensOf]
  -- Nothing follows the semicolon of a printed text.
  rw [htext, htokens]
  exact Or.inr ⟨front, [], rfl, hfront⟩

/-- What is read from the canonical text is what it keeps of the program. -/
theorem read_print (p : Program Float) (hvalid : p.Valid) (h : p.Storable) :
    read (print p) = .ok p.rounded :=
  (readTokens_eq_ok_iff _ _).mpr (denotes_print p hvalid h)

/-- The text with three places denotes as many thousandths, with the sign. -/
theorem exactValue_fixed (x : Float) (h : magnitudeWord x < infinityWord) :
    ∃ n, Numeral.read? (fixed 3 x) = some (n, []) ∧ n.exactValue = printedValue x ∧
      n.value = Decimal.toFloat (Binary64.ofFloat x).negative ⟨thousandths x, -3⟩ := by
  have hread := read?_placesText (Binary64.ofFloat x).negative (thousandths x) [] ends_nil
  rw [List.append_nil, ← fixed_eq x h] at hread
  refine ⟨_, hread, ?_, ?_⟩
  -- Three places stand for thousandths.
  · have hscale : (10 : ℚ) ^ (-3 : ℤ) = 1 / 1000 := by norm_num
    rw [Numeral.exactValue, decimal_placesText, printedValue, signOf, hscale, mul_one_div]
  · rw [Numeral.value, decimal_placesText]

/-- What is read for a literal, in terms of the text that is printed for it: the finite double
    nearest to the decimal of three places, without the sign of a zero. It is at most a
    thousandth off. -/
structure IsRounding (x q : Float) : Prop where
  /-- What is read is finite. -/
  finite : q.isFinite = true
  /-- It is nearest to the decimal that is printed. -/
  nearest : ∃ n, Numeral.read? (fixed 3 x) = some (n, []) ∧ ∀ y : Float, y.isFinite = true →
    |value q - n.exactValue| ≤ |value y - n.exactValue|
  /-- It is no zero with a sign. -/
  unsigned_zero : value q = 0 → q = floatOfWord false 0
  /-- It is at most a thousandth off. -/
  close : |value q - value x| ≤ 1 / 1000

theorem isRounding_rounded (x : Float) (h : x.isFinite = true) : IsRounding x (rounded x) := by
  have hword := (isFinite_iff x).mp h
  rcases exactValue_fixed x hword with ⟨n, hread, hexact, -⟩
  refine ⟨isFinite_rounded x h, ⟨n, hread, ?_⟩, ?_, abs_value_rounded_sub_value_le x hword⟩
  · intro y hy
    rw [hexact]
    exact abs_value_rounded_sub_le x y hword ((isFinite_iff y).mp hy)
  · intro hzero
    have hunits : unitsOf (rounded x) = 0 := by
      have habs := abs_value (rounded x)
      rw [hzero, abs_zero, eq_comm, div_eq_zero_iff] at habs
      exact_mod_cast habs.resolve_right cast_unitsPerOne_pos.ne'
    -- Without units nothing is printed either, and so there was no sign to read.
    have hcount : thousandths x = 0 := by
      have hnone := roundDiv_mul_self 0 unitsPerOne unitsPerOne_pos
      rw [Nat.zero_mul] at hnone
      rw [← thousandths_rounded x hword, thousandths, hunits, Nat.zero_mul, hnone]
    rw [rounded, hcount, bne_self_eq_false, Bool.and_false]
    rfl

/-- Round trip. A text that is read is read as a program that can be built and that a text can
    hold. Every such program is read back from its canonical text, as the same program with
    every literal replaced by its rounding. -/
theorem read_print_rounds :
    (∀ text p, read text = .ok p → p.Valid ∧ p.Storable) ∧
    (∀ p : Program Float, p.Valid → p.Storable → ∃ q, read (print p) = .ok q ∧ RoundsTo p q) ∧
    (∀ x : Float, x.isFinite = true → IsRounding x (rounded x)) := by
  refine ⟨?_, ?_, isRounding_rounded⟩
  · intro text p hread
    have hdenotes := (readTokens_eq_ok_iff _ p).mp hread
    exact ⟨hdenotes.valid, hdenotes.storable⟩
  · intro p hvalid h
    exact ⟨p.rounded, read_print p hvalid h, roundsTo_rounded p hvalid h⟩

/-- A short program that draws a curve. -/
def oneCurve : Program Float :=
  ⟨[⟨.wait, 0.5, [.start ⟨1.0005, -0.0004⟩, .bezierContinue 1.25 ⟨2, 0⟩ ⟨3, 1⟩ 3]⟩]⟩

theorem valid_oneCurve : oneCurve.Valid := by
  decide

theorem storable_oneCurve : oneCurve.Storable := by
  have hcount : (3.0 : Float).isFinite = true ∧ value 3.0 = 3 :=
    ⟨by decide, ((wholeSegments?_eq_some_iff 3.0 3 (by decide)).mp (by decide +kernel)).1⟩
  refine List.forall_mem_singleton.mpr ⟨by decide, List.forall_mem_cons.mpr ⟨⟨by decide, ?_⟩,
    List.forall_mem_singleton.mpr ⟨by decide, ?_⟩⟩⟩
  · exact fun n hn => nomatch hn
  · intro n hn
    rw [← Option.some.inj hn]
    exact ⟨3.0, hcount⟩

/-- So it is read back, and what is read could be printed and read again. -/
theorem read_print_oneCurve :
    (∃ q, read (print oneCurve) = .ok q ∧ RoundsTo oneCurve q ∧ q.Valid ∧ q.Storable) ∧
      IsRounding 1.0005 (rounded 1.0005) := by
  rcases read_print_rounds with ⟨hkept, hback, hliteral⟩
  rcases hback oneCurve valid_oneCurve storable_oneCurve with ⟨q, hread, hrounds⟩
  exact ⟨⟨q, hread, hrounds, hkept _ q hread⟩, hliteral 1.0005 (by decide)⟩

end Script

end PlanarMotion
