import PlanarMotion.Proofs.Script.RoundTrip

/-!
# The Canonical Text

A text that has been printed, read and printed again is the same text. Reading changes
literals, but not so that the printer could tell: the double that is read is as near to the
printed thousandths as the first one or nearer, and so prints the same thousandths. The
argument has no cases by size. Where doubles are further apart than thousandths the
printed decimal is the double, and the inequality says so.

Durations lose at most the sign of a zero, which the printer does not show. The rest of the
text depends on what reading keeps.

## Theorems

* `numberText_rounded`, `durationText_unsigned`: A number that was read is printed as before.
* `phaseLines_rounded`: So is a phase.
* `print_rounded`: So is a program.
* `print_read_print`: Printing, reading and printing again changes no character.
-/

namespace PlanarMotion

namespace Script

open PlanarMotion.Number PlanarMotion.Text

theorem numberText_rounded (x : Float) (h : x.isFinite = true) :
    numberText (rounded x) = numberText x := by
  have hword := (isFinite_iff x).mp h
  -- The text depends on the thousandths and on a sign that only they can have.
  rw [numberText_eq x hword, numberText_eq _ (rounded_finite x hword), thousandths_rounded x hword,
    negative_rounded x hword, Bool.and_assoc, Bool.and_self]

/-- A zero is printed as a single digit, whatever its sign. -/
theorem durationText_of_zero (x : Float) (h : magnitudeWord x = 0) : durationText x = digits 0 := by
  have hmagnitude : (Binary64.ofFloat x).magnitude = .finite 0 := by
    rw [ofFloat_eq, h]
    rfl
  have hwhole : (Magnitude.finite 0).whole? = some 0 := by
    rw [Magnitude.whole?, Nat.zero_mod, if_pos rfl, Nat.zero_div]
  unfold durationText
  simp only [hmagnitude, hwhole, bne_self_eq_false, Bool.and_false]
  rfl

theorem durationText_unsigned (x : Float) (h : x.isFinite = true) (hnonneg : 0 ≤ value x) :
    durationText (unsigned x) = durationText x := by
  have hword := (isFinite_iff x).mp h
  rcases (zero_le_iff x hword).mp ((zero_le_value_iff x hword).mp hnonneg) with hneg | hzero
  · -- Without a sign it is the same double.
    have hsame := floatOfWord_magnitudeWord x hword.le
    rw [hneg] at hsame
    rw [unsigned, hsame]
  · have hzero' := magnitudeWord_unsigned x hword
    rw [hzero] at hzero'
    rw [durationText_of_zero x hzero, durationText_of_zero _ hzero']

theorem vectorText_rounded (v : Vec Float) (hx : v.x.isFinite = true) (hy : v.y.isFinite = true) :
    vectorText ⟨rounded v.x, rounded v.y⟩ = vectorText v := by
  unfold vectorText
  rewrite [numberText_rounded v.x hx, numberText_rounded v.y hy]
  rfl

/-- A statement is printed alike before and after rounding. -/
theorem argumentTexts_rounded (s : Statement Float) (h : s.Storable) :
    argumentTexts (s.map rounded) = argumentTexts s := by
  have hfinite := h.finite
  cases s with
  | start point =>
      simp only [Statement.literals, List.forall_mem_cons] at hfinite
      rw [Statement.map, argumentTexts, vectorText_rounded _ hfinite.1 hfinite.2.1, argumentTexts]
  | line stop =>
      simp only [Statement.literals, List.forall_mem_cons] at hfinite
      rw [Statement.map, argumentTexts, vectorText_rounded _ hfinite.1 hfinite.2.1, argumentTexts]
  | lineContinue length =>
      simp only [Statement.literals, List.forall_mem_cons] at hfinite
      rw [Statement.map, argumentTexts, numberText_rounded _ hfinite.1, argumentTexts]
  | arc center angle =>
      simp only [Statement.literals, List.forall_mem_cons] at hfinite
      rw [Statement.map, argumentTexts, vectorText_rounded _ hfinite.1 hfinite.2.1,
        numberText_rounded _ hfinite.2.2.1, argumentTexts]
  | arcContinue radius angle =>
      simp only [Statement.literals, List.forall_mem_cons] at hfinite
      rw [Statement.map, argumentTexts, numberText_rounded _ hfinite.1,
        numberText_rounded _ hfinite.2.1, argumentTexts]
  | bezier c1 c2 stop segments =>
      simp only [Statement.literals, List.forall_mem_cons] at hfinite
      rcases hfinite with ⟨hx1, hy1, hx2, hy2, hx3, hy3, -⟩
      rw [Statement.map, argumentTexts, vectorText_rounded _ hx1 hy1, vectorText_rounded _ hx2 hy2,
        vectorText_rounded _ hx3 hy3, argumentTexts]
  | bezierContinue c1Offset c2 stop segments =>
      simp only [Statement.literals, List.forall_mem_cons] at hfinite
      rcases hfinite with ⟨hoffset, hx2, hy2, hx3, hy3, -⟩
      rw [Statement.map, argumentTexts, numberText_rounded _ hoffset, vectorText_rounded _ hx2 hy2,
        vectorText_rounded _ hx3 hy3, argumentTexts]

theorem statementText_rounded (s : Statement Float) (h : s.Storable) :
    statementText (s.map rounded) = statementText s := by
  rw [statementText, statementText, Statement.kind_map, argumentTexts_rounded s h]

/-- And so is a phase. -/
theorem phaseLines_rounded (p : Phase Float) (last : Bool) (h : p.Storable)
    (hvalid : Program.PhaseValid p) : phaseLines p.rounded last = phaseLines p last := by
  have hword := (isFinite_iff _).mp h.finite
  have hnonneg : 0 ≤ value p.duration := (zero_le_value_iff _ hword).mpr hvalid.1
  -- Line by line, as each line depends on one statement only.
  have hlines : (p.rounded.statements.map fun s => "    ".toList ++ statementText s)
      = p.statements.map fun s => "    ".toList ++ statementText s := by
    rw [Phase.rounded, List.map_map]
    refine List.map_congr_left ?_
    intro s hs
    rw [Function.comp, statementText_rounded s (h.statements s hs)]
  unfold phaseLines
  rewrite [hlines]
  rw [Phase.rounded, durationText_unsigned p.duration h.finite hnonneg]

theorem phasesLines_rounded (ps : List (Phase Float)) (h : ∀ p ∈ ps, p.Storable)
    (hvalid : ∀ p ∈ ps, Program.PhaseValid p) :
    phasesLines (ps.map Phase.rounded) = phasesLines ps := by
  induction ps with
  | nil => rfl
  | cons p ps ih =>
      rw [List.forall_mem_cons] at h hvalid
      cases ps with
      | nil => exact phaseLines_rounded p true h.1 hvalid.1
      | cons q qs =>
          have hsplit : ∀ (a b : Phase Float) (rest : List (Phase Float)),
              phasesLines (a :: b :: rest) = phaseLines a false ++ phasesLines (b :: rest) :=
            fun _ _ _ => rfl
          have hrest := ih h.2 hvalid.2
          rw [List.map_cons] at hrest
          rw [List.map_cons, List.map_cons, hsplit, hsplit, phaseLines_rounded p false h.1 hvalid.1,
            hrest]

/-- A program is printed as what its text keeps of it. -/
theorem print_rounded (p : Program Float) (hvalid : p.Valid) (h : p.Storable) :
    print p.rounded = print p := by
  rw [print, print, printChars, printChars, programLines, programLines, Program.rounded,
    phasesLines_rounded p.phases h hvalid, List.isEmpty_map]

/-- The double nearest to the printed decimal, with the sign that is printed. -/
theorem fixed_read (x : Float) (h : x.isFinite = true) :
    ∃ n, Numeral.read? (fixed 3 x) = some (n, []) ∧ n.value.isFinite = true ∧
      (∀ y : Float, y.isFinite = true →
        |value n.value - n.exactValue| ≤ |value y - n.exactValue|) ∧
      fixed 3 n.value = fixed 3 x := by
  have hword := (isFinite_iff x).mp h
  rcases exactValue_fixed x hword with ⟨n, hread, hexact, hvalue⟩
  rcases word_thousandths x hword with ⟨hnearest, hlt⟩
  -- But for the sign of a zero it is what is read for a literal.
  have hsame : n.value = floatOfWord (Binary64.ofFloat x).negative (magnitudeWord (rounded x)) := by
    rw [hvalue, Decimal.toFloat, hnearest, magnitudeWord_rounded x hword]
  have hrounded := rounded_finite x hword
  have hnword : magnitudeWord n.value < infinityWord := by
    rw [hsame, magnitudeWord_floatOfWord _ _ hrounded.le]
    exact hrounded
  have hunits : unitsOf n.value = unitsOf (rounded x) := by
    rw [hsame, unitsOf_floatOfWord _ _ hrounded, unitsOf_of_finite _ hrounded]
  have hnvalue : value n.value = value (rounded x) := by
    rw [value_rounded x hword, value, hunits, hsame, signOf_floatOfWord _ _ hrounded.le, signOf]
  have hnegative : (Binary64.ofFloat n.value).negative = (Binary64.ofFloat x).negative := by
    rw [hsame, ofFloat_floatOfWord _ _ hrounded.le]
  have hthousandths : thousandths n.value = thousandths x := by
    rw [thousandths, hunits]
    exact thousandths_rounded x hword
  refine ⟨n, hread, (isFinite_iff _).mpr hnword, ?_, ?_⟩
  · intro y hy
    rw [hnvalue, hexact]
    exact abs_value_rounded_sub_le x y hword ((isFinite_iff y).mp hy)
  · rw [fixed_eq _ hnword, fixed_eq x hword, hthousandths, hnegative]

/-- The canonical text is a fixed point. What is read from it is printed as the same text,
    character for character. -/
theorem print_read_print :
    (∀ p : Program Float, p.Valid → p.Storable → (read (print p)).map print = .ok (print p)) ∧
    (∀ x : Float, x.isFinite = true →
      ∃ n, Numeral.read? (fixed 3 x) = some (n, []) ∧ n.value.isFinite = true ∧
        (∀ y : Float, y.isFinite = true →
          |value n.value - n.exactValue| ≤ |value y - n.exactValue|) ∧
        fixed 3 n.value = fixed 3 x) := by
  refine ⟨?_, fixed_read⟩
  intro p hvalid h
  rw [read_print p hvalid h, Except.map, print_rounded p hvalid h]

/-- A short program keeps its text, and so does a number in it. -/
theorem print_read_oneCurve : (read (print oneCurve)).map print = .ok (print oneCurve) ∧
    ∃ n, Numeral.read? (fixed 3 1.0005) = some (n, []) ∧ fixed 3 n.value = fixed 3 1.0005 := by
  rcases print_read_print with ⟨hprogram, hnumber⟩
  rcases hnumber 1.0005 (by decide) with ⟨n, hread, -, -, hsame⟩
  exact ⟨hprogram oneCurve valid_oneCurve storable_oneCurve, n, hread, hsame⟩

end Script

end PlanarMotion
