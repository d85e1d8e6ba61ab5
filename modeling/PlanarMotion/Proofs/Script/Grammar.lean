import PlanarMotion.Proofs.Program.Storable
import PlanarMotion.Script.Reader

/-!
# The Grammar of Programs

What a program's tokens look like, said without a reader. Each relation has one
constructor for each form, and a constructor names the tokens from left to right. The
conditions that are not about form stand where the number or name they are about does:
numbers are finite, a duration is not negative, a number of chords is whole and at
least one, and a placeholder is the same on both sides of its arrow.

`Denotes` adds the one freedom that a text has. A semicolon may close a program, and
what follows it is not looked at.

## Main definitions

* `IsCount`: The number of chords that a double asks for.
* `IsVector`, `IsArguments`, `IsStatement`, `IsPhase`: The tokens of the parts of a
  program.
* `IsProgram`: The tokens of a program.
* `Denotes`: The tokens of a program, and behind a semicolon anything.

## Theorems

* `IsStatement.valid`, `IsPhase.valid`: What the grammar forms can be built.
* `Denotes.valid`: So can every program that is denoted.
* `Denotes.storable`: And a text can hold it.
-/

namespace PlanarMotion

namespace Script

open PlanarMotion.Number

/-- The number of chords that a numeral asks for. -/
def IsCount (x : Float) (n : Nat) : Prop :=
  x.isFinite = true ∧ value x = n ∧ 1 ≤ n

/-- The tokens of a vector with finite coordinates. -/
inductive IsVector : List Token → Vec Float → Prop where
  | call (x y : Float) (hx : x.isFinite = true) (hy : y.isFinite = true) :
      IsVector [.name "new", .name "Vector2", .mark .parenOpen, .number x, .mark .comma,
        .number y, .mark .parenClose] ⟨x, y⟩

/-- The tokens between the parentheses of a statement. -/
inductive IsArguments : List Token → Statement Float → Prop where
  | start (ts : List Token) (point : Vec Float) (hpoint : IsVector ts point) :
      IsArguments ts (.start point)
  | line (ts : List Token) (stop : Vec Float) (hstop : IsVector ts stop) :
      IsArguments ts (.line stop)
  | lineContinue (length : Float) (hlength : length.isFinite = true) :
      IsArguments [.number length] (.lineContinue length)
  | arc (ts : List Token) (center : Vec Float) (angle : Float) (hcenter : IsVector ts center)
      (hangle : angle.isFinite = true) :
      IsArguments (ts ++ [.mark .comma, .number angle]) (.arc center angle)
  | arcContinue (radius angle : Float) (hradius : radius.isFinite = true)
      (hangle : angle.isFinite = true) :
      IsArguments [.number radius, .mark .comma, .number angle] (.arcContinue radius angle)
  | bezier (ts us vs : List Token) (c1 c2 stop : Vec Float) (count : Float) (segments : Nat)
      (hc1 : IsVector ts c1) (hc2 : IsVector us c2) (hstop : IsVector vs stop)
      (hcount : IsCount count segments) :
      IsArguments (ts ++ .mark .comma :: us ++ .mark .comma :: vs
        ++ [.mark .comma, .number count]) (.bezier c1 c2 stop segments)
  | bezierContinue (us vs : List Token) (c1Offset : Float) (c2 stop : Vec Float)
      (count : Float) (segments : Nat) (hoffset : c1Offset.isFinite = true)
      (hc2 : IsVector us c2) (hstop : IsVector vs stop) (hcount : IsCount count segments) :
      IsArguments (.number c1Offset :: .mark .comma :: us ++ .mark .comma :: vs
        ++ [.mark .comma, .number count]) (.bezierContinue c1Offset c2 stop segments)

/-- The tokens of a statement, which its name opens. -/
inductive IsStatement : List Token → Statement Float → Prop where
  | call (ts : List Token) (s : Statement Float) (hargs : IsArguments ts s) :
      IsStatement (.mark .dot :: .name s.kind :: .mark .parenOpen :: ts ++ [.mark .parenClose]) s

/-- The tokens of any number of statements. -/
inductive IsStatements : List Token → List (Statement Float) → Prop where
  | nil : IsStatements [] []
  | cons (ts us : List Token) (s : Statement Float) (rest : List (Statement Float))
      (hs : IsStatement ts s) (hrest : IsStatements us rest) :
      IsStatements (ts ++ us) (s :: rest)

/-- The tokens of a phase: the placeholder is the same on both sides of the arrow, and the
    duration is not negative. -/
inductive IsPhase : List Token → Phase Float → Prop where
  | call (method : Method) (duration : Float) (placeholder : String) (ts : List Token)
      (body : List (Statement Float)) (hfinite : duration.isFinite = true)
      (hnonneg : 0 ≤ value duration) (hbody : IsStatements ts body) :
      IsPhase (.mark .dot :: .name method.name :: .mark .parenOpen :: .number duration
        :: .mark .comma :: .name placeholder :: .mark .equals :: .mark .greater
        :: .name placeholder :: ts ++ [.mark .parenClose]) ⟨method, duration, body⟩

/-- The tokens of any number of phases. -/
inductive IsPhases : List Token → List (Phase Float) → Prop where
  | nil : IsPhases [] []
  | cons (ts us : List Token) (p : Phase Float) (rest : List (Phase Float))
      (hp : IsPhase ts p) (hrest : IsPhases us rest) : IsPhases (ts ++ us) (p :: rest)

/-- The tokens of a program. -/
inductive IsProgram : List Token → Program Float → Prop where
  | call (ts : List Token) (phases : List (Phase Float)) (hphases : IsPhases ts phases) :
      IsProgram (.name "new" :: .name "MoverBuilder" :: .mark .parenOpen :: .mark .parenClose
        :: ts) ⟨phases⟩

/-- What is read as a program: its tokens, and behind a semicolon anything. -/
def Denotes (tokens : List Token) (p : Program Float) : Prop :=
  IsProgram tokens p ∨
    ∃ front rest, tokens = front ++ .mark .semicolon :: rest ∧ IsProgram front p

theorem IsArguments.valid (tokens : List Token) (s : Statement Float)
    (h : IsArguments tokens s) : s.Valid := by
  cases h with
  | bezier _ _ _ _ _ _ _ _ _ _ _ hcount => exact hcount.2.2
  | bezierContinue _ _ _ _ _ _ _ _ _ _ hcount => exact hcount.2.2
  | _ => exact trivial

theorem IsStatements.valid (tokens : List Token) (ss : List (Statement Float))
    (h : IsStatements tokens ss) : ∀ s ∈ ss, s.Valid := by
  induction h with
  | nil => exact List.forall_mem_nil _
  | cons ts us s rest hs hrest ih =>
      rcases hs with ⟨args, _, hargs⟩
      exact List.forall_mem_cons.mpr ⟨hargs.valid, ih⟩

/-- The duration of a phase is compared as a double, which comes to the same. -/
theorem IsPhase.valid (tokens : List Token) (p : Phase Float) (h : IsPhase tokens p) :
    Program.PhaseValid p := by
  rcases h with ⟨method, duration, placeholder, ts, body, hfinite, hnonneg, hbody⟩
  refine ⟨?_, hbody.valid⟩
  exact (zero_le_value_iff duration ((isFinite_iff duration).mp hfinite)).mp hnonneg

theorem IsPhases.valid (tokens : List Token) (ps : List (Phase Float))
    (h : IsPhases tokens ps) : ∀ p ∈ ps, Program.PhaseValid p := by
  induction h with
  | nil => exact List.forall_mem_nil _
  | cons ts us p rest hp hrest ih => exact List.forall_mem_cons.mpr ⟨hp.valid, ih⟩

/-- A program that is denoted is one that can be built. -/
theorem Denotes.valid (tokens : List Token) (p : Program Float) (h : Denotes tokens p) :
    p.Valid := by
  rcases h with ⟨ts, ps, hps⟩ | ⟨front, rest, rfl, ⟨ts, ps, hps⟩⟩
  · exact hps.valid
  · exact hps.valid

/-- The literals of a statement are finite, and a double gave its count. -/
theorem IsArguments.storable (tokens : List Token) (s : Statement Float)
    (h : IsArguments tokens s) : s.Storable := by
  -- The conditions of a form are all there is to say about its literals and its count.
  have hvector : ∀ ts v, IsVector ts v → v.x.isFinite = true ∧ v.y.isFinite = true := by
    rintro ts v ⟨x, y, hx, hy⟩
    exact ⟨hx, hy⟩
  have hrepresentable : ∀ x n, IsCount x n → Representable n :=
    fun x n hcount => ⟨x, hcount.1, hcount.2.1⟩
  constructor
  · cases h with
    | start _ point hpoint =>
        simp [Statement.literals, hvector _ _ hpoint]
    | line _ stop hstop => simp [Statement.literals, hvector _ _ hstop]
    | lineContinue length hlength => simp [Statement.literals, hlength]
    | arc _ center angle hcenter hangle => simp [Statement.literals, hvector _ _ hcenter, hangle]
    | arcContinue radius angle hradius hangle => simp [Statement.literals, hradius, hangle]
    | bezier _ _ _ c1 c2 stop _ _ hc1 hc2 hstop _ =>
        simp [Statement.literals, hvector _ _ hc1, hvector _ _ hc2, hvector _ _ hstop]
    | bezierContinue _ _ c1Offset c2 stop _ _ hoffset hc2 hstop _ =>
        simp [Statement.literals, hoffset, hvector _ _ hc2, hvector _ _ hstop]
  · intro n hn
    cases h with
    | bezier _ _ _ _ _ _ count segments _ _ _ hcount =>
        rw [← Option.some.inj hn]
        exact hrepresentable count segments hcount
    | bezierContinue _ _ _ _ _ count segments _ _ _ hcount =>
        rw [← Option.some.inj hn]
        exact hrepresentable count segments hcount
    | _ =>
        -- The other kinds have no count.
        exact absurd hn (by
          simp only [Statement.segments?, Option.mem_def, reduceCtorEq, not_false_eq_true])

theorem IsStatements.storable (tokens : List Token) (ss : List (Statement Float))
    (h : IsStatements tokens ss) : ∀ s ∈ ss, s.Storable := by
  induction h with
  | nil => exact List.forall_mem_nil _
  | cons ts us s rest hs hrest ih =>
      rcases hs with ⟨args, _, hargs⟩
      exact List.forall_mem_cons.mpr ⟨hargs.storable, ih⟩

theorem IsPhases.storable (tokens : List Token) (ps : List (Phase Float))
    (h : IsPhases tokens ps) : ∀ p ∈ ps, p.Storable := by
  induction h with
  | nil => exact List.forall_mem_nil _
  | cons ts us p rest hp hrest ih =>
      rcases hp with ⟨method, duration, placeholder, vs, body, hfinite, hnonneg, hbody⟩
      exact List.forall_mem_cons.mpr ⟨⟨hfinite, hbody.storable⟩, ih⟩

/-- A program that is denoted is one that a text can hold. -/
theorem Denotes.storable (tokens : List Token) (p : Program Float) (h : Denotes tokens p) :
    p.Storable := by
  rcases h with ⟨ts, ps, hps⟩ | ⟨front, rest, rfl, ⟨ts, ps, hps⟩⟩
  · exact hps.storable
  · exact hps.storable

end Script

end PlanarMotion
