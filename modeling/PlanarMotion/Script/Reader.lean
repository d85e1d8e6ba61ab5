import PlanarMotion.Program.Basic
import PlanarMotion.Scalar.Double
import PlanarMotion.Script.Rejection

/-!
# Reading Programs

A program is written as a call of `new MoverBuilder()` followed by one call for each
phase, whose second argument is an arrow function that lists the statements:

    Program   := new MoverBuilder ( ) Phase* (; anything)?
    Phase     := . Method ( number , name = > name Statement* )
    Statement := . Kind ( arguments )
    Vector    := new Vector2 ( number , number )

A reader takes tokens off the front of a row or says what it wanted instead. It looks
at one token at a time and never goes back, so the first token that does not fit
decides the rejection. Reading is total because every statement and every phase takes
a token: `Shrinks` and `NoLonger` say so, and both pass through sequencing.

## Main definitions

* `Reader`: Takes tokens off a row, or rejects it.
* `statement`, `phase`: The grammar's productions.
* `read`: The program that a text denotes.

## Theorems

* `shrinks_statement`, `shrinks_phase`: Productions take a token.
-/

namespace PlanarMotion

namespace Script

open PlanarMotion.Number

/-- Takes tokens off the front of a row and answers, or rejects the row. -/
abbrev Reader (β : Type) := StateT (List Token) (Except Rejection) β

/-- A reader that takes at least one token whenever it answers. -/
def Shrinks {β : Type} (r : Reader β) : Prop :=
  ∀ tokens b rest, r tokens = .ok (b, rest) → rest.length < tokens.length

/-- A reader that adds no token. -/
def NoLonger {β : Type} (r : Reader β) : Prop :=
  ∀ tokens b rest, r tokens = .ok (b, rest) → rest.length ≤ tokens.length

/-- Taking a token adds none. -/
theorem Shrinks.noLonger {β : Type} {r : Reader β} (h : Shrinks r) : NoLonger r :=
  fun tokens b rest hr => Nat.le_of_lt (h tokens b rest hr)

/-- An answer without reading takes no token. -/
theorem noLonger_pure {β : Type} (b : β) : NoLonger (pure b : Reader β) := by
  intro tokens b' rest h
  have hok : (Except.ok (b, tokens) : Except Rejection (β × List Token)) = .ok (b', rest) := h
  rw [Except.ok.injEq, Prod.mk.injEq] at hok
  exact Nat.le_of_eq (congrArg List.length hok.2.symm)

/-- Rejection gives no answer. -/
theorem noLonger_throw {β : Type} (cause : Rejection) : NoLonger (throw cause : Reader β) := by
  intro tokens b rest h
  exact absurd h (by simp [throw, throwThe, MonadExceptOf.throw, StateT.lift, bind, Except.bind])

/-- A reader followed by another answers only through both. -/
theorem bind_eq_ok {β γ : Type} {r : Reader β} {f : β → Reader γ} {tokens rest : List Token}
    {c : γ} (h : (r >>= f) tokens = .ok (c, rest)) :
    ∃ b middle, r tokens = .ok (b, middle) ∧ f b middle = .ok (c, rest) := by
  simp only [bind, StateT.bind, Except.bind] at h
  split at h
  · exact absurd h (by simp only [reduceCtorEq, not_false_eq_true])
  · rename_i answer hanswer
    exact ⟨answer.1, answer.2, hanswer, h⟩

/-- What takes a token still does when more reading follows. -/
theorem Shrinks.bind {β γ : Type} {r : Reader β} {f : β → Reader γ} (hr : Shrinks r)
    (hf : ∀ b, NoLonger (f b)) : Shrinks (r >>= f) := by
  intro tokens c rest h
  obtain ⟨b, middle, hb, hc⟩ := bind_eq_ok h
  exact Nat.lt_of_le_of_lt (hf b middle c rest hc) (hr tokens b middle hb)

/-- What adds no token still does not when more such reading follows. -/
theorem NoLonger.bind {β γ : Type} {r : Reader β} {f : β → Reader γ} (hr : NoLonger r)
    (hf : ∀ b, NoLonger (f b)) : NoLonger (r >>= f) := by
  intro tokens c rest h
  obtain ⟨b, middle, hb, hc⟩ := bind_eq_ok h
  exact Nat.le_trans (hf b middle c rest hc) (hr tokens b middle hb)

/-- Takes the first token if it is of the wanted form. -/
def takeToken {β : Type} (wanted : Token → Option β) (cause : Rejection) : Reader β
  | [] => .error cause
  | t :: rest =>
    match wanted t with
    | some b => .ok (b, rest)
    | none => .error cause

/-- Taking a token takes one. -/
theorem shrinks_takeToken {β : Type} (wanted : Token → Option β) (cause : Rejection) :
    Shrinks (takeToken wanted cause) := by
  intro tokens b rest h
  unfold takeToken at h
  split at h
  · exact absurd h (by simp only [reduceCtorEq, not_false_eq_true])
  · split at h
    · simp only [Except.ok.injEq, Prod.mk.injEq] at h
      rw [← h.2, List.length_cons]
      omega
    · exact absurd h (by simp only [reduceCtorEq, not_false_eq_true])

/-- Takes a given word. -/
def expectWord (w : String) (cause : Rejection) : Reader Unit :=
  takeToken (fun t => if t = .name w then some () else none) cause

/-- Takes a given mark. -/
def expectMark (m : Mark) : Reader Unit :=
  takeToken (fun t => if t = .mark m then some () else none) (.mark m)

/-- Takes any name. -/
def takeName (cause : Rejection) : Reader String :=
  takeToken (fun | .name text => some text | _ => none) cause

/-- Goes on only under a condition. -/
def require (condition : Bool) (cause : Rejection) : Reader Unit :=
  if condition then pure () else throw cause

/-- Goes on only with a value. -/
def requireSome {β : Type} (value : Option β) (cause : Rejection) : Reader β :=
  match value with
  | some b => pure b
  | none => throw cause

/-- A condition takes no token. -/
theorem noLonger_require (condition : Bool) (cause : Rejection) :
    NoLonger (require condition cause) := by
  unfold require
  split
  · exact noLonger_pure ()
  · exact noLonger_throw cause

/-- Asking for a value takes no token. -/
theorem noLonger_requireSome {β : Type} (value : Option β) (cause : Rejection) :
    NoLonger (requireSome value cause) := by
  unfold requireSome
  split
  · exact noLonger_pure _
  · exact noLonger_throw cause

/-- Takes a number that a double can hold. -/
def takeNumber (role : NumberRole) : Reader Float := do
  let x ← takeToken (fun | .number value => some value | _ => none) (.number role)
  require x.isFinite .finiteNumber
  pure x

/-- The number of chords that a double asks for: whole and at least one. -/
def wholeSegments? (x : Float) : Option Nat :=
  let b := Binary64.ofFloat x
  if b.negative then none else b.magnitude.whole?.filter (1 ≤ ·)

/-- Takes a number of chords. -/
def takeSegments (owner : String) : Reader Nat := do
  let x ← takeNumber (.argument (owner ++ " segments"))
  requireSome (wholeSegments? x) (.wholeSegments owner)

/-- Takes a vector. -/
def vectorBody : Reader (Vec Float) := do
  expectWord "new" .vector
  expectWord "Vector2" (.word "Vector2")
  expectMark .parenOpen
  let x ← takeNumber .abscissa
  expectMark .comma
  let y ← takeNumber .ordinate
  expectMark .parenClose
  pure ⟨x, y⟩

/-- Takes a vector with a given role, which every rejection within it names. -/
def takeVector (role : String) : Reader (Vec Float) := fun tokens =>
  (vectorBody tokens).mapError (.within role)

/-- Takes the arguments of a statement of a given kind. -/
def arguments (kind : String) : Reader (Statement Float) :=
  match kind with
  | "Start" => do
    let point ← takeVector "Start"
    pure (.start point)
  | "Line" => do
    let stop ← takeVector "Line"
    pure (.line stop)
  | "LineContinue" => do
    let length ← takeNumber (.argument "LineContinue")
    pure (.lineContinue length)
  | "Arc" => do
    let center ← takeVector "Arc"
    expectMark .comma
    let angle ← takeNumber (.argument "Arc")
    pure (.arc center angle)
  | "ArcContinue" => do
    let radius ← takeNumber (.argument "ArcContinue")
    expectMark .comma
    let angle ← takeNumber (.argument "ArcContinue")
    pure (.arcContinue radius angle)
  | "Bezier" => do
    let c1 ← takeVector "Bezier c1"
    expectMark .comma
    let c2 ← takeVector "Bezier c2"
    expectMark .comma
    let stop ← takeVector "Bezier end"
    expectMark .comma
    let segments ← takeSegments "Bezier"
    pure (.bezier c1 c2 stop segments)
  | "BezierContinue" => do
    let c1Offset ← takeNumber (.argument "BezierContinue c1Offset")
    expectMark .comma
    let c2 ← takeVector "BezierContinue c2"
    expectMark .comma
    let stop ← takeVector "BezierContinue end"
    expectMark .comma
    let segments ← takeSegments "BezierContinue"
    pure (.bezierContinue c1Offset c2 stop segments)
  | _ => throw (.unknownMethod kind)

/-- Takes one statement. -/
def statement : Reader (Statement Float) := do
  expectMark .dot
  let kind ← takeName .methodName
  expectMark .parenOpen
  let s ← arguments kind
  expectMark .parenClose
  pure s

/-- A mark takes a token. -/
theorem shrinks_expectMark (m : Mark) : Shrinks (expectMark m) :=
  shrinks_takeToken _ _

/-- A word takes a token. -/
theorem shrinks_expectWord (w : String) (cause : Rejection) : Shrinks (expectWord w cause) :=
  shrinks_takeToken _ _

/-- A name takes a token. -/
theorem shrinks_takeName (cause : Rejection) : Shrinks (takeName cause) :=
  shrinks_takeToken _ _

/-- A number takes a token. -/
theorem shrinks_takeNumber (role : NumberRole) : Shrinks (takeNumber role) :=
  (shrinks_takeToken _ _).bind fun _ =>
    (noLonger_require _ _).bind fun _ => noLonger_pure _

/-- A number of chords takes a token. -/
theorem shrinks_takeSegments (owner : String) : Shrinks (takeSegments owner) :=
  (shrinks_takeNumber _).bind fun _ => noLonger_requireSome _ _

/-- A vector takes a token. -/
theorem shrinks_vectorBody : Shrinks vectorBody :=
  (shrinks_expectWord _ _).bind fun _ =>
    (shrinks_expectWord _ _).noLonger.bind fun _ =>
    (shrinks_expectMark _).noLonger.bind fun _ =>
    (shrinks_takeNumber _).noLonger.bind fun _ =>
    (shrinks_expectMark _).noLonger.bind fun _ =>
    (shrinks_takeNumber _).noLonger.bind fun _ =>
    (shrinks_expectMark _).noLonger.bind fun _ => noLonger_pure _

/-- A vector with a role takes a token. -/
theorem shrinks_takeVector (role : String) : Shrinks (takeVector role) := by
  intro tokens v rest h
  unfold takeVector Except.mapError at h
  split at h
  · exact absurd h (by simp only [reduceCtorEq, not_false_eq_true])
  · rename_i answer hanswer
    rw [Except.ok.injEq] at h
    rw [h] at hanswer
    exact shrinks_vectorBody tokens v rest hanswer

/-- Arguments add no token. -/
theorem noLonger_arguments (kind : String) : NoLonger (arguments kind) := by
  have mark := fun m => (shrinks_expectMark m).noLonger
  have number := fun role => (shrinks_takeNumber role).noLonger
  have vector := fun role => (shrinks_takeVector role).noLonger
  have segments := fun owner => (shrinks_takeSegments owner).noLonger
  unfold arguments
  split
  · exact (vector _).bind fun _ => noLonger_pure _
  · exact (vector _).bind fun _ => noLonger_pure _
  · exact (number _).bind fun _ => noLonger_pure _
  · exact (vector _).bind fun _ => (mark _).bind fun _ => (number _).bind fun _ =>
      noLonger_pure _
  · exact (number _).bind fun _ => (mark _).bind fun _ => (number _).bind fun _ =>
      noLonger_pure _
  · exact (vector _).bind fun _ => (mark _).bind fun _ => (vector _).bind fun _ =>
      (mark _).bind fun _ => (vector _).bind fun _ => (mark _).bind fun _ =>
      (segments _).bind fun _ => noLonger_pure _
  · exact (number _).bind fun _ => (mark _).bind fun _ => (vector _).bind fun _ =>
      (mark _).bind fun _ => (vector _).bind fun _ => (mark _).bind fun _ =>
      (segments _).bind fun _ => noLonger_pure _
  · exact noLonger_throw _

/-- A statement takes a token. -/
theorem shrinks_statement : Shrinks statement :=
  (shrinks_expectMark _).bind fun _ =>
    (shrinks_takeName _).noLonger.bind fun _ =>
    (shrinks_expectMark _).noLonger.bind fun _ =>
    (noLonger_arguments _).bind fun _ =>
    (shrinks_expectMark _).noLonger.bind fun _ => noLonger_pure _

/-- Takes statements up to the mark that closes the phase, and that mark. -/
def statements (tokens : List Token) :
    Except Rejection (List (Statement Float) × List Token) :=
  if tokens = [] then .error .phaseEnd
  -- The end is asked for first, so that a missing mark is reported as such.
  else if tokens.head? = some (.mark .parenClose) then .ok ([], tokens.tail)
  else
    match _h : statement tokens with
    | .error cause => .error cause
    | .ok (s, rest) => (statements rest).map fun (more, after) => (s :: more, after)
termination_by tokens.length
decreasing_by exact shrinks_statement tokens s rest _h

/-- Statements add no token. -/
theorem noLonger_statements : NoLonger statements := by
  intro tokens
  induction tokens using statements.induct with
  | case1 => intro b rest h; simp [statements] at h
  | case2 tokens hne hclose =>
    intro b rest h
    rw [statements, if_neg hne, if_pos hclose] at h
    simp only [Except.ok.injEq, Prod.mk.injEq] at h
    rw [← h.2, List.length_tail]
    omega
  | case3 tokens hne hclose cause hcause =>
    intro b rest h
    rw [statements, if_neg hne, if_neg hclose] at h
    split at h
    · exact absurd h (by simp only [reduceCtorEq, not_false_eq_true])
    · rename_i hok
      rw [hcause] at hok
      exact absurd hok (by simp only [reduceCtorEq, not_false_eq_true])
  | case4 tokens hne hclose s middle hs ih =>
    intro b rest h
    rw [statements, if_neg hne, if_neg hclose] at h
    split at h
    · exact absurd h (by simp only [reduceCtorEq, not_false_eq_true])
    · rename_i s' middle' hok
      rw [hs, Except.ok.injEq, Prod.mk.injEq] at hok
      rw [← hok.2] at h
      match hm : statements middle with
      | .error cause => rw [hm] at h; simp [Except.map] at h
      | .ok (more, after) =>
        rw [hm] at h
        simp only [Except.map, Except.ok.injEq, Prod.mk.injEq] at h
        have hshrink := shrinks_statement tokens s middle hs
        have hle := ih more after hm
        rw [← h.2]
        omega

/-- Takes one phase. -/
def phase : Reader (Phase Float) := do
  expectMark .dot
  let name ← takeName .methodName
  let method ← requireSome (Method.ofName? name) (.unknownMethod name)
  expectMark .parenOpen
  let duration ← takeNumber .duration
  -- A zero with a minus sign is no negative duration.
  require (decide ¬ duration < 0) .nonNegativeDuration
  expectMark .comma
  let parameter ← takeName .placeholder
  expectMark .equals
  expectMark .greater
  -- The statements are of the placeholder, so it is named once more.
  let echo ← takeName .placeholder
  require (parameter == echo) .samePlaceholder
  let body ← statements
  pure ⟨method, duration, body⟩

/-- A phase takes a token. -/
theorem shrinks_phase : Shrinks phase :=
  (shrinks_expectMark _).bind fun _ =>
    (shrinks_takeName _).noLonger.bind fun _ =>
    (noLonger_requireSome _ _).bind fun _ =>
    (shrinks_expectMark _).noLonger.bind fun _ =>
    (shrinks_takeNumber _).noLonger.bind fun _ =>
    (noLonger_require _ _).bind fun _ =>
    (shrinks_expectMark _).noLonger.bind fun _ =>
    (shrinks_takeName _).noLonger.bind fun _ =>
    (shrinks_expectMark _).noLonger.bind fun _ =>
    (shrinks_expectMark _).noLonger.bind fun _ =>
    (shrinks_takeName _).noLonger.bind fun _ =>
    (noLonger_require _ _).bind fun _ =>
    noLonger_statements.bind fun _ => noLonger_pure _

/-- Takes phases up to the end or to a semicolon. What follows that is not looked at. -/
def phases (tokens : List Token) : Except Rejection (List (Phase Float)) :=
  if tokens = [] ∨ tokens.head? = some (.mark .semicolon) then .ok []
  else
    match _h : phase tokens with
    | .error cause => .error cause
    | .ok (p, rest) => (phases rest).map (p :: ·)
termination_by tokens.length
decreasing_by exact shrinks_phase tokens p rest _h

/-- Takes the words in front of the phases. -/
def header : Reader Unit := do
  expectWord "new" (.word "new")
  expectWord "MoverBuilder" (.word "MoverBuilder")
  expectMark .parenOpen
  expectMark .parenClose

/-- The program that a row of tokens denotes. -/
def readTokens (tokens : List Token) : Except Rejection (Program Float) :=
  match header tokens with
  | .error cause => .error cause
  | .ok ((), rest) => (phases rest).map Program.mk

/-- The program that a text denotes. -/
def read (text : String) : Except Rejection (Program Float) :=
  readTokens (Token.ofText text)

end Script

end PlanarMotion
