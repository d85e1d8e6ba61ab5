import PlanarMotion.Proofs.Script.Prompt

/-!
# Rejections and the First Offending Token

A text that is no program goes wrong somewhere: up to a place its tokens could still be continued
to a program, and with the next token, or with the end, they cannot. `BreaksAt` says so of a row of
tokens, without a reader. Every row that is rejected breaks at exactly one place.

There its rejection is settled. Whatever follows the offending token, the cause is the same, with
one exception. Where a statement names its kind, a name that is of no kind is not refused at once.
If a parenthesis follows, the name is reported as unknown, and otherwise the missing parenthesis is,
although no program could follow any more. The name of a phase is looked up before its parenthesis.

The argument goes form by form as the reader does. Two loops have to be followed, the statements of
a phase and the phases of a program. A loop decides by the next token alone whether it goes on, so
rows that begin alike take the same turn, and what a part settles is settled for the loop.

## Main definitions

* `Viable`: Tokens that can be continued to a program.
* `BreaksAt`: The first offending token of a row, or its end.
* `UnknownKind`: A name of no kind where any kind could stand.

## Theorems

* `prompt_statement`, `prompt_statements`, `prompt_phase`: The readers of programs are prompt.
* `detects_readTokens`: A rejection is settled where the row breaks.
* `BreaksAt.unique`, `exists_breaksAt`: A rejected row breaks at exactly one place.
* `read_breaksAt`: The cause depends on nothing behind the offending token, with one exception.
* `read_unknownKind`: The exception in two texts.
-/

namespace PlanarMotion

namespace Script

open PlanarMotion.Number

/-- A name of no kind has no arguments to read. -/
theorem arguments_of_not_isKind (name : String) (h : ¬ IsKind name) :
    arguments name = throw (.unknownMethod name) := by
  have hkind : ∀ s : Statement Float, s.kind ≠ name := fun s hs => h ⟨s, hs⟩
  unfold arguments
  split
  · exact absurd rfl (hkind (.start Vec.zero))
  · exact absurd rfl (hkind (.line Vec.zero))
  · exact absurd rfl (hkind (.lineContinue 0))
  · exact absurd rfl (hkind (.arc Vec.zero 0))
  · exact absurd rfl (hkind (.arcContinue 0 0))
  · exact absurd rfl (hkind (.bezier Vec.zero Vec.zero Vec.zero 1))
  · exact absurd rfl (hkind (.bezierContinue 0 Vec.zero Vec.zero 1))
  · rfl

/-- What follows the name of a statement. -/
def callOf (kind : String) : Reader (Statement Float) := do
  expectMark .parenOpen
  let s ← arguments kind
  expectMark .parenClose
  pure s

theorem prompt_callOf (s : Statement Float) : Prompt (callOf s.kind) :=
  (prompt_expectMark _).bind fun _ _ => (prompt_arguments s).bind fun _ _ =>
    (prompt_expectMark _).bind fun _ _ => prompt_pure _

/-- Behind a name of no kind, the next token decides what is reported. -/
theorem callOf_of_not_isKind (name : String) (h : ¬ IsKind name) (rest : List Token) :
    callOf name rest = .error (lateCause name rest) := by
  rw [callOf, arguments_of_not_isKind name h]
  cases rest with
  | nil => rfl
  | cons t ts =>
      by_cases ht : t = .mark .parenOpen
      · rw [ht]
        rfl
      · have hrefused : expectMark .parenOpen (t :: ts) = .error (.mark .parenOpen) := by
          simp only [expectMark, takeToken, if_neg ht]
        have hother : ¬ (t :: ts).head? = some (.mark .parenOpen) := fun h => ht (Option.some.inj h)
        rw [bind_of_error hrefused, lateCause, if_neg hother]

/-- A statement from its name on. -/
def call : Reader (Statement Float) := do
  let kind ← takeName .methodName
  callOf kind

theorem call_name (name : String) (rest : List Token) :
    call (.name name :: rest) = callOf name rest :=
  rfl

/-- From the name on the reading is prompt as well. What is reported late is reported of a name that
    breaks the row in any case. -/
theorem prompt_call : Prompt call := by
  have hcompletes : ∀ (s : Statement Float) (front : List Token),
      Completes (callOf s.kind) front → Completes call (.name s.kind :: front) := by
    rintro s front ⟨more, b, hb⟩
    exact ⟨more, b, by rw [List.cons_append, call_name, hb]⟩
  have hopens : Completes call [] := by
    rcases hcompletes (.line Vec.zero) [] (prompt_callOf _).answers with ⟨more, b, hb⟩
    exact ⟨_, b, hb⟩
  refine ⟨?_, hopens, fun tokens cause h => ?_⟩
  · refine (prompt_takeName _).takes.bind fun name _ => ?_
    by_cases hname : IsKind name
    · rcases hname with ⟨s, rfl⟩
      exact (prompt_callOf s).takes
    · intro tokens b rest h
      rw [callOf_of_not_isKind name hname] at h
      cases h
  · cases tokens with
    | nil => exact detects_end hopens cause h
    | cons t ts =>
        cases t with
        | name name =>
            by_cases hname : IsKind name
            · rcases hname with ⟨s, rfl⟩
              rw [call_name] at h
              refine ((prompt_callOf s).detects ts cause h).lift [.name s.kind]
                (hcompletes s) fun _ _ _ us cause' _ hus => ?_
              exact hus
            -- Any kind could stand here, so the place is still open and the name breaks it.
            · refine ⟨[], some (.name name), ⟨ts, rfl⟩, hopens, .late name hname (fun s => ?_)
                fun rest => callOf_of_not_isKind name hname rest⟩
              exact hcompletes s [] (prompt_callOf s).answers
        | number x => exact detects_first hopens _ ts cause fun _ => h
        | mark m => exact detects_first hopens _ ts cause fun _ => h

theorem prompt_statement : Prompt statement :=
  (prompt_expectMark .dot).bind fun _ _ => prompt_call

/-- Statements up to the mark that closes their phase are read promptly. -/
theorem prompt_statements : Prompt (statements : Reader (List (Statement Float))) := by
  have hopens : Completes (statements : Reader _) [] := ⟨_, [], statements_close []⟩
  refine ⟨fun tokens ss rest h => ?_, hopens, fun tokens => ?_⟩
  · rcases (statements_eq_ok_iff tokens rest ss).mp h with ⟨front, hfront, rfl⟩
    refine ⟨front ++ [.mark .parenClose], by rw [List.append_assoc]; rfl, fun more => ?_⟩
    exact (statements_eq_ok_iff _ _ _).mpr ⟨front, hfront, by rw [List.append_assoc]; rfl⟩
  -- By induction on the run of the reader. The cases are those of its loop.
  · induction tokens using statements.induct with
    | case1 =>
        intro cause h
        exact detects_end hopens cause h
    | case2 tokens hne hclose =>
        intro cause h
        rw [statements, if_neg hne, if_pos hclose] at h
        cases h
    | case3 tokens hne hclose cause' hcause' =>
        intro cause h
        refine (prompt_statement.detects tokens cause' hcause').lift [] ?_ ?_
        · -- A statement that can be completed can be followed by the mark that closes the phase.
          rintro front ⟨more, s, hs⟩
          rcases prompt_statement.takes _ s [] hs with ⟨taken, htaken, hall⟩
          rw [List.append_nil] at htaken
          refine ⟨more ++ [.mark .parenClose], [s], ?_⟩
          rw [List.nil_append, ← List.append_assoc, htaken, statements_of_ok _ _ s (hall _),
            statements_close]
          rfl
        · intro front next hbegins us cause'' hus hrefused
          have hhead : us.head? = tokens.head? := by rw [hus.head?_eq, hbegins.head?_eq]
          refine statements_of_error us cause'' hrefused ?_ (by rw [hhead]; exact hclose)
          rintro rfl
          exact hne (List.head?_eq_none_iff.mp hhead.symm)
    | case4 tokens hne hclose s middle hs ih =>
        intro cause h
        rw [statements_of_ok tokens middle s hs] at h
        rcases prompt_statement.takes tokens s middle hs with ⟨taken, rfl, hall⟩
        cases hmore : statements middle with
        | ok answer =>
            rw [hmore] at h
            cases h
        | error cause' =>
            -- The other statements are refused, and what completes them completes the row with
            -- this one.
            refine (ih cause' hmore).lift taken ?_ fun _ _ _ us cause'' _ hus => ?_
            · rintro front ⟨more, ss, hss⟩
              refine ⟨more, s :: ss, ?_⟩
              rw [List.append_assoc, statements_of_ok _ _ s (hall _), hss]
              rfl
            · rw [statements_of_ok _ _ s (hall us), hus]
              rfl

/-- A name and the condition that it is a method. -/
def takeMethod : Reader Method := do
  let name ← takeName .methodName
  requireSome (Method.ofName? name) (.unknownMethod name)

/-- A number and the condition that it is not negative. -/
def takeDuration : Reader Float := do
  let duration ← takeNumber .duration
  require (decide ¬ duration < 0) .nonNegativeDuration
  pure duration

/-- A name and the condition that it is the placeholder. -/
def takeEcho (placeholder : String) : Reader Unit := do
  let echo ← takeName .placeholder
  require (placeholder == echo) .samePlaceholder

theorem prompt_takeMethod : Prompt takeMethod :=
  ((takesOne_takeToken _ _).bind fun _ => takesNone_requireSome _ _).prompt
    (.name "Uniform") .uniform rfl

theorem prompt_takeDuration : Prompt takeDuration := by
  have hone : takeDuration [.number 1.0] = .ok (1.0, []) := by
    rw [takeDuration, takeNumber_bind]
    exact ⟨1.0, [], rfl, by decide, rfl⟩
  exact ((takesOne_takeNumber _).bind fun _ => (takesNone_require _ _).bind fun _ =>
    takesNone_pure _).prompt _ _ hone

theorem prompt_takeEcho (placeholder : String) : Prompt (takeEcho placeholder) := by
  have hsame : takeEcho placeholder [.name placeholder] = .ok ((), []) := by
    rw [takeEcho, takeName_bind]
    refine ⟨placeholder, [], rfl, ?_⟩
    rw [beq_self_eq_true]
    rfl
  exact ((takesOne_takeToken _ _).bind fun _ => takesNone_require _ _).prompt _ _ hsame

/-- A phase is read step by step, each condition together with the token it is about. -/
theorem phase_eq : phase = (do
    expectMark .dot
    let method ← takeMethod
    expectMark .parenOpen
    let duration ← takeDuration
    expectMark .comma
    let parameter ← takeName .placeholder
    expectMark .equals
    expectMark .greater
    takeEcho parameter
    let body ← (statements : Reader (List (Statement Float)))
    pure ⟨method, duration, body⟩) := by
  simp only [phase, takeMethod, takeDuration, takeEcho, bind_assoc, pure_bind]

theorem prompt_phase : Prompt phase := by
  -- Every step is prompt whatever the ones before it answered, so all of them are.
  rw [phase_eq]
  exact (prompt_expectMark _).bind fun _ _ => prompt_takeMethod.bind fun _ _ =>
    (prompt_expectMark _).bind fun _ _ => prompt_takeDuration.bind fun _ _ =>
    (prompt_expectMark _).bind fun _ _ => (prompt_takeName _).bind fun _ _ =>
    (prompt_expectMark _).bind fun _ _ => (prompt_expectMark _).bind fun _ _ =>
    (prompt_takeEcho _).bind fun _ _ => prompt_statements.bind fun _ _ => prompt_pure _

/-- Phases can be followed by others, or by the end. -/
theorem detects_phases (tokens : List Token) (cause : Rejection)
    (h : phases tokens = .error cause) :
    Detects phases (fun front => ∃ more ps, phases (front ++ more) = .ok ps) tokens := by
  induction tokens using phases.induct generalizing cause with
  | case1 tokens hstop =>
      rw [phases, if_pos hstop] at h
      cases h
  | case2 tokens hstop cause' hcause' =>
      -- Behind a phase that can be completed the program may end.
      refine (prompt_phase.detects tokens cause' hcause').lift [] ?_ ?_
      · rintro front ⟨more, p, hp⟩
        refine ⟨more, [p], ?_⟩
        rw [List.nil_append, phases_of_ok _ _ p hp, phases_nil]
        rfl
      · intro front next hbegins us cause'' hus hrefused
        have hhead : us.head? = tokens.head? := by rw [hus.head?_eq, hbegins.head?_eq]
        refine phases_of_error us cause'' hrefused ?_
        rw [hhead]
        rintro (rfl | hsemicolon)
        · exact hstop (Or.inl (List.head?_eq_none_iff.mp hhead.symm))
        · exact hstop (Or.inr hsemicolon)
  | case3 tokens hstop p middle hp ih =>
      rw [phases_of_ok tokens middle p hp] at h
      rcases prompt_phase.takes tokens p middle hp with ⟨taken, rfl, hall⟩
      cases hmore : phases middle with
      | ok ps =>
          rw [hmore] at h
          cases h
      | error cause' =>
          -- This phase is read, and one of the others is refused.
          refine (ih cause' hmore).lift taken ?_ fun _ _ _ us cause'' _ hus => ?_
          · rintro front ⟨more, ps, hps⟩
            refine ⟨more, p :: ps, ?_⟩
            rw [List.append_assoc, phases_of_ok _ _ p (hall _), hps]
            rfl
          · rw [phases_of_ok _ _ p (hall us), hus]
            rfl

theorem prompt_header : Prompt header :=
  (prompt_expectWord _ _).bind fun _ _ => (prompt_expectWord _ _).bind fun _ _ =>
    (prompt_expectMark _).bind fun _ _ => prompt_expectMark _

/-- Tokens that can be continued to a program. -/
def Viable (front : List Token) : Prop :=
  ∃ more p, readTokens (front ++ more) = .ok p

theorem readTokens_of_ok (tokens rest : List Token) (h : header tokens = .ok ((), rest)) :
    readTokens tokens = (phases rest).map Program.mk := by
  rw [readTokens, h]

theorem readTokens_of_error (tokens : List Token) (cause : Rejection)
    (h : header tokens = .error cause) : readTokens tokens = .error cause := by
  rw [readTokens, h]

/-- The rejection of a row is settled where no program can follow any more. -/
theorem detects_readTokens (tokens : List Token) (cause : Rejection)
    (h : readTokens tokens = .error cause) : Detects readTokens Viable tokens := by
  cases hheader : header tokens with
  | error cause' =>
      refine (prompt_header.detects tokens cause' hheader).lift [] ?_ ?_
      · rintro front ⟨more, b, hb⟩
        refine ⟨more, ⟨[]⟩, ?_⟩
        rw [List.nil_append, readTokens_of_ok _ _ hb, phases_nil]
        rfl
      · exact fun _ _ _ us cause'' _ hus => readTokens_of_error us cause'' hus
  | ok answer =>
      rcases answer with ⟨⟨⟩, rest⟩
      rw [readTokens_of_ok tokens rest hheader] at h
      -- The header is read, so it is a phase that is refused.
      rcases prompt_header.takes tokens () rest hheader with ⟨taken, rfl, hall⟩
      cases hphases : phases rest with
      | ok ps =>
          rw [hphases] at h
          cases h
      | error cause' =>
          refine (detects_phases rest cause' hphases).lift taken ?_ fun _ _ _ us cause'' _ hus => ?_
          · rintro front ⟨more, ps, hps⟩
            refine ⟨more, ⟨ps⟩, ?_⟩
            rw [List.append_assoc, readTokens_of_ok _ _ (hall _), hps]
            rfl
          · rw [readTokens_of_ok _ _ (hall us), hus]
            rfl

/-- The first offending token of a row, or its end. The tokens in front of it can be continued to a
    program, and with it they cannot. -/
structure BreaksAt (tokens front : List Token) (next : Option Token) : Prop where
  /-- The row begins so. -/
  begins : Begins front next tokens
  /-- In front of the offending token a program can still follow. -/
  viable : Viable front
  /-- No row that begins so is a program. -/
  offends : ∀ us, Begins front next us → ∀ p, readTokens us ≠ .ok p

/-- Where a rejection is settled there is one. -/
theorem Settles.exists_cause {γ : Type} {run : List Token → Except Rejection γ}
    {opens : List Token → Prop} {front : List Token} {next : Option Token}
    (h : Settles run opens front next) (us : List Token) (hus : Begins front next us) :
    ∃ cause, run us = .error cause := by
  cases h with
  | atOnce _ cause h => exact ⟨cause, h us hus⟩
  | late name _ _ h =>
      rcases hus with ⟨rest, rfl⟩
      exact ⟨_, h rest⟩

/-- A row that is rejected breaks somewhere, and its rejection is settled there. -/
theorem exists_breaksAt (tokens : List Token) (cause : Rejection)
    (h : readTokens tokens = .error cause) :
    ∃ front next, BreaksAt tokens front next ∧ Settles readTokens Viable front next := by
  rcases detects_readTokens tokens cause h with ⟨front, next, hbegins, hviable, hsettles⟩
  refine ⟨front, next, ⟨hbegins, hviable, fun us hus p hp => ?_⟩, hsettles⟩
  rcases hsettles.exists_cause us hus with ⟨cause', hcause'⟩
  rw [hcause'] at hp
  cases hp

/-- Of two places where a row breaks, none is behind the other: what begins with the tokens in front
    of the farther one begins with the offending token of the nearer one. -/
theorem BreaksAt.length_le {tokens front front' : List Token} {next next' : Option Token}
    (h : BreaksAt tokens front next) (h' : BreaksAt tokens front' next') :
    front'.length ≤ front.length := by
  by_contra hlonger
  rw [not_le] at hlonger
  have hfront : front'.take front.length = front := by
    rw [← h'.begins.take_eq, List.take_take, min_eq_left hlonger.le, h.begins.take_eq]
  have hnext : next = some front'[front.length] := by
    rw [← h.begins.getElem?_eq, ← List.getElem?_take_of_lt hlonger, h'.begins.take_eq,
      List.getElem?_eq_getElem hlonger]
  -- The farther front is the nearer one, the nearer offending token and some more.
  have hsplit : front ++ front'.drop front.length = front' := by
    have hall := List.take_append_drop front.length front'
    rwa [hfront] at hall
  rcases h'.viable with ⟨more, p, hp⟩
  refine h.offends (front' ++ more) ?_ p hp
  rw [hnext]
  refine ⟨front'.drop (front.length + 1) ++ more, ?_⟩
  rw [← List.cons_append, ← List.drop_eq_getElem_cons hlonger, ← List.append_assoc, hsplit]

/-- A row breaks at no more than one place. -/
theorem BreaksAt.unique {tokens front front' : List Token} {next next' : Option Token}
    (h : BreaksAt tokens front next) (h' : BreaksAt tokens front' next') :
    front = front' ∧ next = next' := by
  have hlength : front.length = front'.length := Nat.le_antisymm (h'.length_le h) (h.length_le h')
  constructor
  · rw [← h.begins.take_eq, hlength, h'.begins.take_eq]
  · rw [← h.begins.getElem?_eq, hlength, h'.begins.getElem?_eq]

/-- The tokens of a uniform phase of one second up to its statements. -/
def opening : List Token :=
  [.mark .dot, .name "Uniform", .mark .parenOpen, .number 1.0, .mark .comma, .name "e",
    .mark .equals, .mark .greater, .name "e"]

/-- The tokens of a program up to the statements of such a phase. -/
def programOpening : List Token :=
  [.name "new", .name "MoverBuilder", .mark .parenOpen, .mark .parenClose] ++ opening

theorem phase_opening (rest : List Token) :
    phase (opening ++ rest) = ((statements : Reader (List (Statement Float))) >>= fun body =>
      (pure ⟨.uniform, 1.0, body⟩ : Reader (Phase Float))) rest :=
  rfl

theorem header_programOpening (rest : List Token) :
    header (programOpening ++ rest) = .ok ((), opening ++ rest) :=
  rfl

/-- What completes the statements of a phase completes the program. -/
theorem viable_programOpening (front : List Token)
    (h : Completes (statements : Reader (List (Statement Float))) front) :
    Viable (programOpening ++ front) := by
  rcases h with ⟨more, body, hbody⟩
  refine ⟨more, ⟨[⟨.uniform, 1.0, body⟩]⟩, ?_⟩
  have hphase : phase (opening ++ (front ++ more)) = .ok (⟨.uniform, 1.0, body⟩, []) := by
    rw [phase_opening, bind_of_ok hbody]
    rfl
  rw [List.append_assoc, readTokens_of_ok _ _ (header_programOpening _),
    phases_of_ok _ _ _ hphase, phases_nil]
  rfl

/-- What is reported of the statements of a phase is reported of the program. -/
theorem readTokens_programOpening (rest : List Token) (cause : Rejection)
    (h : (statements : Reader (List (Statement Float))) rest = .error cause) :
    readTokens (programOpening ++ rest) = .error cause := by
  have hphase : phase (opening ++ rest) = .error cause := by
    rw [phase_opening, bind_of_error h]
  have hgoes : ¬ (opening ++ rest = [] ∨ (opening ++ rest).head? = some (.mark .semicolon)) := by
    rintro (hend | hsemicolon)
    · cases hend
    · cases hsemicolon
  rw [readTokens_of_ok _ _ (header_programOpening _), phases_of_error _ cause hphase hgoes]
  rfl

/-- A name of no kind refuses the statements. -/
theorem statements_of_not_isKind (name : String) (h : ¬ IsKind name) (rest : List Token) :
    (statements : Reader (List (Statement Float))) (.mark .dot :: .name name :: rest)
      = .error (lateCause name rest) := by
  have hstatement : statement (.mark .dot :: .name name :: rest) = .error (lateCause name rest) :=
    callOf_of_not_isKind name h rest
  refine statements_of_error _ _ hstatement (List.cons_ne_nil _ _) ?_
  intro hclose
  cases hclose

/-- A name of no kind is where such a program breaks. -/
theorem breaksAt_of_not_isKind (name : String) (h : ¬ IsKind name) (rest : List Token) :
    BreaksAt (programOpening ++ .mark .dot :: .name name :: rest)
      (programOpening ++ [.mark .dot]) (some (.name name)) where
  begins := ⟨rest, by rw [List.append_assoc]; rfl⟩
  viable := by
    refine viable_programOpening _ ?_
    -- In place of the unknown name a line can be drawn.
    rcases (prompt_callOf (.line Vec.zero)).answers with ⟨more, s, hs⟩
    refine ⟨.name "Line" :: more ++ [.mark .parenClose], [s], ?_⟩
    rcases (prompt_callOf (.line Vec.zero)).takes _ s [] hs with ⟨taken, htaken, hall⟩
    rw [List.append_nil] at htaken
    have hstatement : statement (.mark .dot :: .name "Line" :: (taken ++ [.mark .parenClose]))
        = .ok (s, [.mark .parenClose]) := hall _
    rw [List.nil_append] at htaken
    rw [htaken]
    exact (statements_of_ok _ _ s hstatement).trans (by rw [statements_close]; rfl)
  offends := by
    rintro us ⟨more, rfl⟩ p hp
    rw [List.append_assoc, List.singleton_append,
      readTokens_programOpening _ _ (statements_of_not_isKind name h more)] at hp
    cases hp

theorem not_isKind_spiral : ¬ IsKind "Spiral" := by
  rintro ⟨s, hs⟩
  cases s <;> simp only [Statement.kind, String.reduceEq] at hs

theorem ofText_spiral : Token.ofText "new MoverBuilder().Uniform(1, e => e.Spiral(1))"
    = programOpening ++ .mark .dot :: .name "Spiral" ::
      [.mark .parenOpen, .number 1.0, .mark .parenClose, .mark .parenClose] := by
  decide +kernel

/-- A name of no kind where any kind of statement could stand. -/
structure UnknownKind (front : List Token) (next : Option Token) (name : String) : Prop where
  /-- The name comes next. -/
  next_eq : next = some (.name name)
  /-- It is of no kind. -/
  not_isKind : ¬ IsKind name
  /-- Any kind could follow. -/
  viable : ∀ s : Statement Float, Viable (front ++ [.name s.kind])

/-- A rejection depends on nothing behind the first offending token. Texts whose tokens are the same
    up to this token, or to the end where that offends, are rejected for the same cause, with one
    exception. If the token is the name of no kind where a statement names its kind, then the texts
    also have to agree on whether a parenthesis follows the name. -/
theorem read_breaksAt (text text' : String) (front : List Token) (next : Option Token)
    (h : BreaksAt (Token.ofText text) front next) (hsame : Begins front next (Token.ofText text'))
    (hkind : ∀ name, UnknownKind front next name →
      ((Token.ofText text)[front.length + 1]? = some (.mark .parenOpen) ↔
        (Token.ofText text')[front.length + 1]? = some (.mark .parenOpen))) :
    ∃ cause, read text = .error cause ∧ read text' = .error cause := by
  cases hread : readTokens (Token.ofText text) with
  | ok p => exact absurd hread (h.offends _ h.begins p)
  | error cause =>
      rcases exists_breaksAt _ cause hread with ⟨front', next', h', hsettles⟩
      rcases h.unique h' with ⟨rfl, rfl⟩
      have hbegins := h.begins
      cases hsettles with
      | atOnce _ cause' hall => exact ⟨cause', hall _ hbegins, hall _ hsame⟩
      -- Only here does it matter what stands behind the offending token.
      | late name hname hkinds hall =>
          rcases hbegins with ⟨rest, hrest⟩
          rcases hsame with ⟨rest', hrest'⟩
          have hagree := hkind name ⟨rfl, hname, hkinds⟩
          have hbehind : ∀ us : List Token, (front ++ .name name :: us)[front.length + 1]?
              = us.head? := by
            intro us
            rw [List.getElem?_append_right (by omega), Nat.add_sub_cancel_left,
              List.getElem?_cons_succ, List.head?_eq_getElem?]
          rw [hrest, hrest', hbehind, hbehind] at hagree
          refine ⟨lateCause name rest, ?_, ?_⟩
          · rw [read, hrest]
            exact hall rest
          · have hcause : lateCause name rest = lateCause name rest' := if_congr hagree rfl rfl
            rw [read, hrest', hcause]
            exact hall rest'

/-- A name of no kind in two texts that differ behind it, both with a parenthesis there. -/
theorem read_breaksAt_spiral :
    ∃ cause, read "new MoverBuilder().Uniform(1, e => e.Spiral(1))" = .error cause ∧
      read "new MoverBuilder().Uniform(1, e => e.Spiral(), e" = .error cause := by
  have hsecond : Token.ofText "new MoverBuilder().Uniform(1, e => e.Spiral(), e"
      = programOpening ++ .mark .dot :: .name "Spiral" ::
        [.mark .parenOpen, .mark .parenClose, .mark .comma, .name "e"] := by
    decide +kernel
  refine read_breaksAt _ _ (programOpening ++ [.mark .dot]) (some (.name "Spiral")) ?_ ?_ ?_
  · rw [ofText_spiral]
    exact breaksAt_of_not_isKind "Spiral" not_isKind_spiral _
  · exact ⟨_, hsecond⟩
  · intro name _
    rw [ofText_spiral, hsecond]
    exact Iff.rfl

/-- Two texts break at the same name and are rejected for different causes, since a parenthesis
    follows in one of them only. -/
theorem read_unknownKind :
    BreaksAt (Token.ofText "new MoverBuilder().Uniform(1, e => e.Spiral(1))")
      (programOpening ++ [.mark .dot]) (some (.name "Spiral")) ∧
    BreaksAt (Token.ofText "new MoverBuilder().Uniform(1, e => e.Spiral)")
      (programOpening ++ [.mark .dot]) (some (.name "Spiral")) ∧
    (read "new MoverBuilder().Uniform(1, e => e.Spiral(1))").mapError Rejection.message
      = .error "Unknown method name: Spiral" ∧
    (read "new MoverBuilder().Uniform(1, e => e.Spiral)").mapError Rejection.message
      = .error "Expected '('" := by
  have hbare : Token.ofText "new MoverBuilder().Uniform(1, e => e.Spiral)"
      = programOpening ++ .mark .dot :: .name "Spiral" :: [.mark .parenClose] := by
    decide +kernel
  -- The two differ in the token behind the name alone.
  rw [read, read, ofText_spiral, hbare,
    readTokens_programOpening _ _ (statements_of_not_isKind "Spiral" not_isKind_spiral _),
    readTokens_programOpening _ _ (statements_of_not_isKind "Spiral" not_isKind_spiral _)]
  exact ⟨breaksAt_of_not_isKind "Spiral" not_isKind_spiral _,
    breaksAt_of_not_isKind "Spiral" not_isKind_spiral _, rfl, rfl⟩

end Script

end PlanarMotion
