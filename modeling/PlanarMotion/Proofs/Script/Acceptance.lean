import PlanarMotion.Proofs.Script.Taking

/-!
# The Reader Accepts the Grammar

The reader descends through the forms of a program with one token in view and stops at
the first that does not fit. The grammar says nothing about order or about stopping.
That the two agree is shown form by form, each time as an equivalence: a reader answers
with a part and the tokens behind it exactly if the tokens begin with that part.

The two loops are the only recursions. A row of statements ends at the mark that closes
its phase, and a row of phases at the end or at a semicolon; neither is the dot that
every statement and every phase begins with, so where a row ends is never in doubt.

The answers are equivalences with the program in them. A text therefore denotes at most
one program, and what denotes none is rejected.

## Theorems

* `arguments_eq_ok_iff`, `statement_eq_ok_iff`, `statements_eq_ok_iff`: Statements are
  read exactly from their tokens.
* `phase_eq_ok_iff`, `phases_eq_ok_iff`: So are phases.
* `readTokens_eq_ok_iff`: So are programs.
* `read_accepts_grammar`: A text is read exactly if it denotes a program, which is the
  one that is read, is unique and can be built.
-/

namespace PlanarMotion

namespace Script

open PlanarMotion.Number

/-- The arguments of a statement are read exactly from tokens that have their form. -/
theorem arguments_eq_ok_iff (kind : String) (tokens rest : List Token) (s : Statement Float) :
    arguments kind tokens = .ok (s, rest) ↔
      s.kind = kind ∧ ∃ front, IsArguments front s ∧ tokens = front ++ rest := by
  -- One case for each form in both directions: the forms are told apart by the name.
  constructor
  · intro h
    unfold arguments at h
    split at h <;> try simp only [takeVector_bind, takeNumber_bind, takeSegments_bind,
      expectMark_bind, pure_eq_ok_iff] at h
    · rcases h with ⟨ts, point, _, hpoint, rfl, rfl, rfl⟩
      exact ⟨rfl, ts, .start ts point hpoint, rfl⟩
    · rcases h with ⟨ts, stop, _, hstop, rfl, rfl, rfl⟩
      exact ⟨rfl, ts, .line ts stop hstop, rfl⟩
    · rcases h with ⟨length, _, rfl, hlength, rfl, rfl⟩
      exact ⟨rfl, _, .lineContinue length hlength, rfl⟩
    · rcases h with ⟨ts, center, _, hcenter, rfl, _, rfl, angle, _, rfl, hangle, rfl, rfl⟩
      exact ⟨rfl, _, .arc ts center angle hcenter hangle, by simp only [List.append_assoc,
        List.cons_append, List.nil_append]⟩
    · rcases h with ⟨radius, _, rfl, hradius, _, rfl, angle, _, rfl, hangle, rfl, rfl⟩
      exact ⟨rfl, _, .arcContinue radius angle hradius hangle, rfl⟩
    · rcases h with ⟨ts, c1, _, hc1, rfl, _, rfl, us, c2, _, hc2, rfl, _, rfl, vs, stop, _,
        hstop, rfl, _, rfl, count, segments, _, rfl, hcount, rfl, rfl⟩
      exact ⟨rfl, _, .bezier ts us vs c1 c2 stop count segments hc1 hc2 hstop hcount, by
        simp only [List.append_assoc, List.cons_append, List.nil_append]⟩
    · rcases h with ⟨c1Offset, _, rfl, hoffset, _, rfl, us, c2, _, hc2, rfl, _, rfl, vs, stop, _,
        hstop, rfl, _, rfl, count, segments, _, rfl, hcount, rfl, rfl⟩
      exact ⟨rfl, _, .bezierContinue us vs c1Offset c2 stop count segments hoffset hc2 hstop
        hcount, by simp only [List.append_assoc, List.cons_append, List.nil_append]⟩
    · exact absurd h (throw_ne_ok _ _ _)
  · rintro ⟨rfl, front, hargs, rfl⟩
    cases hargs with
    | start _ point hpoint =>
        simp only [arguments, Statement.kind, takeVector_bind, pure_eq_ok_iff]
        exact ⟨front, point, rest, hpoint, rfl, rfl, rfl⟩
    | line _ stop hstop =>
        simp only [arguments, Statement.kind, takeVector_bind, pure_eq_ok_iff]
        exact ⟨front, stop, rest, hstop, rfl, rfl, rfl⟩
    | lineContinue length hlength =>
        simp only [arguments, Statement.kind, takeNumber_bind, pure_eq_ok_iff]
        exact ⟨length, rest, rfl, hlength, rfl, rfl⟩
    | arc ts center angle hcenter hangle =>
        simp only [arguments, Statement.kind, takeVector_bind, takeNumber_bind, expectMark_bind,
          pure_eq_ok_iff]
        exact ⟨ts, center, _, hcenter, List.append_assoc _ _ _, _, rfl, angle, rest, rfl, hangle,
          rfl, rfl⟩
    | arcContinue radius angle hradius hangle =>
        simp only [arguments, Statement.kind, takeNumber_bind, expectMark_bind, pure_eq_ok_iff]
        exact ⟨radius, _, rfl, hradius, _, rfl, angle, rest, rfl, hangle, rfl, rfl⟩
    | bezier ts us vs c1 c2 stop count segments hc1 hc2 hstop hcount =>
        simp only [arguments, Statement.kind, takeVector_bind, takeSegments_bind,
          expectMark_bind, pure_eq_ok_iff, List.append_assoc, List.cons_append, List.nil_append]
        exact ⟨ts, c1, _, hc1, rfl, _, rfl, us, c2, _, hc2, rfl, _, rfl, vs, stop, _, hstop, rfl,
          _, rfl, count, segments, rest, rfl, hcount, rfl, rfl⟩
    | bezierContinue us vs c1Offset c2 stop count segments hoffset hc2 hstop hcount =>
        simp only [arguments, Statement.kind, takeVector_bind, takeNumber_bind,
          takeSegments_bind, expectMark_bind, pure_eq_ok_iff, List.append_assoc,
          List.cons_append, List.nil_append]
        exact ⟨c1Offset, _, rfl, hoffset, _, rfl, us, c2, _, hc2, rfl, _, rfl, vs, stop, _, hstop,
          rfl, _, rfl, count, segments, rest, rfl, hcount, rfl, rfl⟩

/-- So is a statement. -/
theorem statement_eq_ok_iff (tokens rest : List Token) (s : Statement Float) :
    statement tokens = .ok (s, rest) ↔ ∃ front, IsStatement front s ∧ tokens = front ++ rest := by
  have harguments : ∀ {γ : Type} (kind : String) (f : Statement Float → Reader γ)
      (us vs : List Token) (c : γ), (arguments kind >>= f) us = .ok (c, vs) ↔
        ∃ s tail, (s.kind = kind ∧ ∃ front, IsArguments front s ∧ us = front ++ tail) ∧
          f s tail = .ok (c, vs) := by
    intro γ kind f us vs c
    rw [bind_eq_ok_iff]
    simp only [arguments_eq_ok_iff]
  -- Step by step the conditions of the form are collected, and the names are what differs.
  unfold statement
  simp only [expectMark_bind, takeName_bind, harguments, pure_eq_ok_iff]
  constructor
  · rintro ⟨_, rfl, kind, _, rfl, _, rfl, s', _, ⟨rfl, ts, hargs, rfl⟩, _, rfl, rfl, rfl⟩
    exact ⟨_, .call ts s' hargs, by simp only [List.append_assoc, List.cons_append,
      List.nil_append]⟩
  · rintro ⟨front, ⟨ts, _, hargs⟩, rfl⟩
    exact ⟨_, rfl, s.kind, _, rfl, _, rfl, s, _, ⟨rfl, ts, hargs, List.append_assoc _ _ _⟩, _,
      rfl, rfl, rfl⟩

theorem ofName?_eq_some_iff (name : String) (m : Method) :
    Method.ofName? name = some m ↔ name = m.name := by
  constructor
  · intro h
    have hname := List.find?_some h
    exact (beq_iff_eq.mp hname).symm
  · rintro rfl
    exact m.ofName?_name

/-- Among finite durations, those are read whose value is not negative. -/
theorem not_lt_zero_iff (x : Float) (h : x.isFinite = true) :
    (decide ¬ x < 0) = true ↔ 0 ≤ value x := by
  have hfinite := (isFinite_iff x).mp h
  have hlt : x < 0 ↔ Float.lt x Double.zero = true := Iff.rfl
  rw [decide_eq_true_iff, hlt, lt_zero_iff x hfinite, not_not, zero_le_value_iff x hfinite]

/-- A row of statements is read one by one. A statement that is refused refuses the row. -/
theorem statements_of_error (tokens : List Token) (cause : Rejection)
    (h : statement tokens = .error cause) (hne : tokens ≠ [])
    (hclose : tokens.head? ≠ some (.mark .parenClose)) : statements tokens = .error cause := by
  rw [statements, if_neg hne, if_neg hclose]
  split
  · rename_i cause' hcause'
    rw [h, Except.error.injEq] at hcause'
    rw [hcause']
  · rename_i hok
    rw [h] at hok
    cases hok

/-- Behind a statement the row goes on. -/
theorem statements_of_ok (tokens rest : List Token) (s : Statement Float)
    (h : statement tokens = .ok (s, rest)) :
    statements tokens = (statements rest).map fun (more, after) => (s :: more, after) := by
  -- A statement begins with a dot, so the row does not end in front of it.
  have hhead : tokens.head? = some (.mark .dot) := by
    rcases (statement_eq_ok_iff tokens rest s).mp h with ⟨front, ⟨ts, _, hargs⟩, rfl⟩
    rfl
  rw [statements, if_neg (by rintro rfl; cases hhead), if_neg (by rw [hhead]; decide)]
  split
  · rename_i hcause
    rw [h] at hcause
    cases hcause
  · rename_i hok
    rw [h] at hok
    cases hok
    rfl

theorem statements_close (rest : List Token) :
    statements (.mark .parenClose :: rest) = .ok ([], rest) := by
  rw [statements, if_neg (List.cons_ne_nil _ _), if_pos List.head?_cons, List.tail_cons]

/-- Statements are read exactly from tokens of their form and the mark that closes the phase. -/
theorem statements_eq_ok_iff (tokens rest : List Token) (ss : List (Statement Float)) :
    statements tokens = .ok (ss, rest) ↔
      ∃ front, IsStatements front ss ∧ tokens = front ++ .mark .parenClose :: rest := by
  -- What is read has the form by induction on the run of the reader, and what has the form is
  -- read by induction on the form.
  constructor
  · induction tokens using statements.induct generalizing ss rest with
    | case1 =>
        intro h
        rw [statements, if_pos rfl] at h
        cases h
    | case2 tokens hne hclose =>
        intro h
        rw [statements, if_neg hne, if_pos hclose, Except.ok.injEq, Prod.mk.injEq] at h
        refine ⟨[], by rw [← h.1]; exact .nil, ?_⟩
        cases tokens with
        | nil => exact absurd rfl hne
        | cons t ts =>
            rw [List.head?_cons, Option.some.injEq] at hclose
            rw [← h.2, hclose]
            rfl
    | case3 tokens hne hclose cause hcause =>
        intro h
        rw [statements_of_error tokens cause hcause hne hclose] at h
        cases h
    | case4 tokens hne hclose s middle hs ih =>
        intro h
        rw [statements_of_ok tokens middle s hs] at h
        rcases hmore : statements middle with cause | ⟨more, after⟩
        · rw [hmore] at h
          exact absurd h (by simp only [Except.map, reduceCtorEq, not_false_eq_true])
        · rw [hmore] at h
          simp only [Except.map, Except.ok.injEq, Prod.mk.injEq] at h
          -- One statement in front of those that are read by induction.
          rcases ih rest more (by rw [hmore, h.2]) with ⟨us, hus, rfl⟩
          rcases (statement_eq_ok_iff _ _ s).mp hs with ⟨ts, hts, htokens⟩
          refine ⟨ts ++ us, ?_, by rw [htokens, List.append_assoc]⟩
          rw [← h.1]
          exact .cons ts us s more hts hus
  · rintro ⟨front, hfront, rfl⟩
    induction hfront with
    | nil => exact statements_close rest
    | cons ts us s more hs hmore ih =>
        have hread : statement (ts ++ us ++ .mark .parenClose :: rest)
            = .ok (s, us ++ .mark .parenClose :: rest) :=
          (statement_eq_ok_iff _ _ s).mpr ⟨ts, hs, List.append_assoc _ _ _⟩
        rw [statements_of_ok _ _ s hread, ih]
        rfl

/-- A phase is read exactly from tokens of its form. -/
theorem phase_eq_ok_iff (tokens rest : List Token) (p : Phase Float) :
    phase tokens = .ok (p, rest) ↔ ∃ front, IsPhase front p ∧ tokens = front ++ rest := by
  have hstatements : ∀ {γ : Type} (f : List (Statement Float) → Reader γ) (us vs : List Token)
      (c : γ), (((statements : Reader _) >>= f) us = .ok (c, vs)) ↔
        ∃ ss tail, (∃ front, IsStatements front ss ∧ us = front ++ .mark .parenClose :: tail) ∧
          f ss tail = .ok (c, vs) := by
    intro γ f us vs c
    rw [bind_eq_ok_iff]
    simp only [statements_eq_ok_iff]
  unfold phase
  simp only [expectMark_bind, takeName_bind, requireSome_bind, takeNumber_bind, require_bind,
    hstatements, pure_eq_ok_iff, ofName?_eq_some_iff]
  constructor
  · rintro ⟨_, rfl, _, _, rfl, method, rfl, _, rfl, duration, _, rfl, hfinite, hnonneg, _, rfl,
      placeholder, _, rfl, _, rfl, _, rfl, echo, _, rfl, hecho, body, _, ⟨ts, hbody, rfl⟩, rfl,
      rfl⟩
    -- The placeholder is repeated, so one name is left of the two.
    rw [beq_iff_eq] at hecho
    rw [← hecho]
    exact ⟨_, .call method duration placeholder ts body hfinite
      ((not_lt_zero_iff duration hfinite).mp hnonneg) hbody, by
        simp only [List.append_assoc, List.cons_append, List.nil_append]⟩
  · rintro ⟨front, ⟨method, duration, placeholder, ts, body, hfinite, hnonneg, hbody⟩, rfl⟩
    exact ⟨_, rfl, _, _, rfl, method, rfl, _, rfl, duration, _, rfl, hfinite,
      (not_lt_zero_iff duration hfinite).mpr hnonneg, _, rfl, placeholder, _, rfl, _, rfl, _, rfl,
      placeholder, _, rfl, beq_self_eq_true placeholder, body, _,
      ⟨ts, hbody, List.append_assoc _ _ _⟩, rfl, rfl⟩

theorem phases_nil : phases [] = .ok [] := by
  rw [phases, if_pos (Or.inl rfl)]

/-- A phase that is refused refuses the row of phases. -/
theorem phases_of_error (tokens : List Token) (cause : Rejection)
    (h : phase tokens = .error cause)
    (hstop : ¬ (tokens = [] ∨ tokens.head? = some (.mark .semicolon))) :
    phases tokens = .error cause := by
  rw [phases, if_neg hstop]
  split
  · rename_i cause' hcause'
    rw [h, Except.error.injEq] at hcause'
    rw [hcause']
  · rename_i hok
    rw [h] at hok
    cases hok

/-- Behind a phase the row goes on. -/
theorem phases_of_ok (tokens rest : List Token) (p : Phase Float)
    (h : phase tokens = .ok (p, rest)) : phases tokens = (phases rest).map (p :: ·) := by
  -- A phase begins with a dot as well.
  have hhead : tokens.head? = some (.mark .dot) := by
    rcases (phase_eq_ok_iff tokens rest p).mp h with ⟨front, hfront, rfl⟩
    cases hfront
    rfl
  have hgoes : ¬ (tokens = [] ∨ tokens.head? = some (.mark .semicolon)) := by
    rw [hhead]
    rintro (rfl | hsemicolon)
    · cases hhead
    · exact absurd hsemicolon (by decide)
  rw [phases, if_neg hgoes]
  split
  · rename_i hcause
    rw [h] at hcause
    cases hcause
  · rename_i hok
    rw [h] at hok
    cases hok
    rfl

/-- The tokens of phases are read as these, whatever ends them. -/
theorem phases_append (front rest : List Token) (ps : List (Phase Float))
    (hfront : IsPhases front ps) (hrest : rest = [] ∨ rest.head? = some (.mark .semicolon)) :
    phases (front ++ rest) = .ok ps := by
  induction hfront with
  | nil => rw [List.nil_append, phases, if_pos hrest]
  | cons ts us p more hp hmore ih =>
      have hread : phase (ts ++ us ++ rest) = .ok (p, us ++ rest) :=
        (phase_eq_ok_iff _ _ p).mpr ⟨ts, hp, List.append_assoc _ _ _⟩
      rw [phases_of_ok _ _ p hread, ih]
      rfl

/-- Phases are read exactly from tokens of their form, up to the end or to a semicolon. -/
theorem phases_eq_ok_iff (tokens : List Token) (ps : List (Phase Float)) :
    phases tokens = .ok ps ↔ IsPhases tokens ps ∨
      ∃ front rest, tokens = front ++ .mark .semicolon :: rest ∧ IsPhases front ps := by
  constructor
  · induction tokens using phases.induct generalizing ps with
    | case1 tokens hstop =>
        intro h
        rw [phases, if_pos hstop, Except.ok.injEq] at h
        rw [← h]
        rcases hstop with rfl | hsemicolon
        · exact Or.inl .nil
        · cases tokens with
          | nil => exact Or.inl .nil
          | cons t ts =>
              rw [List.head?_cons, Option.some.injEq] at hsemicolon
              exact Or.inr ⟨[], ts, by rw [hsemicolon, List.nil_append], .nil⟩
    | case2 tokens hstop cause hcause =>
        intro h
        rw [phases_of_error tokens cause hcause hstop] at h
        cases h
    | case3 tokens hstop p middle hp ih =>
        intro h
        rw [phases_of_ok tokens middle p hp] at h
        rcases (phase_eq_ok_iff _ _ p).mp hp with ⟨ts, hts, rfl⟩
        rcases hmore : phases middle with cause | more
        · rw [hmore] at h
          exact absurd h (by simp only [Except.map, reduceCtorEq, not_false_eq_true])
        · rw [hmore] at h
          simp only [Except.map, Except.ok.injEq] at h
          rw [← h]
          -- The others end the row or stand in front of a semicolon, and this one stands in front
          -- of them.
          rcases ih more hmore with hall | ⟨front, rest, rfl, hfront⟩
          · exact Or.inl (.cons ts middle p more hts hall)
          · exact Or.inr ⟨ts ++ front, rest, by rw [List.append_assoc],
              .cons ts front p more hts hfront⟩
  · rintro (hall | ⟨front, rest, rfl, hfront⟩)
    · rw [← List.append_nil tokens]
      exact phases_append tokens [] ps hall (Or.inl rfl)
    · exact phases_append front _ ps hfront (Or.inr rfl)

/-- A program has one header. -/
theorem header_eq_ok_iff (tokens rest : List Token) :
    header tokens = .ok ((), rest) ↔ tokens = .name "new" :: .name "MoverBuilder"
      :: .mark .parenOpen :: .mark .parenClose :: rest := by
  unfold header
  rw [← bind_pure (expectMark .parenClose)]
  simp only [expectWord_bind, expectMark_bind, pure_eq_ok_iff, true_and]
  constructor
  · rintro ⟨_, rfl, _, rfl, _, rfl, _, rfl, rfl⟩
    rfl
  · rintro rfl
    exact ⟨_, rfl, _, rfl, _, rfl, _, rfl, rfl⟩

/-- A program is read exactly from tokens that denote it. -/
theorem readTokens_eq_ok_iff (tokens : List Token) (p : Program Float) :
    readTokens tokens = .ok p ↔ Denotes tokens p := by
  have hread : readTokens tokens = .ok p ↔ ∃ rest, header tokens = .ok ((), rest) ∧
      phases rest = .ok p.phases := by
    unfold readTokens
    rcases header tokens with cause | ⟨⟨⟩, rest⟩
    · simp only [reduceCtorEq, false_and, exists_false]
    · simp only [Except.ok.injEq, Prod.mk.injEq, true_and, exists_eq_left']
      rcases phases rest with cause | ps
      · simp only [Except.map, reduceCtorEq]
      · simp only [Except.map, Except.ok.injEq]
        exact ⟨fun h => by rw [← h], fun h => by rw [h]⟩
  rw [hread]
  simp only [header_eq_ok_iff, phases_eq_ok_iff]
  constructor
  · rintro ⟨ts, rfl, hall | ⟨front, rest, rfl, hfront⟩⟩
    · exact Or.inl (.call ts p.phases hall)
    · exact Or.inr ⟨_, rest, rfl, .call front p.phases hfront⟩
  · rintro (⟨ts, ps, hall⟩ | ⟨_, rest, rfl, ⟨ts, ps, hfront⟩⟩)
    · exact ⟨ts, rfl, Or.inl hall⟩
    · exact ⟨_, rfl, Or.inr ⟨ts, rest, rfl, hfront⟩⟩

/-- The reader accepts its grammar. A text is read as a program exactly if its tokens denote
    that program; they denote no other, it can be built, and a text whose tokens denote none
    is rejected. -/
theorem read_accepts_grammar (text : String) :
    (∀ p, read text = .ok p ↔ Denotes (Token.ofText text) p) ∧
    (∀ p q, Denotes (Token.ofText text) p → Denotes (Token.ofText text) q → p = q) ∧
    (∀ p, Denotes (Token.ofText text) p → p.Valid) ∧
    ((¬ ∃ p, Denotes (Token.ofText text) p) → ∃ cause, read text = .error cause) := by
  have hread : ∀ p, read text = .ok p ↔ Denotes (Token.ofText text) p :=
    readTokens_eq_ok_iff (Token.ofText text)
  refine ⟨hread, ?_, fun p => Denotes.valid _ p, ?_⟩
  -- Two programs that are denoted are both the one that is read.
  · intro p q hp hq
    have hsame := ((hread p).mpr hp).symm.trans ((hread q).mpr hq)
    exact Except.ok.inj hsame
  · intro hnone
    cases hanswer : read text with
    | error cause => exact ⟨cause, rfl⟩
    | ok p => exact absurd ⟨p, (hread p).mp hanswer⟩ hnone

end Script

end PlanarMotion
