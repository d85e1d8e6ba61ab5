import PlanarMotion.Proofs.Script.PrintedNumbers

/-!
# Printed Programs

The tokens of a printed program, from the parts of a line up to the whole text. Each lemma
gives the tokens that the grammar has for the part and says that the text spells them, so
the text and the grammar are walked at the same time and never have to be compared.

Lines are spelled with what follows them. The rows of statements and phases can then be
built from the last line up, and the text that ends a line is always the line end.

## Theorems

* `spells_vectorText`, `spells_arguments`, `spells_statementText`: Parts of a line.
* `spells_statementLines`, `spells_phaseLines`, `spells_phasesLines`: Rows of lines.
* `tokensOf_printChars`: The text of a program has the tokens of what it keeps of the
  program, and a semicolon.
-/

namespace PlanarMotion

namespace Script

open PlanarMotion.Number PlanarMotion.Text

/-- The text of a vector as words, marks and numbers. -/
theorem vectorText_eq (v : Vec Float) :
    vectorText v = "new".toList ++ ' ' :: ("Vector2".toList ++ '(' ::
      (numberText v.x ++ ',' :: ' ' :: (numberText v.y ++ [')']))) := by
  have hopening : "new Vector2(".toList = "new".toList ++ ' ' :: ("Vector2".toList ++ ['(']) := by
    decide
  have hcomma : ", ".toList = [',', ' '] := by decide
  unfold vectorText
  rewrite [hopening, hcomma]
  simp only [List.append_assoc, List.cons_append, List.nil_append]

/-- A vector is printed as the call that makes it, of its rounded coordinates. -/
theorem spells_vectorText (v : Vec Float) (hx : v.x.isFinite = true) (hy : v.y.isFinite = true) :
    Spells (vectorText v) [.name "new", .name "Vector2", .mark .parenOpen,
      .number (rounded v.x), .mark .comma, .number (rounded v.y), .mark .parenClose] := by
  -- The call is built from its end: each piece goes in front of what is spelled already.
  have hsecond := (spells_numberText v.y hy).thenMark _ _ _ _ .parenClose spells_nil (by decide)
  have hfirst := (spells_numberText v.x hx).thenMark _ _ _ _ .comma
    (hsecond.blank ' ' _ _ (by decide)) (by decide)
  have hcall := (spells_word "Vector2" (by decide)).thenMark _ _ _ _ .parenOpen hfirst (by decide)
  rw [vectorText_eq]
  exact (spells_word "new" (by decide)).thenSpace _ _ _ _ hcall

theorem commaSeparated_singleton (part : List Char) : commaSeparated [part] = part := by
  rw [commaSeparated, List.intercalate, List.intersperse_singleton, List.flatten_singleton]

theorem commaSeparated_cons (part next : List Char) (parts : List (List Char)) :
    commaSeparated (part :: next :: parts)
      = part ++ ',' :: ' ' :: commaSeparated (next :: parts) := by
  rw [commaSeparated, List.intercalate, List.intersperse_cons_cons, List.flatten_cons,
    List.flatten_cons]
  rfl

/-- Parts are spelled with a comma between them. -/
theorem Spells.comma (cs : List Char) (parts : List (List Char)) (ts us : List Token)
    (hcs : Spells cs ts) (hne : parts ≠ []) (hparts : Spells (commaSeparated parts) us) :
    Spells (commaSeparated (cs :: parts)) (ts ++ .mark .comma :: us) := by
  cases parts with
  | nil => exact absurd rfl hne
  | cons next parts =>
      rw [commaSeparated_cons]
      exact hcs.thenMark _ _ _ _ .comma (hparts.blank ' ' _ _ (by decide)) (by decide)

/-- The arguments of a statement are printed in the form in which they are read. -/
theorem spells_arguments (s : Statement Float) (h : s.Storable) (hvalid : s.Valid) :
    ∃ ts, IsArguments ts (s.map rounded) ∧ Spells (commaSeparated (argumentTexts s)) ts := by
  rcases h with ⟨hfinite, hcounts⟩
  have hvector : ∀ v : Vec Float, v.x.isFinite = true → v.y.isFinite = true →
      ∃ ts, IsVector ts ⟨rounded v.x, rounded v.y⟩ ∧ Spells (vectorText v) ts := by
    intro v hx hy
    exact ⟨_, .call _ _ (isFinite_rounded _ hx) (isFinite_rounded _ hy), spells_vectorText v hx hy⟩
  cases s with
  | start point =>
      simp only [Statement.literals, List.forall_mem_cons] at hfinite
      rcases hvector point hfinite.1 hfinite.2.1 with ⟨ts, hts, htext⟩
      refine ⟨ts, .start ts _ hts, ?_⟩
      rw [argumentTexts, commaSeparated_singleton]
      exact htext
  | line stop =>
      simp only [Statement.literals, List.forall_mem_cons] at hfinite
      rcases hvector stop hfinite.1 hfinite.2.1 with ⟨ts, hts, htext⟩
      refine ⟨ts, .line ts _ hts, ?_⟩
      rw [argumentTexts, commaSeparated_singleton]
      exact htext
  | lineContinue length =>
      simp only [Statement.literals, List.forall_mem_cons] at hfinite
      refine ⟨_, .lineContinue _ (isFinite_rounded _ hfinite.1), ?_⟩
      rw [argumentTexts, commaSeparated_singleton]
      exact spells_numberText length hfinite.1
  | arc center angle =>
      simp only [Statement.literals, List.forall_mem_cons] at hfinite
      rcases hvector center hfinite.1 hfinite.2.1 with ⟨ts, hts, htext⟩
      refine ⟨_, .arc ts _ _ hts (isFinite_rounded _ hfinite.2.2.1), ?_⟩
      refine htext.comma _ _ _ _ (List.cons_ne_nil _ _) ?_
      rw [commaSeparated_singleton]
      exact spells_numberText angle hfinite.2.2.1
  | arcContinue radius angle =>
      simp only [Statement.literals, List.forall_mem_cons] at hfinite
      refine ⟨_, .arcContinue _ _ (isFinite_rounded _ hfinite.1)
        (isFinite_rounded _ hfinite.2.1), ?_⟩
      refine (spells_numberText radius hfinite.1).comma _ _ _ _ (List.cons_ne_nil _ _) ?_
      rw [commaSeparated_singleton]
      exact spells_numberText angle hfinite.2.1
  | bezier c1 c2 stop segments =>
      simp only [Statement.literals, List.forall_mem_cons] at hfinite
      rcases hfinite with ⟨hx1, hy1, hx2, hy2, hx3, hy3, -⟩
      rcases hvector c1 hx1 hy1 with ⟨ts, hts, htext1⟩
      rcases hvector c2 hx2 hy2 with ⟨us, hus, htext2⟩
      rcases hvector stop hx3 hy3 with ⟨vs, hvs, htext3⟩
      rcases spells_count segments (hcounts segments rfl) hvalid with ⟨count, hcount, htext4⟩
      refine ⟨_, .bezier ts us vs _ _ _ count segments hts hus hvs hcount, ?_⟩
      rw [← commaSeparated_singleton (digits segments)] at htext4
      have hall := htext1.comma _ _ _ _ (List.cons_ne_nil _ _)
        (htext2.comma _ _ _ _ (List.cons_ne_nil _ _)
          (htext3.comma _ _ _ _ (List.cons_ne_nil _ _) htext4))
      simp only [List.append_assoc, List.cons_append]
      exact hall
  | bezierContinue c1Offset c2 stop segments =>
      simp only [Statement.literals, List.forall_mem_cons] at hfinite
      rcases hfinite with ⟨hoffset, hx2, hy2, hx3, hy3, -⟩
      rcases hvector c2 hx2 hy2 with ⟨us, hus, htext2⟩
      rcases hvector stop hx3 hy3 with ⟨vs, hvs, htext3⟩
      rcases spells_count segments (hcounts segments rfl) hvalid with ⟨count, hcount, htext4⟩
      refine ⟨_, .bezierContinue us vs _ _ _ count segments (isFinite_rounded _ hoffset) hus hvs
        hcount, ?_⟩
      rw [← commaSeparated_singleton (digits segments)] at htext4
      have hall := (spells_numberText c1Offset hoffset).comma _ _ _ _ (List.cons_ne_nil _ _)
        (htext2.comma _ _ _ _ (List.cons_ne_nil _ _)
          (htext3.comma _ _ _ _ (List.cons_ne_nil _ _) htext4))
      simp only [List.append_assoc, List.cons_append]
      exact hall

theorem isName_kind (s : Statement Float) : isName s.kind.toList = true := by
  cases s <;> simp only [Statement.kind] <;> decide

theorem isName_method (m : Method) : isName m.name.toList = true := by
  cases m <;> simp only [Method.name] <;> decide

/-- A statement is printed as it is read. -/
theorem spells_statementText (s : Statement Float) (h : s.Storable) (hvalid : s.Valid) :
    ∃ ts, IsStatement ts (s.map rounded) ∧ Spells (statementText s) ts := by
  rcases spells_arguments s h hvalid with ⟨ts, hts, htext⟩
  have hclose := htext.thenMark _ _ _ _ .parenClose spells_nil (by decide)
  have hcall := (spells_word s.kind (isName_kind s)).thenMark _ _ _ _ .parenOpen hclose (by decide)
  refine ⟨_, .call ts _ hts, ?_⟩
  rw [Statement.kind_map, statementText]
  simp only [List.append_assoc, List.cons_append]
  exact hcall.mark .dot _ _

-- By induction on the statements. What follows the lines is kept general, since a statement's
-- line is spelled only together with what the next line begins with.
theorem spells_statementLines (ss : List (Statement Float))
    (h : ∀ s ∈ ss, s.Storable) (hvalid : ∀ s ∈ ss, s.Valid) :
    ∃ ts, IsStatements ts (ss.map (Statement.map rounded)) ∧
      ∀ cs us, Spells cs us → Spells ((ss.map fun s => "    ".toList ++ statementText s).flatMap
        (· ++ ['\n']) ++ cs) (ts ++ us) := by
  induction ss with
  | nil => exact ⟨[], .nil, fun cs us hcs => hcs⟩
  | cons s ss ih =>
      rw [List.forall_mem_cons] at h hvalid
      rcases ih h.2 hvalid.2 with ⟨us, hus, htexts⟩
      rcases spells_statementText s h.1 hvalid.1 with ⟨ts, hts, htext⟩
      refine ⟨ts ++ us, .cons ts us _ _ hts hus, ?_⟩
      intro cs vs hcs
      have hline := htext.thenLine _ _ _ _ (htexts cs vs hcs)
      have hindented := (((hline.blank ' ' _ _ (by decide)).blank ' ' _ _ (by decide)).blank ' ' _ _
        (by decide)).blank ' ' _ _ (by decide)
      rw [List.map_cons, List.flatMap_cons]
      -- The statement's text must not be unfolded with the lines around it.
      generalize statementText s = text at hindented
      simp only [List.append_assoc]
      exact hindented

/-- The line that opens a phase, in front of its statements. -/
theorem spells_opening (name : String) (duration : List Char) (x : Float) (cs : List Char)
    (us : List Token) (hname : isName name.toList = true) (hduration : Spells duration [.number x])
    (hcs : Spells cs us) :
    Spells ("  .".toList ++ name.toList ++ '(' :: duration ++ ", e => e".toList ++ ['\n'] ++ cs)
      (.mark .dot :: .name name :: .mark .parenOpen :: .number x :: .mark .comma :: .name "e"
        :: .mark .equals :: .mark .greater :: .name "e" :: us) := by
  have hindent : "  .".toList = [' ', ' ', '.'] := by decide
  have harrow : ", e => e".toList
      = ',' :: ' ' :: ("e".toList ++ ' ' :: '=' :: '>' :: ' ' :: "e".toList) := by decide
  -- The line is built from its end: each piece goes in front of what is spelled already.
  have hecho := ((spells_word "e" (by decide)).thenLine _ _ _ _ hcs).blank ' ' _ _ (by decide)
  have hplaceholder := (spells_word "e" (by decide)).thenSpace _ _ _ _
    ((hecho.mark .greater _ _).mark .equals _ _)
  have harguments := hduration.thenMark _ _ _ _ .comma (hplaceholder.blank ' ' _ _ (by decide))
    (by decide)
  have hcall := (spells_word name hname).thenMark _ _ _ _ .parenOpen harguments (by decide)
  rewrite [hindent, harrow]
  simp only [List.append_assoc, List.cons_append, List.nil_append]
  exact ((hcall.mark .dot _ _).blank ' ' _ _ (by decide)).blank ' ' _ _ (by decide)

theorem spells_closing (cs : List Char) (us : List Token) (hcs : Spells cs us) :
    Spells ("  )".toList ++ ['\n'] ++ cs) (.mark .parenClose :: us) := by
  have htext : "  )".toList = [' ', ' ', ')'] := by decide
  rewrite [htext]
  exact (((hcs.blank '\n' _ _ (by decide)).mark .parenClose _ _).blank ' ' _ _ (by decide)).blank
    ' ' _ _ (by decide)

theorem spells_lastClosing (cs : List Char) (us : List Token) (hcs : Spells cs us) :
    Spells ("  );".toList ++ ['\n'] ++ cs) (.mark .parenClose :: .mark .semicolon :: us) := by
  have htext : "  );".toList = [' ', ' ', ')', ';'] := by decide
  rewrite [htext]
  exact ((((hcs.blank '\n' _ _ (by decide)).mark .semicolon _ _).mark .parenClose _ _).blank ' ' _ _
    (by decide)).blank ' ' _ _ (by decide)

/-- The lines of a phase are its tokens, and after the last phase a semicolon. -/
theorem spells_phaseLines (p : Phase Float) (h : p.Storable) (hvalid : Program.PhaseValid p) :
    ∃ ts, IsPhase ts p.rounded ∧ ∀ cs us, Spells cs us →
      Spells ((phaseLines p false).flatMap (· ++ ['\n']) ++ cs) (ts ++ us) ∧
      Spells ((phaseLines p true).flatMap (· ++ ['\n']) ++ cs) (ts ++ .mark .semicolon :: us) := by
  have hword := (isFinite_iff _).mp h.finite
  have hnonneg : 0 ≤ value p.duration := (zero_le_value_iff _ hword).mpr hvalid.1
  have hduration := spells_durationText p.duration h.finite hnonneg
  rcases spells_statementLines p.statements h.statements hvalid.2 with ⟨body, hbody, hlines⟩
  refine ⟨_, .call p.method (unsigned p.duration) "e" body _ (isFinite_unsigned _ h.finite)
    (by rw [value_unsigned _ hword hnonneg]; exact hnonneg) hbody, ?_⟩
  intro cs us hcs
  -- The last phase and the others differ in the line that closes them.
  have hlast := hlines _ _ (spells_lastClosing cs us hcs)
  have hinner := hlines _ _ (spells_closing cs us hcs)
  have hopening := fun cs us => spells_opening p.method.name _ _ cs us
    (isName_method p.method) hduration
  simp only [phaseLines, List.flatMap_cons, List.flatMap_append, List.flatMap_nil,
    List.append_assoc, List.cons_append, List.nil_append, List.append_nil, if_true,
    Bool.false_eq_true, if_false] at hlast hinner hopening ⊢
  exact ⟨hopening _ _ hinner, hopening _ _ hlast⟩

/-- The lines of several phases are their tokens and one semicolon. -/
theorem spells_phasesLines (p : Phase Float) (ps : List (Phase Float))
    (h : ∀ q ∈ p :: ps, q.Storable) (hvalid : ∀ q ∈ p :: ps, Program.PhaseValid q) :
    ∃ ts, IsPhases ts ((p :: ps).map Phase.rounded) ∧
      Spells ((phasesLines (p :: ps)).flatMap (· ++ ['\n'])) (ts ++ [.mark .semicolon]) := by
  -- The first phase is kept apart, since the printer tells the last one by what follows it.
  induction ps generalizing p with
  | nil =>
      rw [List.forall_mem_cons] at h hvalid
      rcases spells_phaseLines p h.1 hvalid.1 with ⟨ts, hts, htext⟩
      have hlast := (htext [] [] spells_nil).2
      rw [List.append_nil] at hlast
      have hrow := IsPhases.cons ts [] _ _ hts .nil
      rw [List.append_nil] at hrow
      exact ⟨ts, hrow, hlast⟩
  | cons q ps ih =>
      rw [List.forall_mem_cons] at h hvalid
      rcases spells_phaseLines p h.1 hvalid.1 with ⟨ts, hts, htext⟩
      rcases ih q h.2 hvalid.2 with ⟨us, hus, htexts⟩
      refine ⟨ts ++ us, .cons ts us _ _ hts hus, ?_⟩
      have hlines : phasesLines (p :: q :: ps) = phaseLines p false ++ phasesLines (q :: ps) := rfl
      rw [hlines, List.flatMap_append, List.append_assoc]
      exact (htext _ _ htexts).1

theorem spells_header (cs : List Char) (us : List Token) (hcs : Spells cs us) :
    Spells ("new".toList ++ ' ' :: ("MoverBuilder".toList ++ '(' :: ')' :: cs))
      (.name "new" :: .name "MoverBuilder" :: .mark .parenOpen :: .mark .parenClose :: us) := by
  have hcall := (spells_word "MoverBuilder" (by decide)).thenMark _ _ _ _ .parenOpen
    (hcs.mark .parenClose _ _) (by decide)
  exact (spells_word "new" (by decide)).thenSpace _ _ _ _ hcall

/-- The lines of a program with phases: its header, and behind that the lines of the phases. -/
theorem printChars_cons (p : Phase Float) (ps : List (Phase Float)) :
    printChars ⟨p :: ps⟩ = "new".toList ++ ' ' :: ("MoverBuilder".toList ++ '(' :: ')' ::
      '\n' :: (phasesLines (p :: ps)).flatMap (· ++ ['\n'])) := by
  have hheader : "new MoverBuilder()".toList
      = "new".toList ++ ' ' :: ("MoverBuilder".toList ++ ['(', ')']) := by decide
  unfold printChars programLines
  rewrite [List.isEmpty_cons, if_neg Bool.false_ne_true, List.flatMap_cons, hheader]
  simp only [List.append_assoc, List.cons_append, List.nil_append]

/-- The text of a program has the tokens of what it keeps of the program, and a semicolon. -/
theorem tokensOf_printChars (p : Program Float) (h : p.Storable) (hvalid : p.Valid) :
    ∃ front, IsProgram front p.rounded ∧
      tokensOf (printChars p) = front ++ [.mark .semicolon] := by
  rcases p with ⟨phases⟩
  cases phases with
  | nil =>
      have hend : Spells [';', '\n'] [.mark .semicolon] :=
        (spells_nil.blank '\n' _ _ (by decide)).mark .semicolon _ _
      have htext : printChars ⟨[]⟩
          = "new".toList ++ ' ' :: ("MoverBuilder".toList ++ '(' :: ')' :: [';', '\n']) := by decide
      refine ⟨_, .call [] [] .nil, ?_⟩
      rw [htext]
      exact (spells_header _ _ hend).tokensOf_eq
  | cons p ps =>
      rcases spells_phasesLines p ps h hvalid with ⟨ts, hts, hlines⟩
      refine ⟨_, .call ts _ hts, ?_⟩
      rw [printChars_cons]
      exact (spells_header _ _ (hlines.blank '\n' _ _ (by decide))).tokensOf_eq

end Script

end PlanarMotion
