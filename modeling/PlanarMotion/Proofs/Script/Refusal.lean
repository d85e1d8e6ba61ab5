import PlanarMotion.Proofs.Script.RoundTrip

/-!
# Programs That Are Not Read Back

The printer has a text for every number, also for those that are not finite, and the reader
has no number for these texts. It refuses a program that has such a literal anywhere, although
everything in front of the literal is read.

The argument goes along the text as the reader does. `Requires` says of a reader and a text
what must hold if the reader takes that text, and that it takes no more than that. It is passed
on from one reader to the next, so a literal is reached through everything in front of it.
For the readers that recurse, the same is said of rows of lines by induction on the row.

Together with the round trip this decides which programs are read back. Numbers that are
written as counts or as durations are taken for granted here: an edit changes none.

## Main definitions

* `Requires`: What must hold if a reader takes a text.

## Theorems

* `requires_takeNumber`: A number is taken only if it is finite.
* `requires_arguments`, `requires_statement`: So the literals of a statement are finite.
* `finite_of_read_print`: And those of a program that is read back.
-/

namespace PlanarMotion

namespace Script

open PlanarMotion.Number PlanarMotion.Text

/-- A reader that takes a text, whatever ends it, takes no more than that, and a condition
    holds. -/
def Requires {β : Type} (r : Reader β) (cs : List Char) (P : Prop) : Prop :=
  ∀ rest b tail, Ends rest → r (tokensOf (cs ++ rest)) = .ok (b, tail) → P ∧ tail = tokensOf rest

theorem Requires.imp {β : Type} {r : Reader β} {cs : List Char} {P Q : Prop}
    (h : Requires r cs P) (himp : P → Q) : Requires r cs Q := by
  intro rest b tail hrest htaken
  have hboth := h rest b tail hrest htaken
  exact ⟨himp hboth.1, hboth.2⟩

/-- One reader behind another, on texts of which the second ends the first. -/
theorem Requires.bind {β γ : Type} {r : Reader β} {f : β → Reader γ} {cs ds : List Char}
    {P Q : Prop} (hr : Requires r cs P) (hf : ∀ b, Requires (f b) ds Q) (hends : Ends ds) :
    Requires (r >>= f) (cs ++ ds) (P ∧ Q) := by
  intro rest c tail hrest htaken
  rw [List.append_assoc] at htaken
  rcases bind_eq_ok htaken with ⟨b, middle, hb, hc⟩
  rcases hr (ds ++ rest) b middle (hends.append _ _ hrest) hb with ⟨hP, rfl⟩
  rcases hf b rest c tail hrest hc with ⟨hQ, htail⟩
  exact ⟨⟨hP, hQ⟩, htail⟩

/-- A mark in front needs nothing of what follows it. -/
theorem Requires.mark {γ : Type} (m : Mark) {f : Unit → Reader γ} {cs : List Char} {P : Prop}
    (hf : Requires (f ()) cs P) : Requires (expectMark m >>= f) (m.char :: cs) P := by
  intro rest c tail hrest htaken
  rw [List.cons_append, tokensOf_mark, expectMark_bind] at htaken
  rcases htaken with ⟨us, hus, hc⟩
  rw [← (List.cons.inj hus).2] at hc
  exact hf rest c tail hrest hc

theorem Requires.space {β : Type} {r : Reader β} {cs : List Char} {P : Prop}
    (h : Requires r cs P) : Requires r (' ' :: cs) P := by
  intro rest b tail hrest htaken
  rw [List.cons_append, tokensOf_blank ' ' _ (by decide)] at htaken
  exact h rest b tail hrest htaken

/-- A word in front needs to be ended by what follows it. -/
theorem Requires.word {γ : Type} (w : String) (cause : Rejection) {f : Unit → Reader γ}
    {cs : List Char} {P : Prop} (hf : Requires (f ()) cs P) (hw : isName w.toList = true)
    (hends : Ends cs) : Requires (expectWord w cause >>= f) (w.toList ++ cs) P := by
  intro rest c tail hrest htaken
  rw [List.append_assoc, spells_word w hw _ (hends.append _ _ hrest), List.singleton_append,
    expectWord_bind] at htaken
  rcases htaken with ⟨us, hus, hc⟩
  rw [← (List.cons.inj hus).2] at hc
  exact hf rest c tail hrest hc

/-- So does a name, which the reader behind it is told. -/
theorem Requires.name {γ : Type} (w : String) (cause : Rejection) {f : String → Reader γ}
    {cs : List Char} {P : Prop} (hf : Requires (f w) cs P) (hw : isName w.toList = true)
    (hends : Ends cs) : Requires (takeName cause >>= f) (w.toList ++ cs) P := by
  intro rest c tail hrest htaken
  rw [List.append_assoc, spells_word w hw _ (hends.append _ _ hrest), List.singleton_append,
    takeName_bind] at htaken
  rcases htaken with ⟨v, us, hus, hc⟩
  rcases List.cons.inj hus with ⟨hname, htail⟩
  rw [← htail, ← Token.name.inj hname] at hc
  exact hf rest c tail hrest hc

theorem requires_pure {β : Type} (b : β) : Requires (pure b : Reader β) [] True := by
  intro rest c tail _ htaken
  exact ⟨trivial, ((pure_eq_ok_iff b c _ _).mp htaken).2.symm⟩

/-- The texts of the numbers that are not finite. -/
theorem numberText_of_not_finite (x : Float) (h : x.isFinite = false) :
    numberText x = "nanf".toList ∨ numberText x = "inff".toList ∨
      numberText x = "-inff".toList := by
  have hword : ¬ magnitudeWord x < infinityWord := by
    rw [← isFinite_iff, h]
    exact Bool.false_ne_true
  have hmagnitude : (Binary64.ofFloat x).magnitude = .infinite ∨
      (Binary64.ofFloat x).magnitude = .nan := by
    rw [ofFloat_eq, magnitudeOfWord, if_neg hword]
    by_cases hinfinite : magnitudeWord x = infinityWord
    · exact Or.inl (if_pos hinfinite)
    · exact Or.inr (if_neg hinfinite)
  unfold numberText fixed
  rcases hmagnitude with hmagnitude | hmagnitude
  · right
    simp only [hmagnitude]
    cases (Binary64.ofFloat x).negative with
    | false => exact Or.inl (by decide)
    | true => exact Or.inr (by decide)
  · left
    simp only [hmagnitude]
    decide

/-- They do not begin with a number: two are names, and a sign without digits is nothing. -/
theorem tokensOf_numberText_ne (x : Float) (h : x.isFinite = false) (rest : List Char) (y : Float)
    (ts : List Token) : tokensOf (numberText x ++ rest) ≠ .number y :: ts := by
  have hname : ∀ (c : Char) (cs : List Char), isBlank c = false → startsNumeral c = false →
      startsName c = true → tokensOf (c :: cs) ≠ .number y :: ts := by
    intro c cs hblank hnumeral hstart
    have hread : Token.read? (c :: cs) = some (.name (String.ofList (c :: cs.takeWhile
        continuesName)), cs.dropWhile continuesName) := by
      rw [Token.read?, if_neg (Bool.eq_false_iff.mp hnumeral), if_pos hstart]
    rw [tokensOf_cons _ _ _ (next?_of_read? c cs _ _ hblank hread)]
    simp
  rcases numberText_of_not_finite x h with htext | htext | htext
  · rw [htext]
    exact hname 'n' _ (by decide) (by decide) (by decide)
  · rw [htext]
    exact hname 'i' _ (by decide) (by decide) (by decide)
  · have hletters : "-inff".toList = '-' :: 'i' :: "nff".toList := by decide
    have hdigit : isDigit 'i' = false := by decide
    -- The sign makes it a numeral, and the letter behind the sign is no digit.
    have hmantissa : ∀ cs, readMantissa? ('i' :: cs) = none := by
      intro cs
      simp [readMantissa?, hdigit]
    have hread : ∀ cs, Token.next? ('-' :: 'i' :: cs) = none := by
      intro cs
      have hblank : isBlank '-' = false := by decide
      have hsign : startsNumeral '-' = true := by decide
      rw [Token.next?, dropBlanks, List.dropWhile_cons_of_neg (Bool.eq_false_iff.mp hblank),
        Token.read?, if_pos hsign, Numeral.read?, readSign]
      simp only [hmantissa, Option.map_none]
    rw [htext, hletters, List.cons_append, List.cons_append, tokensOf, scan_of_none _ (hread _)]
    exact (List.cons_ne_nil _ _).symm

/-- A number is taken only if it is finite. -/
theorem requires_takeNumber (role : NumberRole) (x : Float) :
    Requires (takeNumber role) (numberText x) (x.isFinite = true) := by
  intro rest y tail hrest htaken
  rw [← bind_pure (takeNumber role)] at htaken
  rcases (takeNumber_bind role _ _ _ _).mp htaken with ⟨z, us, htokens, hz, hpure⟩
  cases hfinite : x.isFinite with
  | false => exact absurd htokens (tokensOf_numberText_ne x hfinite rest z us)
  | true =>
      rw [spells_numberText x hfinite rest hrest] at htokens
      refine ⟨rfl, ?_⟩
      rw [← ((pure_eq_ok_iff z y us tail).mp hpure).2, ← (List.cons.inj htokens).2]
      rfl

/-- A vector is taken only if both coordinates are finite. -/
theorem requires_takeVector (role : String) (v : Vec Float) :
    Requires (takeVector role) (vectorText v) (v.x.isFinite = true ∧ v.y.isFinite = true) := by
  -- Word for word and mark for mark, as the reader goes.
  have hchain : Requires vectorBody (vectorText v)
      (v.x.isFinite = true ∧ v.y.isFinite = true ∧ True) := by
    rw [vectorText_eq, vectorBody]
    refine Requires.word "new" _ (Requires.space ?_) (by decide) rfl
    refine Requires.word "Vector2" _ (Requires.mark .parenOpen ?_) (by decide) rfl
    refine (requires_takeNumber _ v.x).bind (fun x => Requires.mark .comma (Requires.space ?_)) rfl
    exact (requires_takeNumber _ v.y).bind
      (fun y => Requires.mark .parenClose (requires_pure _)) (by decide)
  have hbody : Requires vectorBody (vectorText v) (v.x.isFinite = true ∧ v.y.isFinite = true) :=
    hchain.imp fun h => ⟨h.1, h.2.1⟩
  intro rest w tail hrest htaken
  refine hbody rest w tail hrest ?_
  -- The role is only for the report.
  unfold takeVector Except.mapError at htaken
  split at htaken
  · cases htaken
  · rename_i answer hanswer
    rw [hanswer, htaken]

/-- A count that a double can be is taken whole. -/
theorem requires_takeSegments (owner : String) (n : Nat) (h : Representable n) (hpos : 1 ≤ n) :
    Requires (takeSegments owner) (digits n) True := by
  rcases spells_count n h hpos with ⟨x, -, hspells⟩
  intro rest m tail hrest htaken
  rw [← bind_pure (takeSegments owner), hspells rest hrest, List.singleton_append,
    takeSegments_bind] at htaken
  rcases htaken with ⟨y, k, us, hus, -, hpure⟩
  rw [(List.cons.inj hus).2]
  exact ⟨trivial, ((pure_eq_ok_iff _ _ _ _).mp hpure).2.symm⟩

/-- The last argument, which is followed by nothing but the answer. -/
theorem Requires.last {β γ : Type} {r : Reader β} {answer : β → γ} {part : List Char} {P : Prop}
    (hr : Requires r part P) :
    Requires (r >>= fun b => pure (answer b)) (commaSeparated [part]) P := by
  have hbound := hr.bind (fun b => requires_pure (answer b)) ends_nil
  rw [List.append_nil] at hbound
  rw [commaSeparated_singleton]
  exact hbound.imp And.left

/-- An argument in front of others. -/
theorem Requires.comma {β γ : Type} {r : Reader β} {f : β → Reader γ} {part next : List Char}
    {parts : List (List Char)} {P Q : Prop} (hr : Requires r part P)
    (hf : ∀ b, Requires (f b) (commaSeparated (next :: parts)) Q) :
    Requires (r >>= fun b => expectMark .comma >>= fun _ => f b)
      (commaSeparated (part :: next :: parts)) (P ∧ Q) := by
  rw [commaSeparated_cons]
  exact hr.bind (fun b => Requires.mark .comma (hf b).space) rfl

-- By cases on the statement: its reader is a row of readers for the parts of its text.
theorem requires_arguments (s : Statement Float) (hvalid : s.Valid)
    (hcounts : ∀ n ∈ s.segments?, Representable n) :
    Requires (arguments s.kind) (commaSeparated (argumentTexts s))
      (∀ x ∈ s.literals, x.isFinite = true) := by
  have hnumber := fun role x => requires_takeNumber role x
  have hvector := fun role v => requires_takeVector role v
  cases s with
  | start point =>
      refine ((hvector "Start" point).last).imp ?_
      simp only [Statement.literals, List.forall_mem_cons]
      exact fun h => ⟨h.1, h.2, List.forall_mem_nil _⟩
  | line stop =>
      refine ((hvector "Line" stop).last).imp ?_
      simp only [Statement.literals, List.forall_mem_cons]
      exact fun h => ⟨h.1, h.2, List.forall_mem_nil _⟩
  | lineContinue length =>
      refine ((hnumber (.argument "LineContinue") length).last).imp ?_
      exact fun h => List.forall_mem_singleton.mpr h
  | arc center angle =>
      refine ((hvector "Arc" center).comma fun v =>
        (hnumber (.argument "Arc") angle).last).imp ?_
      simp only [Statement.literals, List.forall_mem_cons]
      exact fun h => ⟨h.1.1, h.1.2, h.2, List.forall_mem_nil _⟩
  | arcContinue radius angle =>
      refine ((hnumber (.argument "ArcContinue") radius).comma fun v =>
        (hnumber (.argument "ArcContinue") angle).last).imp ?_
      simp only [Statement.literals, List.forall_mem_cons]
      exact fun h => ⟨h.1, h.2, List.forall_mem_nil _⟩
  | bezier c1 c2 stop segments =>
      have hcount := requires_takeSegments "Bezier" segments (hcounts segments rfl) hvalid
      refine ((hvector "Bezier c1" c1).comma fun v => (hvector "Bezier c2" c2).comma fun w =>
        (hvector "Bezier end" stop).comma fun z => hcount.last).imp ?_
      simp only [Statement.literals, List.forall_mem_cons]
      exact fun h => ⟨h.1.1, h.1.2, h.2.1.1, h.2.1.2, h.2.2.1.1, h.2.2.1.2, List.forall_mem_nil _⟩
  | bezierContinue c1Offset c2 stop segments =>
      have hcount := requires_takeSegments "BezierContinue" segments (hcounts segments rfl) hvalid
      refine ((hnumber (.argument "BezierContinue c1Offset") c1Offset).comma fun v =>
        (hvector "BezierContinue c2" c2).comma fun w =>
        (hvector "BezierContinue end" stop).comma fun z => hcount.last).imp ?_
      simp only [Statement.literals, List.forall_mem_cons]
      exact fun h => ⟨h.1, h.2.1.1, h.2.1.2, h.2.2.1.1, h.2.2.1.2, List.forall_mem_nil _⟩

theorem statementText_eq (s : Statement Float) : statementText s
    = '.' :: (s.kind.toList ++ '(' :: (commaSeparated (argumentTexts s) ++ [')'])) := by
  rw [statementText]
  simp only [List.append_assoc, List.cons_append]

/-- A statement is taken only if its literals are finite. -/
theorem requires_statement (s : Statement Float) (hvalid : s.Valid)
    (hcounts : ∀ n ∈ s.segments?, Representable n) :
    Requires statement (statementText s) (∀ x ∈ s.literals, x.isFinite = true) := by
  rw [statementText_eq, statement]
  refine Requires.mark .dot (Requires.name s.kind _ (Requires.mark .parenOpen ?_)
    (isName_kind s) rfl)
  exact ((requires_arguments s hvalid hcounts).bind
    (fun t => Requires.mark .parenClose (requires_pure t)) rfl).imp And.left

/-- The lines of statements, each indented. -/
def statementLines (ss : List (Statement Float)) : List Char :=
  (ss.map fun s => "    ".toList ++ statementText s).flatMap (· ++ ['\n'])

/-- The numbers of a program that no drag changes are those that a text can hold. -/
structure Framed (p : Phase Float) : Prop where
  /-- The duration is finite. -/
  finite : p.duration.isFinite = true
  /-- A double can be the count of chords. -/
  counts : ∀ s ∈ p.statements, ∀ n ∈ s.segments?, Representable n

-- By induction on the statements: the reader goes on behind each only if it took it.
theorem requires_statements (ss : List (Statement Float)) (hvalid : ∀ s ∈ ss, s.Valid)
    (hcounts : ∀ s ∈ ss, ∀ n ∈ s.segments?, Representable n) :
    Requires statements (statementLines ss ++ "  )".toList)
      (∀ s ∈ ss, ∀ x ∈ s.literals, x.isFinite = true) := by
  intro rest body tail hrest htaken
  induction ss generalizing body tail with
  | nil =>
      have htokens : tokensOf (statementLines [] ++ "  )".toList ++ rest)
          = .mark .parenClose :: tokensOf rest := by
        have htext : statementLines [] ++ "  )".toList = [' ', ' ', ')'] := by decide
        rw [htext, List.cons_append, List.cons_append, tokensOf_blank _ _ (by decide),
          tokensOf_blank _ _ (by decide)]
        exact tokensOf_mark .parenClose rest
      rw [htokens, statements, if_neg (List.cons_ne_nil _ _), if_pos List.head?_cons,
        Except.ok.injEq, Prod.mk.injEq, List.tail_cons] at htaken
      exact ⟨List.forall_mem_nil _, htaken.2.symm⟩
  | cons s ss ih =>
      rw [List.forall_mem_cons] at hvalid hcounts
      have htokens : tokensOf (statementLines (s :: ss) ++ "  )".toList ++ rest)
          = tokensOf (statementText s ++ '\n' :: (statementLines ss ++ "  )".toList ++ rest)) := by
        have hindent : "    ".toList = [' ', ' ', ' ', ' '] := by decide
        rw [statementLines, List.map_cons, List.flatMap_cons, hindent]
        simp only [List.append_assoc, List.cons_append, List.nil_append]
        rw [tokensOf_blank _ _ (by decide), tokensOf_blank _ _ (by decide),
          tokensOf_blank _ _ (by decide), tokensOf_blank _ _ (by decide)]
        rfl
      -- The row begins with a dot, so it is neither at its end nor at the mark that closes it.
      have hhead : ∃ us, tokensOf (statementText s ++ '\n' :: (statementLines ss ++ "  )".toList
          ++ rest)) = .mark .dot :: us := ⟨_, by rw [statementText_eq]; exact tokensOf_mark .dot _⟩
      rcases hhead with ⟨us, hus⟩
      rw [htokens, statements, if_neg (by rw [hus]; exact List.cons_ne_nil _ _),
        if_neg (by rw [hus, List.head?_cons, Option.some.injEq]; decide)] at htaken
      split at htaken
      · cases htaken
      · rename_i t middle hfirst
        have hends : Ends ('\n' :: (statementLines ss ++ "  )".toList ++ rest)) := rfl
        rcases requires_statement s hvalid.1 hcounts.1 _ t middle hends hfirst with ⟨hs, rfl⟩
        rw [tokensOf_blank _ _ (by decide)] at htaken
        -- This one was taken, so the others were read too.
        cases hmore : statements (tokensOf (statementLines ss ++ "  )".toList ++ rest)) with
        | error cause =>
            rw [hmore] at htaken
            cases htaken
        | ok answer =>
            rcases ih hvalid.2 hcounts.2 answer.1 answer.2 hmore with ⟨hss, htail⟩
            rw [hmore] at htaken
            cases htaken
            exact ⟨List.forall_mem_cons.mpr ⟨hs, hss⟩, htail⟩

/-- A phase up to the mark that closes it. -/
def phaseText (p : Phase Float) : List Char :=
  "  .".toList ++ p.method.name.toList ++ '(' :: durationText p.duration ++ ", e => e".toList
    ++ ['\n'] ++ (statementLines p.statements ++ "  )".toList)

theorem flatMap_phaseLines (p : Phase Float) (last : Bool) :
    (phaseLines p last).flatMap (· ++ ['\n'])
      = phaseText p ++ (if last then [';', '\n'] else ['\n']) := by
  cases last with
  | false =>
      simp only [phaseLines, phaseText, statementLines, List.flatMap_cons, List.flatMap_append,
        List.flatMap_nil, List.append_assoc, List.cons_append, List.nil_append, List.append_nil,
        Bool.false_eq_true, if_false]
  | true =>
      have hclose : "  );".toList = "  )".toList ++ [';'] := by decide
      simp only [phaseLines, phaseText, statementLines, List.flatMap_cons, List.flatMap_append,
        List.flatMap_nil, List.append_assoc, List.cons_append, List.nil_append, List.append_nil,
        if_true, hclose]

/-- So is a phase, whose duration can be read in any case. -/
theorem requires_phase (p : Phase Float) (hvalid : Program.PhaseValid p) (hframed : Framed p) :
    Requires phase (phaseText p) (∀ s ∈ p.statements, ∀ x ∈ s.literals, x.isFinite = true) := by
  intro rest q tail hrest htaken
  have hword := (isFinite_iff _).mp hframed.finite
  have hduration := spells_durationText p.duration hframed.finite
    ((zero_le_value_iff _ hword).mpr hvalid.1)
  have hopening := spells_opening p.method.name _ _ [] [] (isName_method p.method)
    hduration spells_nil
  have hends : Ends (statementLines p.statements ++ "  )".toList ++ rest) := by
    cases p.statements with
    | nil => rfl
    | cons s ss => rfl
  have htokens := hopening _ hends
  rw [List.append_nil, ← List.append_assoc] at htokens
  rw [phaseText, List.append_assoc, ← List.append_assoc, htokens] at htaken
  have hstatements := fun (f : List (Statement Float) → Reader (Phase Float)) =>
    bind_eq_ok_iff (statements : Reader _) f
  -- The opening is taken token by token, and the statements behind it as they require.
  unfold phase at htaken
  simp only [expectMark_bind, takeName_bind, requireSome_bind, takeNumber_bind, require_bind,
    hstatements, pure_eq_ok_iff, List.cons_append, List.nil_append] at htaken
  rcases htaken with ⟨_, h1, _, _, h2, _, -, _, h3, _, _, h4, -, -, _, h5, _, _, h6, _, h7, _, h8,
    _, _, h9, -, body, middle, hbody, -, rfl⟩
  cases h1
  cases h2
  cases h3
  cases h4
  cases h5
  cases h6
  cases h7
  cases h8
  cases h9
  exact requires_statements p.statements hvalid.2 hframed.counts rest body middle hrest hbody

/-- Behind a phase that is read others are, so the text can be followed phase by phase. -/
theorem finite_of_phase (p : Phase Float) (cs : List Char) (hends : Ends cs)
    (hvalid : Program.PhaseValid p) (hframed : Framed p) (qs : List (Phase Float))
    (h : phases (tokensOf (phaseText p ++ cs)) = .ok qs) :
    (∀ s ∈ p.statements, ∀ x ∈ s.literals, x.isFinite = true) ∧
      ∃ rest, phases (tokensOf cs) = .ok rest := by
  have hhead : ∃ us, tokensOf (phaseText p ++ cs) = .mark .dot :: us := by
    have hindent : "  .".toList = [' ', ' ', '.'] := by decide
    have htext : ∃ rest, phaseText p ++ cs = ' ' :: ' ' :: '.' :: rest := by
      rw [phaseText, hindent]
      simp only [List.append_assoc, List.cons_append, List.nil_append, List.cons.injEq, true_and,
        exists_eq']
    rcases htext with ⟨rest, htext⟩
    rw [htext, tokensOf_blank _ _ (by decide), tokensOf_blank _ _ (by decide)]
    exact ⟨_, tokensOf_mark .dot rest⟩
  rcases hhead with ⟨us, hus⟩
  have hgoes : ¬ (tokensOf (phaseText p ++ cs) = []
      ∨ (tokensOf (phaseText p ++ cs)).head? = some (.mark .semicolon)) := by
    rw [hus, List.head?_cons, Option.some.injEq]
    rintro (hnil | hsemicolon)
    · exact List.cons_ne_nil _ _ hnil
    · exact absurd hsemicolon (by decide)
  rcases hphase : phase (tokensOf (phaseText p ++ cs)) with cause | ⟨q, middle⟩
  · rw [phases_of_error _ cause hphase hgoes] at h
    cases h
  · rw [phases_of_ok _ middle q hphase] at h
    rcases requires_phase p hvalid hframed cs q middle hends hphase with ⟨hfinite, rfl⟩
    refine ⟨hfinite, ?_⟩
    cases hmore : phases (tokensOf cs) with
    | error cause =>
        rw [hmore] at h
        cases h
    | ok rest => exact ⟨rest, rfl⟩

-- By induction on the phases; behind the last one nothing needs to be known.
theorem finite_of_phases (ps : List (Phase Float)) (hvalid : ∀ p ∈ ps, Program.PhaseValid p)
    (hframed : ∀ p ∈ ps, Framed p) (qs : List (Phase Float))
    (h : phases (tokensOf ((phasesLines ps).flatMap (· ++ ['\n']))) = .ok qs) :
    ∀ p ∈ ps, ∀ s ∈ p.statements, ∀ x ∈ s.literals, x.isFinite = true := by
  induction ps generalizing qs with
  | nil => exact List.forall_mem_nil _
  | cons p ps ih =>
      rw [List.forall_mem_cons] at hvalid hframed ⊢
      cases ps with
      | nil =>
          have hends : Ends [';', '\n'] := rfl
          rw [phasesLines, flatMap_phaseLines, if_pos rfl] at h
          exact ⟨(finite_of_phase p _ hends hvalid.1 hframed.1 qs h).1, List.forall_mem_nil _⟩
      | cons q ps =>
          have hlines : phasesLines (p :: q :: ps) = phaseLines p false ++ phasesLines (q :: ps) :=
            rfl
          rw [hlines, List.flatMap_append, flatMap_phaseLines, if_neg Bool.false_ne_true,
            List.append_assoc, List.singleton_append] at h
          have hends : Ends ('\n' :: (phasesLines (q :: ps)).flatMap (· ++ ['\n'])) := rfl
          rcases finite_of_phase p _ hends hvalid.1 hframed.1 qs h with ⟨hp, rest, hrest⟩
          rw [tokensOf_blank _ _ (by decide)] at hrest
          exact ⟨hp, ih hvalid.2 hframed.2 rest hrest⟩

/-- The tokens of a printed program are its header and those of its phases. -/
theorem ofText_print (p : Phase Float) (ps : List (Phase Float)) :
    Token.ofText (print ⟨p :: ps⟩) = .name "new" :: .name "MoverBuilder" :: .mark .parenOpen
      :: .mark .parenClose :: tokensOf ((phasesLines (p :: ps)).flatMap (· ++ ['\n'])) := by
  have hends : Ends ('\n' :: (phasesLines (p :: ps)).flatMap (· ++ ['\n'])) := rfl
  rw [print, Token.ofText, String.toList_ofList, printChars_cons]
  refine (spells_header [] [] spells_nil _ hends).trans ?_
  rw [tokensOf_blank _ _ (by decide)]
  rfl

/-- The literals of a program that is read back are finite. -/
theorem finite_of_read_print (p q : Program Float) (hvalid : p.Valid)
    (hframed : ∀ phase ∈ p.phases, Framed phase) (h : read (print p) = .ok q) :
    ∀ phase ∈ p.phases, ∀ s ∈ phase.statements, ∀ x ∈ s.literals, x.isFinite = true := by
  rcases p with ⟨_ | ⟨phase, ps⟩⟩
  · exact List.forall_mem_nil _
  · -- Behind the header the phases are read.
    rw [read, readTokens, (header_eq_ok_iff _ _).mpr (ofText_print phase ps)] at h
    cases hphases : phases (tokensOf ((phasesLines (phase :: ps)).flatMap (· ++ ['\n']))) with
    | error cause =>
        simp only [hphases] at h
        cases h
    | ok qs => exact finite_of_phases (phase :: ps) hvalid hframed qs hphases

/-- A program that can be built is read back from its text exactly if the text can hold it. -/
theorem read_print_iff (p : Program Float) (hvalid : p.Valid)
    (hframed : ∀ phase ∈ p.phases, Framed phase) :
    (∃ q, read (print p) = .ok q) ↔ p.Storable := by
  constructor
  · rintro ⟨q, hq⟩ phase hphase
    have hliterals := finite_of_read_print p q hvalid hframed hq phase hphase
    exact ⟨(hframed phase hphase).finite, fun s hs => ⟨hliterals s hs,
      (hframed phase hphase).counts s hs⟩⟩
  · intro h
    exact ⟨p.rounded, read_print p hvalid h⟩

end Script

end PlanarMotion
