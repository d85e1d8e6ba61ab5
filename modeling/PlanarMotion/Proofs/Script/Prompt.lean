import PlanarMotion.Proofs.Script.Acceptance

/-!
# Readers That Decide at Once

A reader looks at one token at a time and never goes back. It should also not put off a decision:
a token behind which no answer can follow should be refused when it is seen, whatever comes behind
it. Then a rejection depends on nothing behind the first token that does not fit.

`Settles` says of a place in a row of tokens that the rejection is settled there, in one of two
ways. As a rule the next token, or the end, is refused with a cause of its own. There is one token
that is not: the name of no kind of statement, where a statement should begin. The reader takes it
for a name, goes on to the parenthesis, and only then looks for the kind. So two causes are
possible, and the token behind the name decides between them.

`Prompt` says of a reader that each of its rejections is settled at a place up to which an answer
could still have followed. It is kept by sequencing, provided that what follows can be satisfied.
That is not so of a condition on its own, such as the one that a number is finite, since no tokens
behind the number can mend it. So conditions are joined to the token they are about, and a token
with its conditions is one step: `TakesOne`.

## Main definitions

* `Begins`: A row of tokens up to a place, and how it goes on there.
* `IsKind`, `lateCause`: The names of the kinds of statements, and what is said of another name.
* `Settles`, `Detects`: Where a rejection is settled.
* `TakesOne`, `TakesNone`: Readers that look at one token, or at none.
* `Prompt`: A reader whose rejections are settled as soon as no answer can follow.

## Theorems

* `Begins.take_eq`, `Begins.getElem?_eq`: A row begins in one way up to each place.
* `Begins.head?_eq`: Rows that begin alike begin with the same token.
* `detects_end`, `detects_first`: Rejections of the end and of the first token.
* `Settles.lift`, `Detects.lift`: What is settled for a part is settled for the whole.
* `Prompt.bind`: Sequencing keeps promptness.
* `prompt_takeNumber`, `prompt_takeVector`, `prompt_arguments`: The readers of arguments are prompt.
-/

namespace PlanarMotion

namespace Script

/-- A row of tokens begins with some and goes on with a token, or with its end. -/
def Begins (front : List Token) : Option Token → List Token → Prop
  | some t, tokens => ∃ rest, tokens = front ++ t :: rest
  | none, tokens => tokens = front

/-- What is in front of a row belongs to its front. -/
theorem Begins.append {front tokens : List Token} {next : Option Token}
    (h : Begins front next tokens) (taken : List Token) :
    Begins (taken ++ front) next (taken ++ tokens) := by
  cases next with
  | none => exact congrArg (taken ++ ·) h
  | some t =>
      rcases h with ⟨rest, rfl⟩
      exact ⟨rest, (List.append_assoc _ _ _).symm⟩

/-- A row begins with each part of its front. -/
theorem Begins.exists_append {front tokens taken : List Token} {next : Option Token}
    (h : Begins (taken ++ front) next tokens) :
    ∃ rest, tokens = taken ++ rest ∧ Begins front next rest := by
  cases next with
  | none => exact ⟨front, h, rfl⟩
  | some t =>
      rcases h with ⟨rest, rfl⟩
      exact ⟨front ++ t :: rest, List.append_assoc _ _ _, rest, rfl⟩

/-- The row says what it begins with. -/
theorem Begins.take_eq {front tokens : List Token} {next : Option Token}
    (h : Begins front next tokens) : tokens.take front.length = front := by
  cases next with
  | none => rw [show tokens = front from h, List.take_length]
  | some t =>
      rcases h with ⟨rest, rfl⟩
      exact List.take_left

/-- It also says how it goes on. -/
theorem Begins.getElem?_eq {front tokens : List Token} {next : Option Token}
    (h : Begins front next tokens) : tokens[front.length]? = next := by
  cases next with
  | none => rw [show tokens = front from h, List.getElem?_length]
  | some t =>
      rcases h with ⟨rest, rfl⟩
      rw [List.getElem?_append_right (Nat.le_refl _), Nat.sub_self, List.getElem?_cons_zero]

/-- Rows that begin alike begin with the same token, if they have any. -/
theorem Begins.head?_eq {front tokens : List Token} {next : Option Token}
    (h : Begins front next tokens) : tokens.head? = front.head?.or next := by
  cases next with
  | none => rw [show tokens = front from h, Option.or_none]
  | some t =>
      rcases h with ⟨rest, rfl⟩
      cases front with
      | nil => rfl
      | cons u us => rfl

/-- The names of the kinds of statements. -/
def IsKind (name : String) : Prop :=
  ∃ s : Statement Float, s.kind = name

/-- What is said of a name that is of no kind: it is unknown, if arguments follow. -/
def lateCause (name : String) (rest : List Token) : Rejection :=
  if rest.head? = some (.mark .parenOpen) then .unknownMethod name else .mark .parenOpen

/-- The rejection of rows that begin in some way is settled by how they begin. The second argument
    says which tokens can be followed by an answer. -/
inductive Settles {γ : Type} (run : List Token → Except Rejection γ) (opens : List Token → Prop)
    (front : List Token) : Option Token → Prop where
  /-- All of them have the same cause. -/
  | atOnce (next : Option Token) (cause : Rejection)
      (h : ∀ tokens, Begins front next tokens → run tokens = .error cause) :
      Settles run opens front next
  /-- Any kind of statement could follow, and a name that is of no kind does. -/
  | late (name : String) (hname : ¬ IsKind name)
      (hkinds : ∀ s : Statement Float, opens (front ++ [.name s.kind]))
      (h : ∀ rest, run (front ++ .name name :: rest) = .error (lateCause name rest)) :
      Settles run opens front (some (.name name))

/-- A row goes wrong at a place up to which an answer could have followed, and there its rejection
    is settled. -/
def Detects {γ : Type} (run : List Token → Except Rejection γ) (opens : List Token → Prop)
    (tokens : List Token) : Prop :=
  ∃ front next, Begins front next tokens ∧ opens front ∧ Settles run opens front next

/-- The end is refused. -/
theorem detects_end {γ : Type} {run : List Token → Except Rejection γ} {opens : List Token → Prop}
    (hopens : opens []) (cause : Rejection) (h : run [] = .error cause) :
    Detects run opens [] := by
  refine ⟨[], none, rfl, hopens, .atOnce none cause fun tokens hbegins => ?_⟩
  rw [show tokens = [] from hbegins, h]

/-- The first token is refused, whatever follows. -/
theorem detects_first {γ : Type} {run : List Token → Except Rejection γ}
    {opens : List Token → Prop} (hopens : opens []) (t : Token) (ts : List Token)
    (cause : Rejection) (h : ∀ rest, run (t :: rest) = .error cause) :
    Detects run opens (t :: ts) := by
  refine ⟨[], some t, ⟨ts, rfl⟩, hopens, .atOnce (some t) cause fun tokens hbegins => ?_⟩
  rcases hbegins with ⟨rest, rfl⟩
  exact h rest

section Lift

variable {γ δ : Type} {run : List Token → Except Rejection γ} {opens : List Token → Prop}
    {run' : List Token → Except Rejection δ} {opens' : List Token → Prop} (taken : List Token)
    (hopens : ∀ front, opens front → opens' (taken ++ front))

include hopens

/-- What is settled for a part is settled for the whole, if the whole hands on rejections of rows
    that begin so. -/
theorem Settles.lift {front : List Token} {next : Option Token} (h : Settles run opens front next)
    (hrun : ∀ tokens cause, Begins front next tokens → run tokens = .error cause →
      run' (taken ++ tokens) = .error cause) :
    Settles run' opens' (taken ++ front) next := by
  cases h with
  | atOnce _ cause h =>
      refine .atOnce _ cause fun tokens hbegins => ?_
      rcases hbegins.exists_append with ⟨rest, rfl, hrest⟩
      exact hrun rest cause hrest (h rest hrest)
  | late name hname hkinds h =>
      refine .late name hname (fun s => ?_) fun rest => ?_
      · rw [List.append_assoc]
        exact hopens _ (hkinds s)
      · rw [List.append_assoc]
        exact hrun _ _ ⟨rest, rfl⟩ (h rest)

/-- Likewise for the place where a row goes wrong. -/
theorem Detects.lift {tokens : List Token} (h : Detects run opens tokens)
    (hrun : ∀ front next, Begins front next tokens → ∀ us cause, Begins front next us →
      run us = .error cause → run' (taken ++ us) = .error cause) :
    Detects run' opens' (taken ++ tokens) := by
  rcases h with ⟨front, next, hbegins, hfront, hsettles⟩
  exact ⟨taken ++ front, next, hbegins.append taken, hopens front hfront,
    hsettles.lift taken hopens (hrun front next hbegins)⟩

end Lift

theorem bind_of_ok {β γ : Type} {r : Reader β} {f : β → Reader γ} {tokens rest : List Token}
    {b : β} (h : r tokens = .ok (b, rest)) : (r >>= f) tokens = f b rest := by
  simp only [bind, StateT.bind, Except.bind, h]

theorem bind_of_error {β γ : Type} {r : Reader β} {f : β → Reader γ} {tokens : List Token}
    {cause : Rejection} (h : r tokens = .error cause) : (r >>= f) tokens = .error cause := by
  simp only [bind, StateT.bind, Except.bind, h]

/-- An answer depends on the tokens that are taken for it, and on no others. -/
def Takes {β : Type} (r : Reader β) : Prop :=
  ∀ tokens b rest, r tokens = .ok (b, rest) →
    ∃ taken, tokens = taken ++ rest ∧ ∀ more, r (taken ++ more) = .ok (b, more)

/-- Some tokens can be followed by others with which a reader answers and leaves nothing. -/
def Completes {β : Type} (r : Reader β) (front : List Token) : Prop :=
  ∃ more b, r (front ++ more) = .ok (b, [])

/-- A reader whose rejections are settled as soon as no answer can follow. -/
structure Prompt {β : Type} (r : Reader β) : Prop where
  /-- Its answers depend on the tokens they take. -/
  takes : Takes r
  /-- It has an answer. -/
  answers : Completes r []
  /-- Its rejections are settled where no answer can follow any more. -/
  detects : ∀ tokens cause, r tokens = .error cause → Detects r (Completes r) tokens

/-- What a reader can answer. -/
def Answers {β : Type} (r : Reader β) (b : β) : Prop :=
  ∃ tokens rest, r tokens = .ok (b, rest)

/-- Readers in a row take the tokens that each of them takes. -/
theorem Takes.bind {β γ : Type} {r : Reader β} {f : β → Reader γ} (hr : Takes r)
    (hf : ∀ b, Answers r b → Takes (f b)) : Takes (r >>= f) := by
  intro tokens c rest h
  rcases bind_eq_ok h with ⟨b, middle, hb, hc⟩
  rcases hr tokens b middle hb with ⟨taken, rfl, htaken⟩
  rcases hf b ⟨_, _, hb⟩ middle c rest hc with ⟨taken', rfl, htaken'⟩
  refine ⟨taken ++ taken', (List.append_assoc _ _ _).symm, fun more => ?_⟩
  rw [List.append_assoc, bind_of_ok (htaken _)]
  exact htaken' more

theorem takes_pure {β : Type} (b : β) : Takes (pure b : Reader β) := by
  intro tokens c rest h
  rcases (pure_eq_ok_iff b c tokens rest).mp h with ⟨rfl, rfl⟩
  exact ⟨[], rfl, fun more => rfl⟩

theorem prompt_pure {β : Type} (b : β) : Prompt (pure b : Reader β) where
  takes := takes_pure b
  answers := ⟨[], b, rfl⟩
  detects := by
    intro tokens cause h
    cases h

/-- What completes the first of two readers can be followed by an answer of the second. -/
theorem Completes.bind {β γ : Type} {r : Reader β} {f : β → Reader γ} (hr : Takes r)
    (hf : ∀ b, Answers r b → Completes (f b) [])
    {front : List Token} (h : Completes r front) : Completes (r >>= f) front := by
  rcases h with ⟨more, b, hb⟩
  rcases hf b ⟨_, _, hb⟩ with ⟨us, c, hc⟩
  rcases hr _ b [] hb with ⟨taken, htaken, hall⟩
  -- First what completes the one, and then an answer of the other.
  refine ⟨more ++ us, c, ?_⟩
  rw [List.append_nil] at htaken
  rw [← List.append_assoc, htaken, bind_of_ok (hall us)]
  exact hc

/-- Sequencing keeps promptness, if every answer can be followed by one. -/
theorem Prompt.bind {β γ : Type} {r : Reader β} {f : β → Reader γ} (hr : Prompt r)
    (hf : ∀ b, Answers r b → Prompt (f b)) : Prompt (r >>= f) := by
  have hcompletes : ∀ front, Completes r front → Completes (r >>= f) front :=
    fun front => Completes.bind hr.takes fun b hb => (hf b hb).answers
  refine ⟨hr.takes.bind fun b hb => (hf b hb).takes, hcompletes [] hr.answers,
    fun tokens cause h => ?_⟩
  -- The rejection comes from the first reader, or from the second behind what the first one took.
  cases hfirst : r tokens with
  | error cause' =>
      exact (hr.detects tokens cause' hfirst).lift [] hcompletes
        fun _ _ _ us cause'' _ hus => bind_of_error hus
  | ok answer =>
      rcases answer with ⟨b, rest⟩
      rw [bind_of_ok hfirst] at h
      rcases hr.takes tokens b rest hfirst with ⟨taken, rfl, htaken⟩
      -- The tokens taken by the first reader stay in front of what the second one is given.
      refine ((hf b ⟨_, _, hfirst⟩).detects rest cause h).lift taken ?_ ?_
      · rintro front ⟨more, c, hc⟩
        exact ⟨more, c, by rw [List.append_assoc, bind_of_ok (htaken _), hc]⟩
      · intro _ _ _ us cause' _ hus
        rw [bind_of_ok (htaken us), hus]

/-- A reader that takes no token, and so answers or not whatever there is to read. -/
def TakesNone {β : Type} (r : Reader β) : Prop :=
  (∃ b, ∀ tokens, r tokens = .ok (b, tokens)) ∨ ∃ cause, ∀ tokens, r tokens = .error cause

/-- A reader that takes one token, which decides whether it answers. -/
structure TakesOne {β : Type} (r : Reader β) : Prop where
  /-- It refuses the end. -/
  refuses_end : ∃ cause, r [] = .error cause
  /-- It takes a token or refuses it. -/
  decides : ∀ t, (∃ b, ∀ rest, r (t :: rest) = .ok (b, rest)) ∨
    ∃ cause, ∀ rest, r (t :: rest) = .error cause

theorem takesNone_pure {β : Type} (b : β) : TakesNone (pure b : Reader β) :=
  Or.inl ⟨b, fun _ => rfl⟩

theorem takesNone_require (condition : Bool) (cause : Rejection) :
    TakesNone (require condition cause) := by
  cases condition with
  | true => exact Or.inl ⟨(), fun _ => rfl⟩
  | false => exact Or.inr ⟨cause, fun _ => rfl⟩

theorem takesNone_requireSome {β : Type} (value : Option β) (cause : Rejection) :
    TakesNone (requireSome value cause) := by
  cases value with
  | some b => exact Or.inl ⟨b, fun _ => rfl⟩
  | none => exact Or.inr ⟨cause, fun _ => rfl⟩

theorem TakesNone.bind {β γ : Type} {r : Reader β} {f : β → Reader γ} (hr : TakesNone r)
    (hf : ∀ b, TakesNone (f b)) : TakesNone (r >>= f) := by
  rcases hr with ⟨b, hb⟩ | ⟨cause, hcause⟩
  · rcases hf b with ⟨c, hc⟩ | ⟨cause, hcause⟩
    · exact Or.inl ⟨c, fun tokens => (bind_of_ok (hb tokens)).trans (hc tokens)⟩
    · exact Or.inr ⟨cause, fun tokens => (bind_of_ok (hb tokens)).trans (hcause tokens)⟩
  · exact Or.inr ⟨cause, fun tokens => bind_of_error (hcause tokens)⟩

theorem takesOne_takeToken {β : Type} (wanted : Token → Option β) (cause : Rejection) :
    TakesOne (takeToken wanted cause) := by
  refine ⟨⟨cause, rfl⟩, fun t => ?_⟩
  cases hwanted : wanted t with
  | some b => exact Or.inl ⟨b, fun rest => by simp only [takeToken, hwanted]⟩
  | none => exact Or.inr ⟨cause, fun rest => by simp only [takeToken, hwanted]⟩

/-- A token and a condition on it are one step. -/
theorem TakesOne.bind {β γ : Type} {r : Reader β} {f : β → Reader γ} (hr : TakesOne r)
    (hf : ∀ b, TakesNone (f b)) : TakesOne (r >>= f) := by
  rcases hr with ⟨⟨cause, hend⟩, hdecides⟩
  refine ⟨⟨cause, bind_of_error hend⟩, fun t => ?_⟩
  rcases hdecides t with ⟨b, hb⟩ | ⟨cause, hcause⟩
  · rcases hf b with ⟨c, hc⟩ | ⟨cause, hcause⟩
    · exact Or.inl ⟨c, fun rest => (bind_of_ok (hb rest)).trans (hc rest)⟩
    · exact Or.inr ⟨cause, fun rest => (bind_of_ok (hb rest)).trans (hcause rest)⟩
  · exact Or.inr ⟨cause, fun rest => bind_of_error (hcause rest)⟩

/-- What such a reader takes is the one token. -/
theorem TakesOne.takes {β : Type} {r : Reader β} (h : TakesOne r) : Takes r := by
  intro tokens b rest hb
  cases tokens with
  | nil =>
      rcases h.refuses_end with ⟨cause, hcause⟩
      rw [hcause] at hb
      cases hb
  | cons t ts =>
      rcases h.decides t with ⟨b', hb'⟩ | ⟨cause, hcause⟩
      · rw [hb' ts] at hb
        cases hb
        exact ⟨[t], rfl, hb'⟩
      · rw [hcause ts] at hb
        cases hb

/-- A step is prompt if there is a token that it takes. -/
theorem TakesOne.prompt {β : Type} {r : Reader β} (h : TakesOne r) (t : Token) (b : β)
    (ht : r [t] = .ok (b, [])) : Prompt r where
  takes := h.takes
  answers := ⟨[t], b, ht⟩
  detects := by
    intro tokens cause hcause
    have hopens : Completes r [] := ⟨[t], b, ht⟩
    cases tokens with
    | nil => exact detects_end hopens cause hcause
    -- The first token decides, so a refused one offends whatever follows.
    | cons u us =>
        rcases h.decides u with ⟨c, hc⟩ | ⟨cause', hcause'⟩
        · rw [hc us] at hcause
          cases hcause
        · exact detects_first hopens u us cause' hcause'

/-- A reader whose rejections name a role. -/
def named {β : Type} (role : String) (r : Reader β) : Reader β := fun tokens =>
  (r tokens).mapError (.within role)

theorem named_of_ok {β : Type} {role : String} {r : Reader β} {tokens rest : List Token} {b : β}
    (h : r tokens = .ok (b, rest)) : named role r tokens = .ok (b, rest) := by
  rw [named, h]
  rfl

theorem named_of_error {β : Type} {role : String} {r : Reader β} {tokens : List Token}
    {cause : Rejection} (h : r tokens = .error cause) :
    named role r tokens = .error (.within role cause) := by
  rw [named, h]
  rfl

/-- Readers in a row name a role if each of them does. -/
theorem named_bind {β γ : Type} (role : String) (r : Reader β) (f : β → Reader γ) :
    named role (r >>= f) = named role r >>= fun b => named role (f b) := by
  funext tokens
  cases h : r tokens with
  | error cause => rw [named_of_error (bind_of_error h), bind_of_error (named_of_error h)]
  | ok answer =>
      rcases answer with ⟨b, rest⟩
      rw [bind_of_ok (named_of_ok h), named, bind_of_ok h]
      rfl

theorem named_pure {β : Type} (role : String) (b : β) :
    named role (pure b : Reader β) = pure b :=
  rfl

/-- Naming a role changes causes only. -/
theorem TakesOne.named {β : Type} {r : Reader β} (h : TakesOne r) (role : String) :
    TakesOne (named role r) := by
  rcases h with ⟨⟨cause, hend⟩, hdecides⟩
  refine ⟨⟨_, named_of_error hend⟩, fun t => ?_⟩
  rcases hdecides t with ⟨b, hb⟩ | ⟨cause, hcause⟩
  · exact Or.inl ⟨b, fun rest => named_of_ok (hb rest)⟩
  · exact Or.inr ⟨_, fun rest => named_of_error (hcause rest)⟩

theorem takesOne_takeNumber (role : NumberRole) : TakesOne (takeNumber role) :=
  (takesOne_takeToken _ _).bind fun _ => (takesNone_require _ _).bind fun _ => takesNone_pure _

theorem prompt_expectMark (m : Mark) : Prompt (expectMark m) := by
  refine (takesOne_takeToken _ _).prompt (.mark m) () ?_
  simp only [takeToken, if_true]

theorem prompt_expectWord (w : String) (cause : Rejection) : Prompt (expectWord w cause) := by
  refine (takesOne_takeToken _ _).prompt (.name w) () ?_
  simp only [takeToken, if_true]

theorem prompt_takeName (cause : Rejection) : Prompt (takeName cause) :=
  (takesOne_takeToken _ _).prompt (.name "e") "e" rfl

-- One is finite, and it is a number of chords.
theorem takeNumber_one (role : NumberRole) :
    takeNumber role [.number 1.0] = .ok (1.0, []) := by
  rw [← bind_pure (takeNumber role), takeNumber_bind]
  exact ⟨1.0, [], rfl, by decide, rfl⟩

/-- A number is taken promptly, for one is a number in every role. -/
theorem prompt_takeNumber (role : NumberRole) : Prompt (takeNumber role) :=
  (takesOne_takeNumber role).prompt _ _ (takeNumber_one role)

theorem isCount_one : IsCount 1.0 1 := by
  have hfinite : (1.0 : Float).isFinite = true := by decide
  exact ⟨hfinite, (wholeSegments?_eq_some_iff 1.0 1 hfinite).mp (by decide +kernel)⟩

theorem prompt_takeSegments (owner : String) : Prompt (takeSegments owner) := by
  have hone : takeSegments owner [.number 1.0] = .ok (1, []) := by
    rw [← bind_pure (takeSegments owner), takeSegments_bind]
    exact ⟨1.0, 1, [], rfl, isCount_one, rfl⟩
  exact ((takesOne_takeNumber _).bind fun _ => takesNone_requireSome _ _).prompt _ _ hone

/-- Within a vector each step names the role of the vector. -/
theorem prompt_takeVector (role : String) : Prompt (takeVector role) := by
  have hword := fun w cause => ((takesOne_takeToken (fun t => if t = .name w then some () else none)
    cause).named role).prompt (.name w) () (named_of_ok (by simp only [takeToken, if_true]))
  have hmark := fun m => ((takesOne_takeToken (fun t => if t = .mark m then some () else none)
    (.mark m)).named role).prompt (.mark m) () (named_of_ok (by simp only [takeToken, if_true]))
  have hnumber := fun r => ((takesOne_takeNumber r).named role).prompt _ _
    (named_of_ok (takeNumber_one r))
  have hbody : takeVector role = named role vectorBody := rfl
  rw [hbody, vectorBody]
  -- The role is pushed down to the single steps, which take one token each.
  simp only [named_bind, named_pure]
  exact (hword _ _).bind fun _ _ => (hword _ _).bind fun _ _ => (hmark _).bind fun _ _ =>
    (hnumber _).bind fun _ _ => (hmark _).bind fun _ _ => (hnumber _).bind fun _ _ =>
    (hmark _).bind fun _ _ => prompt_pure _

/-- The arguments of every kind of statement are read promptly. -/
theorem prompt_arguments (s : Statement Float) : Prompt (arguments s.kind) := by
  have mark := fun m => prompt_expectMark m
  have number := fun role => prompt_takeNumber role
  have vector := fun role => prompt_takeVector role
  have segments := fun owner => prompt_takeSegments owner
  -- Kind by kind, along the steps of its form.
  cases s with
  | start _ => exact (vector _).bind fun _ _ => prompt_pure _
  | line _ => exact (vector _).bind fun _ _ => prompt_pure _
  | lineContinue _ => exact (number _).bind fun _ _ => prompt_pure _
  | arc _ _ =>
      exact (vector _).bind fun _ _ => (mark _).bind fun _ _ => (number _).bind fun _ _ =>
        prompt_pure _
  | arcContinue _ _ =>
      exact (number _).bind fun _ _ => (mark _).bind fun _ _ => (number _).bind fun _ _ =>
        prompt_pure _
  | bezier _ _ _ _ =>
      exact (vector _).bind fun _ _ => (mark _).bind fun _ _ => (vector _).bind fun _ _ =>
        (mark _).bind fun _ _ => (vector _).bind fun _ _ => (mark _).bind fun _ _ =>
        (segments _).bind fun _ _ => prompt_pure _
  | bezierContinue _ _ _ _ =>
      exact (number _).bind fun _ _ => (mark _).bind fun _ _ => (vector _).bind fun _ _ =>
        (mark _).bind fun _ _ => (vector _).bind fun _ _ => (mark _).bind fun _ _ =>
        (segments _).bind fun _ _ => prompt_pure _

end Script

end PlanarMotion
