import PlanarMotion.Proofs.Build.Pieces
import PlanarMotion.Scalar.Double

/-!
# Phases Leave No Seams

Where one phase ends and the next one begins is a matter of timing. Three loops go through the
statements of a program: one builds the legs, and starts a builder of its own for each phase; one
lists the handles, with another such builder; and one could draw all statements with a single
builder and take no notice of phases. Nothing tells them apart, since a statement sees nothing of
a builder but its cursor, and the cursor is what one phase hands to the next.

So pieces and handles depend on the statements alone, in the order in which they stand, and a
program may be cut into phases anywhere. What moves is the addresses of handles. They count
statements from the start of a phase, and behind a cut they count from the cut.

None of this is about numbers, and it holds for those that overflow or are not numbers at all.
Statements that turn to an infinite angle are refused by all loops alike.

## Main definitions

* `Program.statements`, `Program.statementsBefore`: The statements of all phases.
* `Program.pieces`: The pieces of all legs of the compiled mover.
* `Program.replay`: A single builder that draws all statements.
* `Handle.moved`: A handle with another address.
* `Address.cut`: Where an address is when a phase is cut in two.

## Theorems

* `PathBuilder.drawAll_eq`: A builder goes on like a new one at its cursor.
* `phasesCursor_eq`, `pieces_phaseLegs`, `drawableFrom_eq`: Phases are drawn like their
  statements.
* `Statement.moved_handles`: Only the address of a handle depends on where its statement stands.
* `unplaced_phaseHandles`: The handles of phases are those of their statements.
* `Site.statementsBefore_fill`: The statements in front of one.
* `handles_cut`: The handles of a program that is cut anew.
* `seamless_phases`: All of it for the phases of a program.
-/

namespace PlanarMotion

variable {α : Type} [Scalar α]

namespace PathBuilder

/-- A statement sees nothing of a builder but its cursor. -/
theorem draw_eq (b : PathBuilder α) (s : Statement α) :
    b.draw s = ⟨((ofCursor b.cursor).draw s).cursor,
      b.pieces ++ ((ofCursor b.cursor).draw s).pieces⟩ := by
  cases s with
  | start point => exact congrArg (PathBuilder.mk _) (List.append_nil _).symm
  | line stop => rfl
  | lineContinue length => rfl
  | arc center angle => rfl
  | arcContinue radius angle => rfl
  | bezier c1 c2 stop segments => rfl
  | bezierContinue c1Offset c2 stop segments => rfl

/-- A builder that has drawn something goes on like a new one at its cursor. -/
theorem drawAll_eq (b : PathBuilder α) (ss : List (Statement α)) :
    b.drawAll ss = ⟨((ofCursor b.cursor).drawAll ss).cursor,
      b.pieces ++ ((ofCursor b.cursor).drawAll ss).pieces⟩ := by
  induction ss generalizing b with
  | nil => exact congrArg (PathBuilder.mk _) (List.append_nil _).symm
  | cons s ss ih =>
      have hfirst : ∀ c : PathBuilder α, c.drawAll (s :: ss) = (c.draw s).drawAll ss :=
        fun _ => rfl
      -- Both builders are at the same cursor behind the first statement.
      rw [hfirst, hfirst, ih (b.draw s), ih ((ofCursor b.cursor).draw s), b.draw_eq s,
        List.append_assoc]

/-- Whether statements are refused depends on the cursor they start at. -/
theorem definesAll_eq (b : PathBuilder α) (ss : List (Statement α)) :
    b.definesAll ss = (ofCursor b.cursor).definesAll ss := by
  induction ss generalizing b with
  | nil => rfl
  | cons s ss ih =>
      -- A statement is refused for an angle, which it counts from the cursor.
      have hdefines : b.defines s = (ofCursor b.cursor).defines s := by
        cases s <;> rfl
      rw [definesAll, definesAll, hdefines, ih (b.draw s), ih ((ofCursor b.cursor).draw s),
        b.draw_eq s]

end PathBuilder

section Phases

open PathBuilder

/-- The cursor behind phases is the one behind their statements. -/
theorem phasesCursor_eq (cursor : Pose α) (ps : List (Phase α)) :
    phasesCursor cursor ps = ((ofCursor cursor).drawAll (ps.flatMap (·.statements))).cursor := by
  induction ps generalizing cursor with
  | nil => rfl
  | cons p ps ih =>
      have hfirst : phasesCursor cursor (p :: ps)
          = phasesCursor ((ofCursor cursor).drawAll p.statements).cursor ps := rfl
      -- The phase behind starts with nothing drawn, which makes no difference to its cursor.
      rw [hfirst, ih, List.flatMap_cons, drawAll_append,
        drawAll_eq ((ofCursor cursor).drawAll p.statements)]

/-- The legs of phases have the pieces of their statements. -/
theorem pieces_phaseLegs (cursor : Pose α) (ps : List (Phase α)) :
    (phaseLegs cursor ps).flatMap (fun l => l.path.pieces)
      = ((ofCursor cursor).drawAll (ps.flatMap (·.statements))).pieces := by
  induction ps generalizing cursor with
  | nil => rfl
  | cons p ps ih =>
      rw [phaseLegs, List.flatMap_cons, ih, List.flatMap_cons, drawAll_append,
        drawAll_eq ((ofCursor cursor).drawAll p.statements)]
      rfl

/-- Phases are refused like their statements. -/
theorem drawableFrom_eq (cursor : Pose α) (ps : List (Phase α)) :
    Program.drawableFrom cursor ps
      = (ofCursor cursor).definesAll (ps.flatMap (·.statements)) := by
  induction ps generalizing cursor with
  | nil => rfl
  | cons p ps ih =>
      rw [Program.drawableFrom, ih, List.flatMap_cons, definesAll_append,
        definesAll_eq ((ofCursor cursor).drawAll p.statements)]

end Phases

namespace Program

/-- The statements of all phases, in order. -/
def statements {α : Type} (p : Program α) : List (Statement α) :=
  p.phases.flatMap (·.statements)

/-- The statements in front of the one at an address, in its own phase and in those before. -/
def statementsBefore {α : Type} (p : Program α) (a : Address) : List (Statement α) :=
  (p.phases.take a.phase.toNat).flatMap (·.statements) ++
    ((elementAt? p.phases a.phase).map fun ph => ph.statements.take a.statement.toNat).getD []

/-- The pieces of all legs of the compiled mover, in order. -/
def pieces (p : Program α) : List (Path α) :=
  p.compile.parts.flatMap fun
    | .leg l => l.path.pieces
    | .sequence _ => []

/-- A single builder that starts where programs do and draws statements of several phases. -/
def replay (ss : List (Statement α)) : PathBuilder α :=
  (PathBuilder.ofCursor Pose.origin).drawAll ss

theorem pieces_eq (p : Program α) : p.pieces = (replay p.statements).pieces := by
  rw [pieces, p.parts_compile, List.flatMap_map, replay, statements, ← pieces_phaseLegs]

theorem drawable_eq (p : Program α) :
    p.drawable = (PathBuilder.ofCursor Pose.origin).definesAll p.statements := by
  rw [drawable, drawableFrom_eq, statements]

end Program

namespace Site

omit [Scalar α] in
/-- In front of a site are the statements of the phases in front and those of its own phase. -/
theorem statementsBefore_fill (site : Site α) (s : Statement α) (argument : Int) :
    (site.fill s).statementsBefore (site.address argument)
      = site.front.flatMap (·.statements) ++ site.before := by
  have hphases : (site.fill s).phases.take site.front.length = site.front := by
    rw [fill, List.take_left]
  have hphase : elementAt? (site.fill s).phases site.front.length = some (site.phase s) :=
    elementAt?_middle site.front site.back (site.phase s)
  have hstatements : (site.phase s).statements.take site.before.length = site.before := by
    rw [phase, List.take_left]
  simp only [Program.statementsBefore, address, Int.toNat_natCast, hphases, hphase,
    Option.map_some, hstatements, Option.getD_some]

/-- The cursor that a statement finds is the one of a single builder. -/
theorem cursor_eq (site : Site α) :
    site.cursor = (Program.replay (site.front.flatMap (·.statements) ++ site.before)).cursor := by
  rw [cursor, opening, phasesCursor_eq, Program.replay, PathBuilder.drawAll_append,
    PathBuilder.drawAll_eq ((PathBuilder.ofCursor Pose.origin).drawAll _)]

end Site

/-- A handle with another address. -/
def Handle.moved {α : Type} (g : Address → Address) (h : Handle α) : Handle α :=
  { h with address := g h.address }

/-- A handle without the indices of its phase and its statement. -/
def Handle.unplaced {α : Type} (h : Handle α) : Handle α :=
  h.moved fun a => ⟨0, 0, a.argument⟩

/-- Where an address is when a phase is cut in two behind a number of its statements: those behind
    the cut make a phase of their own, and the phases behind it come one later. -/
def Address.cut (phase count : Nat) (a : Address) : Address :=
  if a.phase = phase ∧ count ≤ a.statement then
    ⟨a.phase + 1, a.statement - count, a.argument⟩
  else if phase < a.phase then ⟨a.phase + 1, a.statement, a.argument⟩
  else a

namespace Address

variable (phase count : Nat) (other statement argument : Int)

theorem cut_of_before (h : other < phase ∨ other = phase ∧ statement < count) :
    cut phase count ⟨other, statement, argument⟩ = ⟨other, statement, argument⟩ := by
  unfold cut
  simp only []
  rw [if_neg (by omega), if_neg (by omega)]

theorem cut_of_behind (h : count ≤ statement) :
    cut phase count ⟨phase, statement, argument⟩ = ⟨phase + 1, statement - count, argument⟩ := by
  unfold cut
  rw [if_pos ⟨rfl, h⟩]

theorem cut_of_later (h : phase < other) :
    cut phase count ⟨other, statement, argument⟩ = ⟨other + 1, statement, argument⟩ := by
  unfold cut
  simp only []
  rw [if_neg (by omega), if_pos h]

end Address

section Handles

variable {β : Type} (g : Address → Address)

/-- Only the address of a handle depends on where its statement stands. -/
theorem Statement.moved_handles (s : Statement α) (cursor : Pose α)
    (phase phase' index index' : Int)
    (h : ∀ argument, g ⟨phase, index, argument⟩ = ⟨phase', index', argument⟩) :
    (s.handles cursor ⟨phase, index, 0⟩).map (Handle.moved g)
      = s.handles cursor ⟨phase', index', 0⟩ := by
  cases s <;> simp only [handles, Handle.moved, List.map_cons, List.map_nil, h]

/-- Handles that are mapped alike statement by statement are mapped alike, behind any two builders
    at one cursor. -/
theorem map_statementHandles (f f' : Handle α → β) (phase phase' index index' : Nat)
    (b c : PathBuilder α) (ss : List (Statement α)) (hcursor : b.cursor = c.cursor)
    (h : ∀ i < ss.length, ∀ (s : Statement α) (cursor : Pose α),
      (s.handles cursor ⟨phase, (index + i : Nat), 0⟩).map f
        = (s.handles cursor ⟨phase', (index' + i : Nat), 0⟩).map f') :
    (statementHandles phase index b ss).map f = (statementHandles phase' index' c ss).map f' := by
  induction ss generalizing index index' b c with
  | nil => rfl
  | cons s ss ih =>
      have hown := h 0 (Nat.zero_lt_succ _) s c.cursor
      -- Behind one statement both builders are at one cursor again.
      have hnext : (b.draw s).cursor = (c.draw s).cursor := by
        rw [b.draw_eq s, c.draw_eq s, hcursor]
      have hrest : ∀ i < ss.length, ∀ (s : Statement α) (cursor : Pose α),
          (s.handles cursor ⟨phase, (index + 1 + i : Nat), 0⟩).map f
            = (s.handles cursor ⟨phase', (index' + 1 + i : Nat), 0⟩).map f' := by
        intro i hi
        rw [Nat.add_assoc, Nat.add_assoc, Nat.add_comm 1]
        exact h (i + 1) (Nat.succ_lt_succ hi)
      rw [Nat.add_zero, Nat.add_zero] at hown
      rw [statementHandles, statementHandles, List.map_append, List.map_append, hcursor, hown,
        ih _ _ _ _ hnext hrest]

/-- Statements that stand elsewhere have the same handles at other addresses. -/
theorem moved_statementHandles (phase phase' index index' : Nat) (b c : PathBuilder α)
    (ss : List (Statement α)) (hcursor : b.cursor = c.cursor)
    (h : ∀ i < ss.length, ∀ argument,
      g ⟨phase, (index + i : Nat), argument⟩ = ⟨phase', (index' + i : Nat), argument⟩) :
    (statementHandles phase index b ss).map (Handle.moved g)
      = statementHandles phase' index' c ss := by
  -- On the other side nothing is mapped.
  have hmap := map_statementHandles (Handle.moved g) id phase phase' index index' b c ss hcursor
    fun i hi s cursor => by
      rw [s.moved_handles g cursor _ _ _ _ (h i hi), List.map_id]
  rw [hmap, List.map_id]

/-- So have phases. -/
theorem moved_phaseHandles (index index' : Nat) (cursor : Pose α) (ps : List (Phase α))
    (h : ∀ i < ps.length, ∀ (statement : Nat) (argument : Int),
      g ⟨(index + i : Nat), statement, argument⟩ = ⟨(index' + i : Nat), statement, argument⟩) :
    (phaseHandles index cursor ps).map (Handle.moved g) = phaseHandles index' cursor ps := by
  induction ps generalizing index index' cursor with
  | nil => rfl
  | cons p ps ih =>
      have hown := h 0 (Nat.zero_lt_succ _)
      have hrest : ∀ i < ps.length, ∀ (statement : Nat) (argument : Int),
          g ⟨(index + 1 + i : Nat), statement, argument⟩
            = ⟨(index' + 1 + i : Nat), statement, argument⟩ := by
        intro i hi
        rw [Nat.add_assoc, Nat.add_assoc, Nat.add_comm 1]
        exact h (i + 1) (Nat.succ_lt_succ hi)
      rw [Nat.add_zero, Nat.add_zero] at hown
      rw [phaseHandles, phaseHandles, List.map_append,
        moved_statementHandles g index index' 0 0 _ _ _ rfl fun i _ => hown _,
        ih _ _ _ hrest]

/-- Up to indices, statements have the same handles behind any two builders at one cursor. -/
theorem unplaced_statementHandles (phase phase' index index' : Nat) (b c : PathBuilder α)
    (ss : List (Statement α)) (hcursor : b.cursor = c.cursor) :
    (statementHandles phase index b ss).map Handle.unplaced
      = (statementHandles phase' index' c ss).map Handle.unplaced := by
  have hown : ∀ (s : Statement α) (cursor : Pose α) (phase index : Int),
      (s.handles cursor ⟨phase, index, 0⟩).map Handle.unplaced = s.handles cursor ⟨0, 0, 0⟩ :=
    fun s cursor phase index =>
      s.moved_handles (fun a => ⟨0, 0, a.argument⟩) cursor phase 0 index 0 fun _ => rfl
  exact map_statementHandles _ _ _ _ _ _ _ _ _ hcursor fun i _ s cursor => by rw [hown, hown]

/-- Up to indices, the handles of phases are those of their statements behind a single builder. -/
theorem unplaced_phaseHandles (index : Nat) (cursor : Pose α) (ps : List (Phase α)) :
    (phaseHandles index cursor ps).map Handle.unplaced
      = (statementHandles 0 0 (PathBuilder.ofCursor cursor)
          (ps.flatMap (·.statements))).map Handle.unplaced := by
  induction ps generalizing index cursor with
  | nil => rfl
  | cons p ps ih =>
      -- The statements behind start at the cursor that the first phase leaves, in a phase of their
      -- own or in the same.
      let b := PathBuilder.ofCursor cursor
      have hown := unplaced_statementHandles index 0 0 0 b b p.statements rfl
      have hrest := unplaced_statementHandles 0 0 0 (0 + p.statements.length)
        (PathBuilder.ofCursor (b.drawAll p.statements).cursor) (b.drawAll p.statements)
        (ps.flatMap (·.statements)) rfl
      rw [phaseHandles, List.flatMap_cons, statementHandles_append, List.map_append,
        List.map_append, ih, hown, hrest]

end Handles

/-- The handles of a program in which a phase is cut in two. The cut may be at either end of the
    phase, and the new phases may take any time under any method. -/
theorem handles_cut (front back : List (Phase α)) (whole first second : Phase α)
    (h : whole.statements = first.statements ++ second.statements) :
    (Program.mk (front ++ first :: second :: back)).handles
      = (Program.mk (front ++ whole :: back)).handles.map
          (Handle.moved (Address.cut front.length first.statements.length)) := by
  let cut := Address.cut front.length first.statements.length
  -- In front of the cut addresses stay, and behind it they are counted anew.
  have hfront : (phaseHandles 0 Pose.origin front).map (Handle.moved cut)
      = phaseHandles 0 Pose.origin front :=
    moved_phaseHandles cut 0 0 _ front fun i hi statement argument =>
      Address.cut_of_before _ _ _ _ _ (Or.inl (by omega))
  have hfirst : ∀ b : PathBuilder α,
      (statementHandles front.length 0 b first.statements).map (Handle.moved cut)
        = statementHandles front.length 0 b first.statements := fun b =>
    moved_statementHandles cut _ _ 0 0 b b _ rfl fun i hi argument =>
      Address.cut_of_before _ _ _ _ _ (Or.inr ⟨rfl, by omega⟩)
  have hsecond : ∀ b : PathBuilder α,
      (statementHandles front.length first.statements.length b second.statements).map
          (Handle.moved cut)
        = statementHandles (front.length + 1) 0 (PathBuilder.ofCursor b.cursor)
            second.statements := by
    intro b
    refine moved_statementHandles cut _ _ _ 0 b _ _ rfl fun i hi argument => ?_
    refine (Address.cut_of_behind _ _ _ _ (by omega)).trans ?_
    rw [Address.mk.injEq]
    exact ⟨by omega, by omega, rfl⟩
  have hback : ∀ cursor : Pose α,
      (phaseHandles (front.length + 1) cursor back).map (Handle.moved cut)
        = phaseHandles (front.length + 1 + 1) cursor back := by
    intro cursor
    refine moved_phaseHandles cut _ _ cursor back fun i hi statement argument => ?_
    refine (Address.cut_of_later _ _ _ _ _ (by omega)).trans ?_
    rw [Address.mk.injEq]
    exact ⟨by omega, by omega, rfl⟩
  let b := PathBuilder.ofCursor (phasesCursor Pose.origin front)
  -- The two halves together leave the cursor that the whole phase leaves.
  have hcursor : (b.drawAll whole.statements).cursor = ((PathBuilder.ofCursor
      (b.drawAll first.statements).cursor).drawAll second.statements).cursor := by
    rw [h, PathBuilder.drawAll_append, PathBuilder.drawAll_eq (b.drawAll first.statements)]
  have hwhole : (statementHandles front.length 0 b whole.statements).map (Handle.moved cut)
      = statementHandles front.length 0 b first.statements ++ statementHandles (front.length + 1) 0
          (PathBuilder.ofCursor (b.drawAll first.statements).cursor) second.statements := by
    rw [h, statementHandles_append, List.map_append, hfirst, Nat.zero_add, hsecond]
  rw [Program.handles, Program.handles, phaseHandles_append, phaseHandles_append, Nat.zero_add,
    phaseHandles, phaseHandles, phaseHandles, List.map_append, List.map_append, hfront, hwhole,
    hcursor, hback, List.append_assoc]

/-- Phases leave no seams. A program is refused, or drawn, or given handles as if its statements
    were drawn by a single builder: its pieces are the ones of that builder, and the handles of each
    statement are made at the cursor that the builder has in front of it. So programs with the same
    statements have the same pieces, and the same handles up to indices. If a phase is cut in two,
    or two phases are joined, then a handle is found again where the cut takes its address. -/
theorem seamless_phases (p : Program α) :
    p.drawable = (PathBuilder.ofCursor Pose.origin).definesAll p.statements ∧
    p.pieces = (Program.replay p.statements).pieces ∧
    (∀ (a : Address) (s : Statement α), p.statementAt? a = some s →
      let cursor := (Program.replay (p.statementsBefore a)).cursor
      p.cursorAt? a = some cursor ∧ p.handlesAt a = s.handles cursor { a with argument := 0 }) ∧
    (∀ q : Program α, q.statements = p.statements →
      q.drawable = p.drawable ∧ q.pieces = p.pieces ∧
        q.handles.map Handle.unplaced = p.handles.map Handle.unplaced) ∧
    ∀ (front back : List (Phase α)) (whole first second : Phase α),
      p.phases = front ++ whole :: back →
      whole.statements = first.statements ++ second.statements →
      let q : Program α := ⟨front ++ first :: second :: back⟩
      q.drawable = p.drawable ∧ q.pieces = p.pieces ∧
        q.handles
          = p.handles.map (Handle.moved (Address.cut front.length first.statements.length)) := by
  -- Both are told from the statements alone.
  have hsame : ∀ q : Program α, q.statements = p.statements →
      q.drawable = p.drawable ∧ q.pieces = p.pieces := by
    intro q hq
    rw [q.drawable_eq, p.drawable_eq, q.pieces_eq, p.pieces_eq, hq]
    exact ⟨rfl, rfl⟩
  refine ⟨p.drawable_eq, p.pieces_eq, ?_, ?_, ?_⟩
  · intro a s hs
    rcases exists_site_of_statementAt? p a s hs with ⟨site, argument, rfl, rfl⟩
    rw [site.statementsBefore_fill, ← site.cursor_eq]
    exact ⟨site.cursorAt?_fill s argument, site.handlesAt_fill s argument⟩
  · intro q hq
    refine ⟨(hsame q hq).1, (hsame q hq).2, ?_⟩
    rw [Program.handles, Program.handles, unplaced_phaseHandles, unplaced_phaseHandles]
    exact congrArg (fun ss => (statementHandles 0 0 _ ss).map Handle.unplaced) hq
  · intro front back whole first second hphases hwhole q
    -- Cutting a phase leaves the statements in their order.
    have hstatements : q.statements = p.statements := by
      rw [Program.statements, Program.statements, hphases, List.flatMap_append,
        List.flatMap_append, List.flatMap_cons, List.flatMap_cons, List.flatMap_cons, hwhole,
        List.append_assoc]
    have hp : p = ⟨front ++ whole :: back⟩ := congrArg Program.mk hphases
    refine ⟨(hsame q hstatements).1, (hsame q hstatements).2, ?_⟩
    rw [hp]
    exact handles_cut front back whole first second hwhole

/-- A line and a turn in one phase, or in two, in front of a line straight on. -/
theorem seamless_phases_lineAndTurn :
    let p : Program Float := ⟨[⟨.uniform, 1, [.line ⟨1, 2⟩, .arcContinue 2 1]⟩,
      ⟨.wait, 3, [.lineContinue 4]⟩]⟩
    let q : Program Float := ⟨[⟨.sine, 2, [.line ⟨1, 2⟩]⟩, ⟨.cosine, 5, [.arcContinue 2 1]⟩,
      ⟨.wait, 3, [.lineContinue 4]⟩]⟩
    p.statementAt? ⟨1, 0, 0⟩ = some (.lineContinue 4) ∧
      p.handlesAt ⟨1, 0, 0⟩ = (Statement.lineContinue 4).handles
        (Program.replay [.line ⟨1, 2⟩, .arcContinue 2 1]).cursor ⟨1, 0, 0⟩ ∧
      q.statements = p.statements ∧ q.pieces = p.pieces ∧
      q.handles = p.handles.map (Handle.moved (Address.cut 0 1)) := by
  intro p q
  rcases seamless_phases p with ⟨-, -, hstatement, hregrouped, hcut⟩
  exact ⟨rfl, (hstatement ⟨1, 0, 0⟩ _ rfl).2, rfl, (hregrouped q rfl).2.1,
    (hcut [] _ _ _ _ rfl rfl).2.2⟩

end PlanarMotion
