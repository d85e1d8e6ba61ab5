import PlanarMotion.Proofs.Path.Ends
import PlanarMotion.Proofs.Plane.Heading

/-!
# Who Answers in the End

A path passes a question on. A chain gives it to one of its children, and a polyline to one of its
chords, until a line or an arc is asked that knows the answer; only a polyline without length
answers itself, and a chain without length does not ask anyone. `Path.answerer?` follows a question
on its way. It goes by the index of the child that is asked, since children may be equal.

The answer is a pose, and its direction has length one over the real numbers, whoever gives it. The
exceptions are those that have no direction to give: a line without length, and a polyline without
length whose curve does not start in any direction either. What a chain rests at is not known to it;
a path that a builder has drawn rests at the cursor.

The argument is a lemma for each constructor. A path is built in one way, so there is no induction
on the tree.

## Main definitions

* `Chain.askedAt?`: The index of the child that answers for a distance.
* `Path.answerer?`: The leaf that answers in the end.
* `Path.Still`: A leaf without length, other than an arc.
* `Answered`: A pose is the one of the leaf that answers, and has a direction unless that is still.
* `Path.Directed`: All poses of a path are answered so.

## Theorems

* `Chain.answerer?_eq_bind`: The child that answers is the one with the index.
* `Chain.exists_askedAt?`: A chain with length asks one of its children.
* `Path.directed_line`, `Path.directed_arc`, `Path.directed_polyline`, `Path.directed_chain`:
  Paths are directed.
-/

namespace PlanarMotion

namespace Chain

variable {α : Type} [Scalar α] (c : Chain α)

/-- The index of the child that answers for a distance, and the distance to ask it for. -/
def askedAt? (t : α) : Option (Nat × α) :=
  if c.length == 0 then none
  else if t ≤ 0 then some (0, 0)
  else if c.length ≤ t then
    some (c.children.length - 1, (c.children.getLast?.map (·.length)).getD 0)
  else c.place? t

/-- The child that answers is the one with the index. -/
theorem answerer?_eq_bind (t : α) : c.answerer? t
    = (c.askedAt? t).bind fun asked => c.children[asked.1]?.map fun child => (child, asked.2) := by
  unfold answerer? answererAmong? askedAt?
  by_cases hzero : (c.length == 0) = true
  · rw [if_pos hzero, if_pos hzero, Option.bind_none]
  rw [if_neg hzero, if_neg hzero]
  -- Both go through the same comparisons.
  by_cases hbefore : t ≤ 0
  · rw [if_pos hbefore, if_pos hbefore, Option.bind_some, List.getElem?_toArray]
  rw [if_neg hbefore, if_neg hbefore]
  by_cases hbeyond : c.length ≤ t
  · -- The last child is asked for its own length, if there is one.
    rw [if_pos hbeyond, if_pos hbeyond, Option.bind_some, List.size_toArray,
      List.getElem?_toArray, List.getLast?_eq_getElem?]
    cases hlast : c.children[c.children.length - 1]? with
    | none => simp only [Option.map_none]
    | some child => simp only [Option.map_some, Option.getD_some]
  · rw [if_neg hbeyond, if_neg hbeyond]
    simp only [place?, List.getElem?_toArray]

/-- A chain of real length asks one of its children, and one without length asks none. -/
theorem exists_askedAt? (c : Chain ℝ) (t : ℝ) : c.length = 0 ∧ c.askedAt? t = none ∨
    ∃ i offset child, c.askedAt? t = some (i, offset) ∧ c.children[i]? = some child := by
  by_cases hzero : c.length = 0
  · refine Or.inl ⟨hzero, ?_⟩
    rw [askedAt?, if_pos ((Scalar.real_beq_iff _ _).mpr hzero)]
  have hpos := List.length_pos_of_ne_nil (c.children_ne_nil hzero)
  -- There is a mark for each child.
  have hsize : c.marks.size = c.children.length := by
    rw [marks, List.size_toArray, length_runningSums, List.length_map]
  -- The ends belong to the first and the last child, and the search does not leave the marks.
  have hasked : ∃ i offset, c.askedAt? t = some (i, offset) ∧ i < c.children.length := by
    rw [askedAt?, if_neg (Scalar.not_real_beq hzero)]
    by_cases hbefore : t ≤ 0
    · rw [if_pos hbefore]
      exact ⟨_, _, rfl, hpos⟩
    rw [if_neg hbefore]
    by_cases hbeyond : c.length ≤ t
    · rw [if_pos hbeyond]
      exact ⟨_, _, rfl, by omega⟩
    · rw [if_neg hbeyond, place?, placeAmong?, if_neg (by omega)]
      exact ⟨_, _, rfl, by omega⟩
  rcases hasked with ⟨i, offset, hasked, hlt⟩
  exact Or.inr ⟨i, offset, c.children[i], hasked, List.getElem?_eq_getElem hlt⟩

theorem pose_of_askedAt? (t offset : α) (i : Nat) (child : Curve α)
    (h : c.askedAt? t = some (i, offset)) (hchild : c.children[i]? = some child) :
    c.curve.pose t = child.pose offset := by
  refine c.pose_of_some t offset child ?_
  rw [c.answerer?_eq_bind, h, Option.bind_some, hchild, Option.map_some]

theorem pose_of_not_askedAt? (t : α) (h : c.askedAt? t = none) : c.curve.pose t = c.rest := by
  refine c.pose_of_none t ?_
  rw [c.answerer?_eq_bind, h, Option.bind_none]

end Chain

namespace Path

section Question

variable {α : Type} [Scalar α]

mutual

/-- The line, arc or polyline that answers for a distance in the end, and the distance that it is
    asked for. A polyline answers itself only if it has no length, and nobody answers for a chain
    that rests. -/
def answerer? : Path α → α → Option (Path α × α)
  | .line s, t => some (.line s, t)
  | .arc a, t => some (.arc a, t)
  | .polyline p, t =>
    match p.chain.askedAt? t with
    | some (i, offset) => p.chords[i]?.map fun s => (.line s, offset)
    | none => some (.polyline p, t)
  | .chain children rest, t =>
    match (Chain.mk (curves children) rest).askedAt? t with
    | some (i, offset) => answererOf? children i offset
    | none => none

/-- The same, for the path with an index. -/
def answererOf? : List (Path α) → Nat → α → Option (Path α × α)
  | [], _, _ => none
  | path :: _, 0, t => answerer? path t
  | _ :: paths, i + 1, t => answererOf? paths i t

end

/-- An index asks the path that it finds. -/
theorem answererOf?_eq_bind (paths : List (Path α)) (i : Nat) (t : α) :
    answererOf? paths i t = paths[i]?.bind fun path => path.answerer? t := by
  induction paths generalizing i with
  | nil => rfl
  | cons path paths ih =>
      cases i with
      | zero => rfl
      | succ i => rw [answererOf?, ih, List.getElem?_cons_succ]

end Question

/-- A leaf has no direction of its own: a line without length, which may be a chord, or a polyline
    without length. -/
def Still : Path ℝ → Prop
  | .line s => s.length = 0
  | .polyline p => p.curve.length = 0
  | _ => False

end Path

/-- A pose is the one of the leaf that answers. Its direction has length one, or it is the zero vector
    and the leaf is still. -/
structure Answered (pose : Pose ℝ) (answerer : Option (Path ℝ × ℝ)) : Prop where
  /-- It is the pose of the leaf. -/
  pose_eq : ∀ leaf t, answerer = some (leaf, t) → pose = leaf.pose t
  /-- It has a direction, unless the leaf is still. -/
  headed : pose.Headed ∨
    pose.direction = Vec.zero ∧ ∃ leaf t, answerer = some (leaf, t) ∧ leaf.Still

/-- What rests at a cursor has its direction. -/
theorem Answered.of_rest (pose : Pose ℝ) (h : pose.Headed) : Answered pose none where
  pose_eq _ _ hnone := nomatch hnone
  headed := Or.inl h

namespace Path

/-- All poses of a path are answered. -/
def Directed (p : Path ℝ) : Prop :=
  ∀ t, Answered (p.pose t) (p.answerer? t)

/-- A line has its own direction, which is no direction if it has no length. -/
theorem directed_line (s : LineSegment ℝ) : (Path.line s).Directed := by
  intro t
  have hdirection : ((Path.line s).pose t).direction = s.direction := rfl
  refine ⟨?_, ?_⟩
  · rintro leaf u hsame
    cases hsame
    rfl
  · by_cases hzero : s.length = 0
    -- A line without length answers for itself, and is still.
    · refine Or.inr ⟨?_, _, _, rfl, hzero⟩
      rw [hdirection, ← Vec.length_eq_zero_iff_eq]
      exact Vec.length_normalized_of_zero _ hzero
    · refine Or.inl ?_
      rw [Pose.Headed, hdirection]
      exact Vec.length_normalized_of_ne_zero _ hzero

/-- An arc has a direction everywhere, also without length. -/
theorem directed_arc (a : Arc ℝ) : (Path.arc a).Directed := by
  intro t
  refine ⟨?_, Or.inl ?_⟩
  · rintro leaf u hsame
    cases hsame
    rfl
  · have hpose : (Path.arc a).pose t = a.poseAtAngle (a.angleAt t) := rfl
    rw [Pose.Headed, hpose, a.direction_poseAtAngle]
    exact Vec.length_ofAngle _

/-- A polyline has the directions of its chords. Without length it has the one in which its curve
    starts, if there is one. -/
theorem directed_polyline (p : Polyline ℝ) : (Path.polyline p).Directed := by
  intro t
  have hpose : (Path.polyline p).pose t = p.chain.curve.pose t := rfl
  rcases p.chain.exists_askedAt? t with ⟨hzero, hasked⟩ | ⟨i, offset, child, hasked, hchild⟩
  -- Without length nobody is asked, so the polyline answers itself.
  · have hanswerer : (Path.polyline p).answerer? t = some (.polyline p, t) := by
      rw [answerer?, hasked]
    have hdirection : ((Path.polyline p).pose t).direction = p.startDirection := by
      rw [hpose, p.chain.pose_of_not_askedAt? t hasked]
      rfl
    rw [hanswerer]
    refine ⟨?_, ?_⟩
    · rintro leaf u hsame
      cases hsame
      rfl
    · rcases Vec.length_normalized (p.bezier.derivative 0) with hnone | hone
      · refine Or.inr ⟨?_, _, _, rfl, hzero⟩
        rw [hdirection, ← Vec.length_eq_zero_iff_eq]
        exact hnone
      · refine Or.inl ?_
        rw [Pose.Headed, hdirection]
        exact hone
  · -- The chord that is asked is a line.
    rw [hpose, p.chain.pose_of_askedAt? t offset i child hasked hchild, answerer?, hasked]
    rw [Polyline.chain, List.getElem?_map, Option.map_eq_some_iff] at hchild
    rcases hchild with ⟨chord, hchord, rfl⟩
    simp only [hchord, Option.map_some]
    exact directed_line chord offset

/-- A chain has the directions of its children, or the one that it rests at. -/
theorem directed_chain (children : List (Path ℝ)) (rest : Pose ℝ) (hrest : rest.Headed)
    (h : ∀ child ∈ children, child.Directed) : (Path.chain children rest).Directed := by
  intro t
  let c : Chain ℝ := ⟨curves children, rest⟩
  have hpose : (Path.chain children rest).pose t = c.curve.pose t := by
    rw [pose, curve]
  rw [hpose, answerer?]
  rcases c.exists_askedAt? t with ⟨-, hasked⟩ | ⟨i, offset, child, hasked, hchild⟩
  · rw [c.pose_of_not_askedAt? t hasked, hasked]
    exact Answered.of_rest rest hrest
  · rw [c.pose_of_askedAt? t offset i child hasked hchild, hasked]
    -- The curve with the index is that of the path with the index.
    have hcurves : c.children = children.map curve := curves_eq_map children
    rw [hcurves, List.getElem?_map, Option.map_eq_some_iff] at hchild
    rcases hchild with ⟨path, hpath, rfl⟩
    simp only [answererOf?_eq_bind, hpath, Option.bind_some]
    exact h path (List.mem_of_getElem? hpath) offset

end Path

end PlanarMotion
