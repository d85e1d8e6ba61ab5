import PlanarMotion.Proofs.Handle.Landing
import PlanarMotion.Proofs.Plane.Turns
import Mathlib.Data.Sign.Basic

/-!
# Which Angle Reaches a Point

The end of a turn can be dragged around its center, and the angle that it then has is known up to
whole turns. Of all these angles a drag takes the one that is nearest to the old angle, so a turn
that goes around several times goes on doing so, and the end moves by half a turn at most. Two
angles may be equally near, half a turn away on either side; then it is the larger one that is
taken. So there is always one angle, in a window that is open below and closed above. An angle that
ends the turn in the right direction already is the nearest to itself and stays.

Where a sign is locked and the nearest angle is zero or has the other sign, a small angle of the
locked sign is written instead. The angle zero has no sign to be kept.

## Main definitions

* `Reaches`: An angle by which a turn ends in the direction of a point.
* `NearestSweep`: The nearest of these angles.
* `WritesSweep`: What a drag writes for an angle.

## Theorems

* `reaches_freeSweep`, `reaches_ofAngle`: Where such angles come from.
* `turn_le_of_reaches`, `eq_of_reaches`: There are no two of them in a window of one turn.
* `draggedAngle_of_reaches`: One that is there already stays.
* `nearestSweep_freeSweep`: An angle that is not held back is the nearest.
* `snaps_iff`: An angle is held back if its sign would change.
* `writesSweep`: What a drag writes.
-/

namespace PlanarMotion

variable (center : Vec ℝ) (baseAngle angle : ℝ) (point : Vec ℝ)

/-- An angle by which a turn ends in the direction of a point: the angle of the point, up to whole
    turns. -/
def Reaches (sweep : ℝ) : Prop :=
  sweep ≡ (point - center).angle - baseAngle [PMOD Scalar.turn]

theorem reaches_iff (sweep : ℝ) : Reaches center baseAngle point sweep ↔
    sweep ≡ (point - center).angle - baseAngle [PMOD 2 * Real.pi] := by
  rw [Reaches, Scalar.turn_eq]

/-- Two such angles are equal or at least one turn apart. -/
theorem turn_le_of_reaches (sweep other : ℝ) (hsweep : Reaches center baseAngle point sweep)
    (hother : Reaches center baseAngle point other) (hne : other ≠ sweep) :
    2 * Real.pi ≤ |other - sweep| := by
  rw [reaches_iff] at hsweep hother
  exact turn_le_abs_sub other sweep (hother.trans hsweep.symm) hne

/-- The angle by which a turn ends in the direction of a point that is nearest to an old angle. -/
structure NearestSweep (sweep : ℝ) : Prop where
  /-- The turn ends there. -/
  reaches : Reaches center baseAngle point sweep
  /-- The end moves by half a turn at most, and not down by half a turn. -/
  window : sweep ∈ Set.Ioc (angle - Real.pi) (angle + Real.pi)
  /-- This is the only such angle. -/
  unique : ∀ other ∈ Set.Ioc (angle - Real.pi) (angle + Real.pi),
    Reaches center baseAngle point other → other = sweep
  /-- No other one is nearer. -/
  nearest : ∀ other, Reaches center baseAngle point other → |sweep - angle| ≤ |other - angle|

/-- What a drag of the end of a turn writes for its angle. -/
structure WritesSweep (keepsSign : Bool) (written : ℝ) : Prop where
  /-- Before its sign is looked at, the angle is the nearest one. -/
  nearest : NearestSweep center baseAngle angle point (freeSweep center baseAngle angle point)
  /-- Where no sign is locked it is written. -/
  free : ¬ (keepsSign = true ∧ angle ≠ 0) → written = freeSweep center baseAngle angle point
  /-- A locked sign stays. -/
  sign : keepsSign = true → angle ≠ 0 → SignType.sign written = SignType.sign angle
  /-- If the nearest angle is of this sign, then it is written. -/
  kept : keepsSign = true → angle ≠ 0 →
    SignType.sign (freeSweep center baseAngle angle point) = SignType.sign angle →
    written = freeSweep center baseAngle angle point
  /-- Else a small angle of this sign is. -/
  snapped : keepsSign = true → angle ≠ 0 →
    SignType.sign (freeSweep center baseAngle angle point) ≠ SignType.sign angle →
    written = SignType.sign angle * minimalSweep

/-- Without a lock the turn ends in the direction of the drag point. -/
theorem reaches_freeSweep :
    Reaches center baseAngle point (freeSweep center baseAngle angle point) := by
  have hwrap :=
    (Scalar.wrapAngle_modEq ((point - center).angle - (baseAngle + angle))).add_left angle
  -- The old angle cancels, and with it where the turn has ended before.
  have hsum : angle + ((point - center).angle - (baseAngle + angle))
      = (point - center).angle - baseAngle := by
    ring
  rw [hsum] at hwrap
  exact (reaches_iff center baseAngle point _).mpr hwrap

/-- The end moves by what wrapping leaves, so by half a turn at most. -/
theorem freeSweep_mem : freeSweep center baseAngle angle point
    ∈ Set.Ioc (angle - Real.pi) (angle + Real.pi) := by
  rcases Scalar.wrapAngle_mem ((point - center).angle - (baseAngle + angle)) with ⟨hlow, hhigh⟩
  have hsweep : freeSweep center baseAngle angle point
      = angle + Scalar.wrapAngle ((point - center).angle - (baseAngle + angle)) := rfl
  rw [hsweep]
  constructor
  · linarith
  · linarith

/-- A turn ends in the direction of where it is drawn to end. -/
theorem reaches_ofAngle (radius : ℝ) (h : 0 < radius) :
    Reaches center baseAngle (center + Vec.ofAngle (baseAngle + angle) radius) angle := by
  -- The angle of a vector that is drawn at an angle is that angle, up to whole turns.
  rcases Vec.exists_angle_ofAngle (baseAngle + angle) radius h with ⟨turns, hturns⟩
  have hoffset : center + Vec.ofAngle (baseAngle + angle) radius - center
      = Vec.ofAngle (baseAngle + angle) radius := by
    ext
    · simp
    · simp
  have hsum : baseAngle + angle + turns * (2 * Real.pi) - baseAngle
      = angle + turns • (2 * Real.pi) := by
    rw [zsmul_eq_mul]
    ring
  rw [reaches_iff, hoffset, hturns, hsum]
  exact (AddCommGroup.add_zsmul_modEq turns).symm

/-- There are no two such angles in a window of one turn. -/
theorem eq_of_reaches (middle sweep other : ℝ) (hsweep : Reaches center baseAngle point sweep)
    (hother : Reaches center baseAngle point other)
    (hmem : sweep ∈ Set.Ioc (middle - Real.pi) (middle + Real.pi))
    (hmem' : other ∈ Set.Ioc (middle - Real.pi) (middle + Real.pi)) : other = sweep := by
  by_contra hne
  have hfar := turn_le_of_reaches center baseAngle point sweep other hsweep hother hne
  have hnear : |other - sweep| < 2 * Real.pi := by
    rw [abs_lt]
    constructor
    · linarith [hmem.2, hmem'.1]
    · linarith [hmem.1, hmem'.2]
  exact not_le.mpr hnear hfar

/-- So the nearest angle is known by where it is. -/
theorem freeSweep_of_reaches (sweep : ℝ) (hsweep : Reaches center baseAngle point sweep)
    (hmem : sweep ∈ Set.Ioc (angle - Real.pi) (angle + Real.pi)) :
    freeSweep center baseAngle angle point = sweep :=
  eq_of_reaches center baseAngle point angle sweep _ hsweep
    (reaches_freeSweep center baseAngle angle point) hmem
    (freeSweep_mem center baseAngle angle point)

/-- An angle by which the turn ends in the direction of the drag point stays. -/
theorem draggedAngle_of_reaches (keepsSign : Bool) (h : Reaches center baseAngle point angle) :
    draggedAngle center baseAngle angle keepsSign point = angle := by
  -- The old angle is in its own window, so the nearest one is it.
  have hself : freeSweep center baseAngle angle point = angle := by
    refine freeSweep_of_reaches center baseAngle angle point angle h ⟨?_, ?_⟩
    · linarith [Real.pi_pos]
    · linarith [Real.pi_pos]
  cases keepsSign with
  | false => exact hself
  | true =>
      refine (draggedAngle_of_not_snaps center point baseAngle angle ?_).trans hself
      unfold Snaps
      -- And it has its own sign, so nothing is held back.
      rw [hself]
      rintro (⟨hpos, hle⟩ | ⟨hneg, hge⟩)
      · exact not_le.mpr hpos hle
      · exact not_le.mpr hneg hge

/-- An angle that is not held back is the nearest one. -/
theorem nearestSweep_freeSweep :
    NearestSweep center baseAngle angle point (freeSweep center baseAngle angle point) where
  reaches := reaches_freeSweep center baseAngle angle point
  window := freeSweep_mem center baseAngle angle point
  unique other hmem hother := eq_of_reaches center baseAngle point angle _ other
    (reaches_freeSweep center baseAngle angle point) hother
    (freeSweep_mem center baseAngle angle point) hmem
  nearest := by
    intro other hother
    have hmem := freeSweep_mem center baseAngle angle point
    by_cases hsame : other = freeSweep center baseAngle angle point
    · rw [hsame]
    · -- The other one is a turn away, of which the nearest angle makes up a half at most.
      have hfar := turn_le_of_reaches center baseAngle point _ other
        (reaches_freeSweep center baseAngle angle point) hother hsame
      have hnear : |freeSweep center baseAngle angle point - angle| ≤ Real.pi := by
        rw [abs_le]
        constructor
        · linarith [hmem.1]
        · linarith [hmem.2]
      have hsum := abs_sub_le other angle (freeSweep center baseAngle angle point)
      rw [abs_sub_comm angle] at hsum
      linarith

/-- A locked angle is held back if its sign would change. -/
theorem snaps_iff (h : angle ≠ 0) : Snaps center baseAngle angle point ↔
    SignType.sign (freeSweep center baseAngle angle point) ≠ SignType.sign angle := by
  unfold Snaps
  -- The two ways to be held back exclude each other by the sign of the old angle.
  rcases lt_or_gt_of_ne h with hneg | hpos
  · rw [sign_neg hneg, ne_eq, sign_eq_neg_one_iff, not_lt]
    exact ⟨fun hsnaps => (hsnaps.resolve_left fun hdown => lt_asymm hneg hdown.1).2,
      fun hup => Or.inr ⟨hneg, hup⟩⟩
  · rw [sign_pos hpos, ne_eq, sign_eq_one_iff, not_lt]
    exact ⟨fun hsnaps => (hsnaps.resolve_right fun hup => lt_asymm hpos hup.1).2,
      fun hdown => Or.inl ⟨hpos, hdown⟩⟩

theorem snappedSweep_eq (h : angle ≠ 0) :
    snappedSweep angle = SignType.sign angle * minimalSweep := by
  rw [snappedSweep, minimalSweep_eq]
  rcases lt_or_gt_of_ne h with hneg | hpos
  · rw [if_neg (lt_asymm hneg), sign_neg hneg, SignType.coe_neg_one, neg_one_mul]
  · rw [if_pos hpos, sign_pos hpos, SignType.coe_one, one_mul]

theorem sign_snappedSweep (h : angle ≠ 0) :
    SignType.sign (snappedSweep angle) = SignType.sign angle := by
  rw [snappedSweep]
  rcases lt_or_gt_of_ne h with hneg | hpos
  · rw [if_neg (lt_asymm hneg), sign_neg hneg, sign_neg (by norm_num)]
  · rw [if_pos hpos, sign_pos hpos, sign_pos (by norm_num)]

/-- What a drag of the end of a turn writes for its angle. -/
theorem writesSweep (keepsSign : Bool) : WritesSweep center baseAngle angle point keepsSign
    (draggedAngle center baseAngle angle keepsSign point) := by
  cases keepsSign with
  | false =>
      exact ⟨nearestSweep_freeSweep center baseAngle angle point, fun _ => rfl,
        fun hlocked => absurd hlocked Bool.false_ne_true,
        fun hlocked => absurd hlocked Bool.false_ne_true,
        fun hlocked => absurd hlocked Bool.false_ne_true⟩
  | true =>
      -- A locked angle is the nearest one or, where that is held back, the small one.
      have hkept := draggedAngle_of_not_snaps center point baseAngle angle
      have hsnapped := draggedAngle_of_snaps center point baseAngle angle
      refine ⟨nearestSweep_freeSweep center baseAngle angle point, fun hunlocked => ?_,
        fun _ hne => ?_, fun _ hne hsame => ?_, fun _ hne hother => ?_⟩
      · -- The angle zero, of which no sign is lost.
        have hzero : angle = 0 := not_not.mp fun hne => hunlocked ⟨rfl, hne⟩
        refine hkept ?_
        rintro (⟨hpos, -⟩ | ⟨hneg, -⟩)
        · exact hpos.ne' hzero
        · exact hneg.ne hzero
      · by_cases hsnaps : Snaps center baseAngle angle point
        · rw [hsnapped hsnaps, sign_snappedSweep angle hne]
        · rw [hkept hsnaps]
          exact not_not.mp fun hsign =>
            hsnaps ((snaps_iff center baseAngle angle point hne).mpr hsign)
      · exact hkept fun hsnaps => (snaps_iff center baseAngle angle point hne).mp hsnaps hsame
      · rw [hsnapped ((snaps_iff center baseAngle angle point hne).mpr hother),
          snappedSweep_eq angle hne]

end PlanarMotion
