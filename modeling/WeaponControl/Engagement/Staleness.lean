import WeaponControl.Engagement.Manager

/-!
# When a valid plan can be stale

Every recomputation (`calculateEngagementPlan`) leaves a plan that matches the
planner's inputs: a valid missile plan runs from the launch point to the
current target, a mine plan through the current waypoints
(`calculateEngagementPlan_current`).  Every operation either recomputes or
leaves the inputs a plan reads alone, so that holds in every reachable state
(`PlanCurrent.run`).

What a valid missile plan does not imply is a valid target.
`setSystemTarget` (`IEngagementManager.h`, line 455) clears
`m_hasValidTarget`, to wait for a track, and, unlike `setTargetPosition`,
`updateTargetInfo` and `updateWaypoints`, does not recompute: the plan stays
valid for a target the planner no longer holds valid
(`setSystemTarget_keeps_plan_valid`).
-/

namespace WeaponControl

/-- The public operations of a planner, with their arguments. -/
inductive PlannerOp where
  | init (tubeNumber : ℕ) (kind : WpnKind)
  | reset (now : ℚ)
  | setAxisCenter (c : GeoPoint2D)
  | updateOwnShipInfo (n : NavInfo)
  | setLaunched (b : Bool)
  | update (now : ℚ)
  | calculateEngagementPlan
  | setTargetPosition (p : SGeodeticPosition)
  | setSystemTarget (id : ℕ)
  | updateTargetInfo (t : TargetTrack)
  | updateWaypoints (wps : List WeaponWaypoint)
  | setDropPlan (listNum planNum : ℕ)
  | updateDropPlanWaypoints (wps : List WeaponWaypoint)

namespace EngagementManager

variable [SGeodeticToST3D]

/-- The planner after one operation. -/
def apply (m : EngagementManager) : PlannerOp → EngagementManager
  | .init n k => (m.init n k).2
  | .reset now => m.reset now
  | .setAxisCenter c => m.setAxisCenter c
  | .updateOwnShipInfo n => m.updateOwnShipInfo n
  | .setLaunched b => m.setLaunched b
  | .update now => m.update now
  | .calculateEngagementPlan => m.calculateEngagementPlan.2
  | .setTargetPosition p => (m.setTargetPosition p).2
  | .setSystemTarget id => (m.setSystemTarget id).2
  | .updateTargetInfo t => m.updateTargetInfo t
  | .updateWaypoints wps => (m.updateWaypoints wps).2
  | .setDropPlan l n => (m.setDropPlan l n).2
  | .updateDropPlanWaypoints wps => (m.updateDropPlanWaypoints wps).2

/-- The planner after a sequence of operations. -/
def run (m : EngagementManager) (ops : List PlannerOp) : EngagementManager := ops.foldl apply m

/-- A valid plan is the plan of the current inputs: for a missile planner the
segment from the launch point to the current target, for the mine planner the
launch point, the current waypoints and the result's drop point. -/
def PlanCurrent (m : EngagementManager) : Prop :=
  m.engagementResult.isValid = true →
    if m.cls = .mine then
      m.engagementResult.trajectory =
        m.launchPosition :: m.waypoints.map WeaponWaypoint.toGeodetic ++
          [m.engagementResult.targetPosition]
    else
      m.engagementResult.targetPosition = toST3D m.targetPosition ∧
        m.engagementResult.trajectory = [m.launchPosition, toST3D m.targetPosition]

/-- **A recomputation leaves a current plan**, from any state. -/
theorem calculateEngagementPlan_current (m : EngagementManager) :
    PlanCurrent m.calculateEngagementPlan.2 := by
  intro hv
  unfold calculateEngagementPlan at hv ⊢
  by_cases hc : m.cls = .mine
  · simp_all [calculateTrajectory, mineTrajectory]
  · by_cases ht : m.hasValidTarget <;> cases h : m.cls <;>
      simp_all [calculateTrajectory, almCalculateTrajectory, asmCalculateTrajectory,
        aamCalculateTrajectory, missileTrajectory]

/-- `PlanCurrent` reads the class, the plan, the waypoints, the launch point
and the target, nothing else. -/
theorem PlanCurrent.congr {m m' : EngagementManager} (h : PlanCurrent m) (hc : m'.cls = m.cls)
    (hr : m'.engagementResult.isValid = true → m'.engagementResult.trajectory =
      m.engagementResult.trajectory ∧ m'.engagementResult.targetPosition =
        m.engagementResult.targetPosition ∧ m'.engagementResult.isValid = m.engagementResult.isValid)
    (hw : m'.waypoints = m.waypoints) (hl : m'.launchPosition = m.launchPosition)
    (ht : m'.targetPosition = m.targetPosition) : PlanCurrent m' := by
  intro hv
  obtain ⟨h1, h2, h3⟩ := hr hv
  have := h (h3 ▸ hv)
  simp_all

/-- **Every operation keeps the plan current.** -/
theorem PlanCurrent.apply {m : EngagementManager} (h : PlanCurrent m) (op : PlannerOp) :
    PlanCurrent (m.apply op) := by
  cases op with
  | init n k => intro hv; simp [EngagementManager.apply, init] at hv
  | reset now => intro hv; simp [EngagementManager.apply, reset] at hv
  | setAxisCenter c => exact h.congr rfl (by simp [EngagementManager.apply, setAxisCenter]) rfl rfl rfl
  | updateOwnShipInfo n =>
    exact h.congr rfl (by simp [EngagementManager.apply, updateOwnShipInfo]) rfl rfl rfl
  | setLaunched b => exact h.congr rfl (by simp [EngagementManager.apply, setLaunched]) rfl rfl rfl
  | update now =>
    simp only [EngagementManager.apply, update]
    split
    · exact h.congr rfl (by simp) rfl rfl rfl
    · exact h
  | calculateEngagementPlan => exact calculateEngagementPlan_current m
  | setTargetPosition p => exact calculateEngagementPlan_current _
  | setSystemTarget id =>
    exact h.congr rfl (by simp [EngagementManager.apply, setSystemTarget]) rfl rfl rfl
  | updateTargetInfo t =>
    simp only [EngagementManager.apply, updateTargetInfo]
    split
    · exact calculateEngagementPlan_current _
    · exact h
  | updateWaypoints wps =>
    simp only [EngagementManager.apply, updateWaypoints]
    split
    · exact h
    · exact calculateEngagementPlan_current _
  | setDropPlan l n => exact h.congr rfl (by simp [EngagementManager.apply, setDropPlan]) rfl rfl rfl
  | updateDropPlanWaypoints wps =>
    simp only [EngagementManager.apply, updateDropPlanWaypoints]
    split
    · exact h
    · exact calculateEngagementPlan_current _

/-- A new planner holds no valid plan. -/
theorem create_current (cls : PlannerClass) (now : ℚ) : PlanCurrent (create cls now) := by
  intro hv; simp [create] at hv

/-- **In every reachable state a valid plan is current.** -/
theorem PlanCurrent.run {m : EngagementManager} (h : PlanCurrent m) :
    ∀ ops : List PlannerOp, PlanCurrent (m.run ops)
  | [] => h
  | op :: ops => PlanCurrent.run (h.apply op) ops

/-- An ALM planner on tube 1 is given a direct target `p`, then a system
target: its plan stays valid while its target is not, whatever the conversion
and the target. -/
theorem setSystemTarget_leaves_plan_valid (p : SGeodeticPosition) :
    ((create .alm 0).run [.init 1 .ALM, .setTargetPosition p, .setSystemTarget 7]).isEngagementPlanValid
        = true ∧
      ((create .alm 0).run [.init 1 .ALM, .setTargetPosition p, .setSystemTarget 7]).hasValidTarget
        = false := by
  simp [run, EngagementManager.apply, create, init, setTargetPosition, setSystemTarget,
    calculateEngagementPlan, calculateTrajectory, almCalculateTrajectory, missileTrajectory,
    isEngagementPlanValid]

end EngagementManager

/-- The run above at the origin, with the field-by-field conversion. -/
theorem EngagementManager.setSystemTarget_keeps_plan_valid :
    (@EngagementManager.run SGeodeticToST3D.byFields (EngagementManager.create .alm 0)
        [.init 1 .ALM, .setTargetPosition {}, .setSystemTarget 7]).isEngagementPlanValid = true ∧
      (@EngagementManager.run SGeodeticToST3D.byFields (EngagementManager.create .alm 0)
        [.init 1 .ALM, .setTargetPosition {}, .setSystemTarget 7]).hasValidTarget = false :=
  @EngagementManager.setSystemTarget_leaves_plan_valid SGeodeticToST3D.byFields {}

end WeaponControl
