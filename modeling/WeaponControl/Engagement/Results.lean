import WeaponControl.Engagement.Staleness
import Mathlib.Tactic.NormNum

/-!
# What a planner reports: the bounds of its plan, and its clock

`getMissileEngagementResult` and `getMineEngagementResult`
(`IEngagementManager.h`, lines 394-429 and 506-547) copy the plan into the
fixed arrays of the DDS messages: at most 128 trajectory points, 8 waypoints
and 16 turning points, each loop stopping at the capacity while the count
field takes the full size.  In every reachable state the sizes fit
(`plan_bounds_of_run`): a planner never holds more than eight waypoints, a
plan has at most two points more than the waypoints, a plan of two points or
more has a positive flight time, and a valid plan runs from the result's
launch point to its target point.  `m_launchPosition` is never written, so
both launch points stay at the origin.

After a launch, `update()` places the weapon at `interpolatePosition` of the
time since `m_launchStartTime`, which the constructor and `reset()` stamp and
`setLaunched` does not (lines 142, 264, 288, 305): the clock runs from the
construction or the last reset (`update_position_after_run`), not from the
launch (`launch_clock_starts_at_construction`).
-/

namespace WeaponControl

/-- `AIEP_ALM_ASM_EP_RESULT` as `getMissileEngagementResult` fills it; each
fixed array is the list of the entries its loop writes. -/
structure MissileEpResult where
  enTubeNum : ℕ
  bValidMslPos : Bool
  MslPos : ST3DGeodeticPosition
  numberOfNextWP : ℕ
  timeToNextWP : ℚ
  unCntTrajectory : ℕ
  stTrajectories : List ST3DGeodeticPosition
  unCntWaypoint : ℕ
  stWaypoints : List ST3DGeodeticPosition
  unCntTurningpoints : ℕ
  stTurningpoints : List ST3DGeodeticPosition

/-- `AIEP_M_MINE_EP_RESULT` as `getMineEngagementResult` fills it. -/
structure MineEpResult where
  enTubeNum : ℕ
  fEstimatedDrivingTime : ℚ
  fRemainingTime : ℚ
  bValidMslPos : Bool
  MslPos : ST3DGeodeticPosition
  numberOfNextWP : ℕ
  timeToNextWP : ℚ
  unCntTrajectory : ℕ
  stTrajectories : List ST3DGeodeticPosition
  unCntWaypoint : ℕ
  stWaypoints : List WeaponWaypoint
  stLaunchPos : ST3DGeodeticPosition
  stDropPos : ST3DGeodeticPosition

namespace EngagementManager

/-- `calculateTurningPoints`, whose body the three missile planners share: the
waypoints, as positions. -/
def calculateTurningPoints (m : EngagementManager) : List ST3DGeodeticPosition :=
  m.waypoints.map WeaponWaypoint.toGeodetic

/-- `MissileEngagementManagerBase::getMissileEngagementResult`. -/
def getMissileEngagementResult (m : EngagementManager) : MissileEpResult :=
  { enTubeNum := m.tubeNumber,
    bValidMslPos := m.engagementResult.isValid && m.launched,
    MslPos := if m.launched then m.engagementResult.currentPosition else {},
    numberOfNextWP := m.engagementResult.nextWaypointIndex,
    timeToNextWP := m.engagementResult.timeToNextWaypoint_sec,
    unCntTrajectory := m.engagementResult.trajectory.length,
    stTrajectories := m.engagementResult.trajectory.take 128,
    unCntWaypoint := m.waypoints.length,
    stWaypoints := (m.waypoints.take 8).map WeaponWaypoint.toGeodetic,
    unCntTurningpoints := m.calculateTurningPoints.length,
    stTurningpoints := m.calculateTurningPoints.take 16 }

/-- `MineEngagementManagerBase::getMineEngagementResult`. -/
def getMineEngagementResult (m : EngagementManager) : MineEpResult :=
  { enTubeNum := m.tubeNumber,
    fEstimatedDrivingTime := m.engagementResult.totalTime_sec,
    fRemainingTime := m.engagementResult.timeToTarget_sec,
    bValidMslPos := m.engagementResult.isValid && m.launched,
    MslPos := if m.launched then m.engagementResult.currentPosition else {},
    numberOfNextWP := m.engagementResult.nextWaypointIndex,
    timeToNextWP := m.engagementResult.timeToNextWaypoint_sec,
    unCntTrajectory := m.engagementResult.trajectory.length,
    stTrajectories := m.engagementResult.trajectory.take 128,
    unCntWaypoint := m.waypoints.length,
    stWaypoints := m.waypoints.take 8,
    stLaunchPos := m.engagementResult.launchPosition,
    stDropPos := m.engagementResult.targetPosition }

/-! ## The bounds of a plan -/

/-- What the messages rely on: at most eight waypoints, at most two
trajectory points more, a positive flight time for a path, and a valid plan
from the launch point to the target point. -/
structure PlanBounds (m : EngagementManager) : Prop where
  waypoints_le : m.waypoints.length ≤ 8
  trajectory_le : m.engagementResult.trajectory.length ≤ m.waypoints.length + 2
  totalTime_pos : 2 ≤ m.engagementResult.trajectory.length → 0 < m.engagementResult.totalTime_sec
  valid : m.engagementResult.isValid = true →
    m.engagementResult.trajectory ≠ [] ∧ 0 < m.engagementResult.totalTime_sec ∧
      m.engagementResult.trajectory.head? = some m.engagementResult.launchPosition ∧
      m.engagementResult.trajectory.getLast? = some m.engagementResult.targetPosition

/-- The counts of both messages: each within its array and equal to the
number of entries written. -/
def EncodedCounts (m : EngagementManager) : Prop :=
  m.getMissileEngagementResult.unCntTrajectory ≤ 128 ∧
    m.getMissileEngagementResult.unCntTrajectory = m.getMissileEngagementResult.stTrajectories.length ∧
    m.getMissileEngagementResult.unCntWaypoint ≤ 8 ∧
    m.getMissileEngagementResult.unCntWaypoint = m.getMissileEngagementResult.stWaypoints.length ∧
    m.getMissileEngagementResult.unCntTurningpoints ≤ 16 ∧
    m.getMissileEngagementResult.unCntTurningpoints = m.getMissileEngagementResult.stTurningpoints.length ∧
    m.getMineEngagementResult.unCntTrajectory ≤ 128 ∧
    m.getMineEngagementResult.unCntTrajectory = m.getMineEngagementResult.stTrajectories.length ∧
    m.getMineEngagementResult.unCntWaypoint ≤ 8 ∧
    m.getMineEngagementResult.unCntWaypoint = m.getMineEngagementResult.stWaypoints.length

/-- The sizes a planner keeps: its waypoints, its trajectory (two points at
most for a missile), the flight time of a path, and the launch points, which
nothing writes. -/
structure Bounded (m : EngagementManager) : Prop where
  waypoints_le : m.waypoints.length ≤ 8
  trajectory_le : m.engagementResult.trajectory.length ≤ m.waypoints.length + 2
  missile_le : m.cls ≠ .mine → m.engagementResult.trajectory.length ≤ 2
  totalTime_pos : 2 ≤ m.engagementResult.trajectory.length → 0 < m.engagementResult.totalTime_sec
  origin : m.launchPosition = {} ∧ m.engagementResult.launchPosition = {}

/-- `Bounded` reads the class, the waypoints, the trajectory, the flight time
and the launch points. -/
theorem Bounded.congr {m m' : EngagementManager} (h : Bounded m) (hc : m'.cls = m.cls)
    (hw : m'.waypoints = m.waypoints) (ht : m'.engagementResult.trajectory = m.engagementResult.trajectory)
    (htt : m'.engagementResult.totalTime_sec = m.engagementResult.totalTime_sec)
    (hl : m'.launchPosition = m.launchPosition)
    (hrl : m'.engagementResult.launchPosition = m.engagementResult.launchPosition) : Bounded m' :=
  ⟨hw ▸ h.waypoints_le, hw ▸ ht ▸ h.trajectory_le, hc ▸ ht ▸ h.missile_le, ht ▸ htt ▸ h.totalTime_pos,
    hl ▸ hrl ▸ h.origin⟩

/-- The counts of both messages fit their arrays on a bounded planner. -/
theorem encodedCounts_of_bounded {m : EngagementManager} (h : Bounded m) : EncodedCounts m := by
  have hw := h.waypoints_le
  have ht := h.trajectory_le
  simp only [EncodedCounts, getMissileEngagementResult, getMineEngagementResult, calculateTurningPoints,
    List.length_take, List.length_map]
  omega

variable [SGeodeticToST3D]

/-- The three missile planners compute `missileTrajectory` of a positive
flight time. -/
theorem calculateTrajectory_of_missile {m : EngagementManager} (hc : m.cls ≠ .mine) :
    ∃ t, 0 < t ∧ m.calculateTrajectory = m.missileTrajectory t := by
  unfold calculateTrajectory
  split
  · exact ⟨100, by norm_num, rfl⟩
  · exact ⟨80, by norm_num, rfl⟩
  · exact ⟨60, by norm_num, rfl⟩
  · rename_i hmine; exact absurd hmine hc

/-- **A recomputation leaves a bounded plan** from a planner with at most
eight waypoints, whatever trajectory a mine planner held before. -/
theorem Bounded.calculateEngagementPlan {m : EngagementManager} (hw : m.waypoints.length ≤ 8)
    (hm : m.cls ≠ .mine → m.engagementResult.trajectory.length ≤ 2)
    (ht : 2 ≤ m.engagementResult.trajectory.length → 0 < m.engagementResult.totalTime_sec)
    (ho : m.launchPosition = {} ∧ m.engagementResult.launchPosition = {}) :
    Bounded m.calculateEngagementPlan.2 := by
  unfold EngagementManager.calculateEngagementPlan
  by_cases hc : m.cls = .mine
  · simp only [hc, if_true, calculateTrajectory, mineTrajectory]
    exact ⟨hw, by simp, fun h => absurd rfl h, fun _ => by norm_num, ho⟩
  · simp only [hc, if_false]
    split_ifs with hv
    · obtain ⟨t, ht0, hmt⟩ := calculateTrajectory_of_missile hc
      simp only [hmt, missileTrajectory, hv, if_true]
      exact ⟨hw, by simp, fun _ => by simp, fun _ => ht0, ho⟩
    · exact ⟨hw, by dsimp only; have := hm hc; omega, fun _ => hm hc, ht, ho⟩

/-- **Every operation keeps a planner bounded.** -/
theorem Bounded.apply {m : EngagementManager} (h : Bounded m) (op : PlannerOp) :
    Bounded (m.apply op) := by
  have calc_of {m' : EngagementManager} (hc : m'.cls = m.cls) (hw : m'.waypoints.length ≤ 8)
      (ht : m'.engagementResult = m.engagementResult) (hl : m'.launchPosition = m.launchPosition) :
      Bounded m'.calculateEngagementPlan.2 :=
    .calculateEngagementPlan hw (fun hc' => ht ▸ h.missile_le (hc ▸ hc'))
      (fun h2 => ht ▸ h.totalTime_pos (ht ▸ h2)) (hl ▸ ht ▸ h.origin)
  cases op with
  | init n k => exact h.congr rfl rfl rfl rfl rfl rfl
  | reset now =>
    refine ⟨?_, ?_, ?_, ?_, ?_⟩ <;> simp [EngagementManager.apply, reset, h.origin.1]
  | setAxisCenter c => exact h.congr rfl rfl rfl rfl rfl rfl
  | updateOwnShipInfo n => exact h.congr rfl rfl rfl rfl rfl rfl
  | setLaunched b => exact h.congr rfl rfl rfl rfl rfl rfl
  | update now =>
    simp only [EngagementManager.apply, update]
    split
    · exact h.congr rfl rfl rfl rfl rfl rfl
    · exact h
  | calculateEngagementPlan => exact calc_of rfl h.waypoints_le rfl rfl
  | setTargetPosition p => exact calc_of rfl h.waypoints_le rfl rfl
  | setSystemTarget id => exact h.congr rfl rfl rfl rfl rfl rfl
  | updateTargetInfo t =>
    simp only [EngagementManager.apply, updateTargetInfo]
    split
    · exact calc_of rfl h.waypoints_le rfl rfl
    · exact h
  | updateWaypoints wps =>
    simp only [EngagementManager.apply, updateWaypoints]
    split
    · exact h
    · exact calc_of rfl (by dsimp only; omega) rfl rfl
  | setDropPlan l n => exact h.congr rfl rfl rfl rfl rfl rfl
  | updateDropPlanWaypoints wps =>
    simp only [EngagementManager.apply, updateDropPlanWaypoints]
    split
    · exact h
    · exact calc_of rfl (by simp only [List.length]; omega) rfl rfl

theorem Bounded.run {m : EngagementManager} (h : Bounded m) :
    ∀ ops : List PlannerOp, Bounded (m.run ops)
  | [] => h
  | op :: ops => Bounded.run (h.apply op) ops

/-- A bounded planner whose valid plan is current satisfies the bounds the
messages rely on. -/
theorem PlanBounds.of_bounded {m : EngagementManager} (h : Bounded m) (hc : PlanCurrent m) :
    PlanBounds m := by
  refine ⟨h.waypoints_le, h.trajectory_le, h.totalTime_pos, fun hv => ?_⟩
  have hcur := hc hv
  rw [h.origin.2]
  split_ifs at hcur with hmine
  · rw [hcur]
    refine ⟨by simp, h.totalTime_pos (by simp [hcur]), by simp [h.origin.1], ?_⟩
    rw [List.getLast?_concat]
  · obtain ⟨htp, htr⟩ := hcur
    rw [htr]
    exact ⟨by simp, h.totalTime_pos (by simp [htr]), by simp [h.origin.1], by simp [htp]⟩

/-- **In every reachable state of every planner the plan fits the messages**:
at most eight waypoints, a trajectory of at most two points more, a positive
flight time for a path, a valid plan from the launch point to the target
point, and message counts within their arrays, equal to the entries written. -/
theorem plan_bounds_of_run (cls : PlannerClass) (now : ℚ) (ops : List PlannerOp) :
    PlanBounds ((create cls now).run ops) ∧ EncodedCounts ((create cls now).run ops) := by
  have h0 : Bounded (create cls now) :=
    ⟨by simp [create], by simp [create], by simp [create], by simp [create], ⟨rfl, rfl⟩⟩
  exact ⟨.of_bounded (h0.run ops) ((create_current cls now).run ops),
    encodedCounts_of_bounded (h0.run ops)⟩

/-! ## The launch clock -/

end EngagementManager

/-- The launch clock after one operation: `reset` restamps it with its time,
every other operation, `setLaunched` included, leaves it. -/
def PlannerOp.restamp : PlannerOp → ℚ → ℚ
  | .reset now, _ => now
  | _, t => t

namespace EngagementManager

variable [SGeodeticToST3D]

/-- The time `m_launchStartTime` holds after a sequence of operations on a
planner stamped at `start`. -/
def clockStart (start : ℚ) (ops : List PlannerOp) : ℚ := ops.foldl (fun t op => op.restamp t) start

theorem apply_launchStartTime (m : EngagementManager) (op : PlannerOp) :
    (m.apply op).launchStartTime = op.restamp m.launchStartTime := by
  have hplan (m' : EngagementManager) : m'.calculateEngagementPlan.2.launchStartTime = m'.launchStartTime := by
    unfold calculateEngagementPlan calculateTrajectory; split_ifs <;> first | rfl | split <;> rfl
  cases op with
  | update now => simp only [EngagementManager.apply, update]; split <;> rfl
  | calculateEngagementPlan => exact hplan m
  | setTargetPosition p => exact hplan _
  | updateTargetInfo t =>
    simp only [EngagementManager.apply, updateTargetInfo]; split
    · exact hplan _
    · rfl
  | updateWaypoints wps =>
    simp only [EngagementManager.apply, updateWaypoints]; split
    · rfl
    · exact hplan _
  | updateDropPlanWaypoints wps =>
    simp only [EngagementManager.apply, updateDropPlanWaypoints]; split
    · rfl
    · exact hplan _
  | _ => rfl

theorem launchStartTime_run (m : EngagementManager) :
    ∀ ops : List PlannerOp, (m.run ops).launchStartTime = clockStart m.launchStartTime ops
  | [] => rfl
  | op :: ops => (launchStartTime_run (m.apply op) ops).trans (by rw [apply_launchStartTime]; rfl)

/-- **After any run, `update` measures from the creation or the last
`reset`**: a launched planner's `update τ` places the weapon at the
interpolation at `τ` less that time, however long before `τ` the call to
`setLaunched(true)` came. -/
theorem update_position_after_run (cls : PlannerClass) (now τ : ℚ) (ops : List PlannerOp)
    (hl : ((create cls now).run ops).launched = true) :
    (((create cls now).run ops).update τ).engagementResult.currentPosition =
      ((create cls now).run ops).interpolatePosition (τ - clockStart now ops) := by
  simp only [update, hl, if_true, launchStartTime_run]
  rfl

/-- An ALM planner created at time 0 on tube 1 is aimed 10° north of the
launch point, launched (at 50 s, say: `setLaunched` records no time) and
updated at 60 s. -/
def lateLaunch : List PlannerOp :=
  [.init 1 .ALM, .setTargetPosition { dLatitude := 10 }, .setLaunched true, .update 60]

end EngagementManager

/-- The planner created at 0, with no reset, is launched. -/
theorem EngagementManager.update_position_after_late_launch :
    (@EngagementManager.run SGeodeticToST3D.byFields (EngagementManager.create .alm 0)
        EngagementManager.lateLaunch).launched = true ∧
      ((@EngagementManager.run SGeodeticToST3D.byFields (EngagementManager.create .alm 0)
        EngagementManager.lateLaunch).update 60).engagementResult.currentPosition =
      (@EngagementManager.run SGeodeticToST3D.byFields (EngagementManager.create .alm 0)
        EngagementManager.lateLaunch).interpolatePosition (60 - EngagementManager.clockStart 0
          EngagementManager.lateLaunch) :=
  ⟨rfl, @EngagementManager.update_position_after_run SGeodeticToST3D.byFields .alm 0 60 _ rfl⟩

/-- Launched at 50 s and updated at 60 s, the weapon is placed six tenths of
the way to the target, at 60 s of flight, not one tenth, at the 10 s since
the launch. -/
theorem EngagementManager.launch_clock_starts_at_construction :
    (@EngagementManager.run SGeodeticToST3D.byFields (EngagementManager.create .alm 0)
        EngagementManager.lateLaunch).engagementResult.currentPosition = { dLatitude := 6 } ∧
      (@EngagementManager.run SGeodeticToST3D.byFields (EngagementManager.create .alm 0)
        EngagementManager.lateLaunch).interpolatePosition (60 - 50) = { dLatitude := 1 } := by
  have hcls : PlannerClass.alm ≠ .mine := by decide
  norm_num [hcls, EngagementManager.run, EngagementManager.apply, EngagementManager.lateLaunch,
    EngagementManager.create, EngagementManager.init, EngagementManager.setTargetPosition,
    EngagementManager.calculateEngagementPlan, EngagementManager.calculateTrajectory,
    EngagementManager.almCalculateTrajectory, EngagementManager.missileTrajectory,
    EngagementManager.setLaunched, EngagementManager.update, EngagementManager.interpolatePosition,
    missileInterpolatePosition, lerp, SGeodeticToST3D.byFields, toST3D]

end WeaponControl
