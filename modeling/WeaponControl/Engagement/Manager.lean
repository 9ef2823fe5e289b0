import WeaponControl.Types
import Mathlib.Data.Rat.Floor

/-!
# The engagement planners: `Core/EngagementManagers/IEngagementManager.h`

`EngagementManagerBase` and its two branches, `MissileEngagementManagerBase`
(targets and waypoints) and `MineEngagementManagerBase` (a drop plan), with the
four concrete planners of `unnamed/part_001`: `ALMEngagementManager`,
`ASMEngagementManager`, `AAMEngagementManager` and `MineEngagementManager`.

One flat record holds the fields of every class, and `cls` says which class
the factory built; the `dynamic_pointer_cast`s of `LaunchTube` test `cls`.  The
three missile planners share every body except the flight time their
`calculateTrajectory` writes (100, 80 and 60 s), so that body is
`EngagementManager.missileTrajectory` applied to each one's constant.

Two pieces come from outside the repository.  Time is an explicit argument
(`now`, seconds on `steady_clock`).  The assignment of an `SGEODETIC_POSITION`
to an `ST_3D_GEODETIC_POSITION` in the missile planners relies on a conversion
declared in the missing DDS header; it is the class `SGeodeticToST3D`, and
every result below holds whatever that conversion is.
-/

namespace WeaponControl

/-- The conversion the missing DDS header provides for
`m_engagementResult.targetPosition = m_targetPosition`. -/
class SGeodeticToST3D where
  toST3D : SGeodeticPosition → ST3DGeodeticPosition

export SGeodeticToST3D (toST3D)

/-- One conversion the header could declare: field by field, the altitude read
as a negative depth.  Every result holds for every conversion; this one only
instantiates a statement where a closed instance is wanted. -/
def SGeodeticToST3D.byFields : SGeodeticToST3D :=
  ⟨fun p => { dLatitude := p.dLatitude, dLongitude := p.dLongitude, fDepth := -p.fAltitude }⟩

/-- The concrete planner classes of the factory. -/
inductive PlannerClass where
  | alm | asm | aam | mine
  deriving DecidableEq, Repr

/-- The kind each concrete planner's constructor passes to
`EngagementManagerBase`. -/
def PlannerClass.kind : PlannerClass → WpnKind
  | .alm => .ALM
  | .asm => .ASM
  | .aam => .AAM
  | .mine => .M_MINE

/-- A planner object.  `launchStartTime` is `m_launchStartTime`; `m_launchTime`
is written and never read, `m_targetInfo` likewise, and the base class's own
`m_targetPosition` is shadowed in the missile planners and unused in the mine
one: all three are left out. -/
structure EngagementManager where
  cls : PlannerClass
  tubeNumber : ℕ
  weaponKind : WpnKind
  launched : Bool
  axisCenter : GeoPoint2D
  engagementResult : EngagementPlanResult
  waypoints : List WeaponWaypoint
  launchPosition : ST3DGeodeticPosition
  ownShipInfo : NavInfo
  launchStartTime : ℚ
  /-- `MissileEngagementManagerBase` -/
  systemTargetId : ℕ
  targetPosition : SGeodeticPosition
  hasValidTarget : Bool
  /-- `MineEngagementManagerBase` -/
  dropPlanListNumber : ℕ
  dropPlanNumber : ℕ
  dropPlan : MinePlanInfo

namespace EngagementManager

/-- The constructors: `EngagementManagerBase(weaponKind)` stamps
`m_launchStartTime` with the construction time; the missile base clears its
target, the mine base its plan numbers. -/
def create (cls : PlannerClass) (now : ℚ) : EngagementManager :=
  { cls := cls, tubeNumber := 0, weaponKind := cls.kind, launched := false, axisCenter := {},
    engagementResult := {}, waypoints := [], launchPosition := {}, ownShipInfo := {},
    launchStartTime := now, systemTargetId := 0, targetPosition := {}, hasValidTarget := false,
    dropPlanListNumber := 0, dropPlanNumber := 0, dropPlan := {} }

/-- `dynamic_pointer_cast<IMineEngagementManager>` succeeds. -/
def isMine (m : EngagementManager) : Bool := m.cls = .mine

/-- `EngagementManagerBase::initialize(tubeNumber, weaponKind)`: the kind is
overwritten with the one passed in. -/
def init (m : EngagementManager) (tubeNumber : ℕ) (kind : WpnKind) :
    Result × EngagementManager :=
  (.success,
    { m with
      tubeNumber := tubeNumber, weaponKind := kind, launched := false,
      engagementResult :=
        { m.engagementResult with tubeNumber := tubeNumber, weaponKind := kind, isValid := false } })

/-- `EngagementManagerBase::reset()` at time `now`: a fresh result and no
waypoints.  The target and the drop plan are not touched. -/
def reset (m : EngagementManager) (now : ℚ) : EngagementManager :=
  { m with
    launched := false, launchStartTime := now,
    engagementResult := { tubeNumber := m.tubeNumber, weaponKind := m.weaponKind },
    waypoints := [] }

/-- `setAxisCenter`. -/
def setAxisCenter (m : EngagementManager) (c : GeoPoint2D) : EngagementManager :=
  { m with axisCenter := c }

/-- `updateOwnShipInfo`. -/
def updateOwnShipInfo (m : EngagementManager) (n : NavInfo) : EngagementManager :=
  { m with ownShipInfo := n }

/-- `setLaunched`: the flag alone; `m_launchStartTime` stays what it was. -/
def setLaunched (m : EngagementManager) (b : Bool) : EngagementManager :=
  { m with launched := b }

/-- `isEngagementPlanValid`. -/
def isEngagementPlanValid (m : EngagementManager) : Bool := m.engagementResult.isValid

section Planning

variable [SGeodeticToST3D]

/-- `ALMEngagementManager::calculateTrajectory` with its flight time a
parameter: the plan is valid iff the target is, and a valid target replaces the
trajectory by launch point and target. -/
def missileTrajectory (m : EngagementManager) (totalTime : ℚ) : Result × EngagementManager :=
  let r :=
    { m.engagementResult with
      isValid := m.hasValidTarget, totalTime_sec := totalTime,
      tubeNumber := m.tubeNumber, weaponKind := m.weaponKind }
  (.success,
    { m with
      engagementResult :=
        if m.hasValidTarget then
          { r with
            targetPosition := toST3D m.targetPosition,
            trajectory := [m.launchPosition, toST3D m.targetPosition] }
        else r })

/-- `MineEngagementManager::calculateTrajectory`: always valid, launch point,
then the waypoints, then the result's own target point. -/
def mineTrajectory (m : EngagementManager) : Result × EngagementManager :=
  (.success,
    { m with
      engagementResult :=
        { m.engagementResult with
          isValid := true, totalTime_sec := 300, tubeNumber := m.tubeNumber,
          weaponKind := m.weaponKind,
          trajectory := m.launchPosition :: m.waypoints.map WeaponWaypoint.toGeodetic ++
            [m.engagementResult.targetPosition] } })

/-- `ALMEngagementManager::calculateTrajectory`. -/
def almCalculateTrajectory (m : EngagementManager) : Result × EngagementManager :=
  m.missileTrajectory 100

/-- `ASMEngagementManager::calculateTrajectory`. -/
def asmCalculateTrajectory (m : EngagementManager) : Result × EngagementManager :=
  m.missileTrajectory 80

/-- `AAMEngagementManager::calculateTrajectory`. -/
def aamCalculateTrajectory (m : EngagementManager) : Result × EngagementManager :=
  m.missileTrajectory 60

/-- The virtual `calculateTrajectory`. -/
def calculateTrajectory (m : EngagementManager) : Result × EngagementManager :=
  match m.cls with
  | .alm => m.almCalculateTrajectory
  | .asm => m.asmCalculateTrajectory
  | .aam => m.aamCalculateTrajectory
  | .mine => m.mineTrajectory

/-- The virtual `calculateEngagementPlan`: the missile base refuses without a
valid target, marking the plan invalid; the mine base always recomputes. -/
def calculateEngagementPlan (m : EngagementManager) : Result × EngagementManager :=
  if m.cls = .mine then m.calculateTrajectory
  else if m.hasValidTarget then m.calculateTrajectory
  else (.failure "No valid target set",
    { m with engagementResult := { m.engagementResult with isValid := false } })

/-- `MissileEngagementManagerBase::setTargetPosition`: a direct target, then a
recomputation. -/
def setTargetPosition (m : EngagementManager) (p : SGeodeticPosition) : Result × EngagementManager :=
  calculateEngagementPlan { m with targetPosition := p, systemTargetId := 0, hasValidTarget := true }

/-- `MissileEngagementManagerBase::setSystemTarget`: the target becomes invalid
until a track arrives, and nothing is recomputed. -/
def setSystemTarget (m : EngagementManager) (id : ℕ) : Result × EngagementManager :=
  (.success, { m with systemTargetId := id, hasValidTarget := false })

/-- `MissileEngagementManagerBase::updateTargetInfo`: a track for the system
target moves the target (depth becomes altitude) and recomputes. -/
def updateTargetInfo (m : EngagementManager) (t : TargetTrack) : EngagementManager :=
  if m.systemTargetId ≠ 0 ∧ t.unTargetSystemID = m.systemTargetId then
    (calculateEngagementPlan
      { m with
        targetPosition :=
          { dLatitude := t.stGeodeticPosition.dLatitude,
            dLongitude := t.stGeodeticPosition.dLongitude,
            fAltitude := -t.stGeodeticPosition.fDepth },
        hasValidTarget := true }).2
  else m

/-- `MissileEngagementManagerBase::updateWaypoints`: at most eight, then a
recomputation. -/
def updateWaypoints (m : EngagementManager) (wps : List WeaponWaypoint) : Result × EngagementManager :=
  if wps.length > 8 then (.failure "Too many waypoints for missile (max 8)", m)
  else calculateEngagementPlan { m with waypoints := wps }

/-- `MineEngagementManagerBase::setDropPlan`; the plan itself is not loaded
(`// TODO`), only its numbers recorded, the list id set to the plan number. -/
def setDropPlan (m : EngagementManager) (listNum planNum : ℕ) : Result × EngagementManager :=
  (.success,
    { m with
      dropPlanListNumber := listNum, dropPlanNumber := planNum,
      dropPlan := { m.dropPlan with sListID := planNum, usDroppingPlanNumber := planNum } })

/-- The copy `m_dropPlan.stWaypoint()[i] = waypoints[i]` for `i < size, i < 8`. -/
def copyWaypoints (slots : Fin 8 → WeaponWaypoint) (wps : List WeaponWaypoint) :
    Fin 8 → WeaponWaypoint :=
  fun i => wps.getD i.val (slots i)

/-- `MineEngagementManagerBase::updateDropPlanWaypoints`: at most eight,
mirrored into the drop plan, then a recomputation. -/
def updateDropPlanWaypoints (m : EngagementManager) (wps : List WeaponWaypoint) :
    Result × EngagementManager :=
  if wps.length > 8 then (.failure "Too many waypoints for mine (max 8)", m)
  else calculateEngagementPlan
    { m with
      waypoints := wps,
      dropPlan :=
        { m.dropPlan with
          usWaypointCnt := wps.length, stWaypoint := copyWaypoints m.dropPlan.stWaypoint wps } }

end Planning

/-- Componentwise `start + (end - start) * progress`. -/
def lerp (a b : ST3DGeodeticPosition) (p : ℚ) : ST3DGeodeticPosition :=
  { dLatitude := a.dLatitude + (b.dLatitude - a.dLatitude) * p,
    dLongitude := a.dLongitude + (b.dLongitude - a.dLongitude) * p,
    fDepth := a.fDepth + (b.fDepth - a.fDepth) * p }

/-- `ALMEngagementManager::interpolatePosition`, whose body the ASM and AAM
planners repeat: one segment from the first to the last point. -/
def missileInterpolatePosition (r : EngagementPlanResult) (t : ℚ) : ST3DGeodeticPosition :=
  if r.trajectory.length < 2 then {}
  else lerp (r.trajectory.headD {}) (r.trajectory.getLastD {}) (min (t / r.totalTime_sec) 1)

/-- `MineEngagementManager::interpolatePosition`: along the polyline, the
segment index the truncation of `progress * (size - 1)`, clamped to the last
point.  (A negative `t` would cast a negative `float` to `size_t`, undefined in
the source; here it truncates to segment 0.) -/
def mineInterpolatePosition (r : EngagementPlanResult) (t : ℚ) : ST3DGeodeticPosition :=
  if r.trajectory.length < 2 then {}
  else
    let progress := min (t / r.totalTime_sec) 1
    let segmentProgress := progress * (r.trajectory.length - 1 : ℕ)
    let segmentIndex := ⌊segmentProgress⌋.toNat
    if segmentIndex ≥ r.trajectory.length - 1 then r.trajectory.getLastD {}
    else lerp (r.trajectory.getD segmentIndex {}) (r.trajectory.getD (segmentIndex + 1) {})
      (segmentProgress - segmentIndex)

/-- The virtual `interpolatePosition`. -/
def interpolatePosition (m : EngagementManager) (t : ℚ) : ST3DGeodeticPosition :=
  if m.cls = .mine then mineInterpolatePosition m.engagementResult t
  else missileInterpolatePosition m.engagementResult t

/-- `EngagementManagerBase::update()` at time `now`: once launched, the current
position is the interpolation at `now - m_launchStartTime`. -/
def update (m : EngagementManager) (now : ℚ) : EngagementManager :=
  if m.launched then
    { m with
      engagementResult :=
        { m.engagementResult with
          currentPosition := m.interpolatePosition (now - m.launchStartTime) } }
  else m

/-- What the planner is, and which tube and kind it serves: the fields only
`create` and `init` write. -/
def ident (m : EngagementManager) : PlannerClass × ℕ × WpnKind := (m.cls, m.tubeNumber, m.weaponKind)

@[simp] theorem setAxisCenter_ident (m : EngagementManager) (c : GeoPoint2D) :
    (m.setAxisCenter c).ident = m.ident := rfl
@[simp] theorem updateOwnShipInfo_ident (m : EngagementManager) (n : NavInfo) :
    (m.updateOwnShipInfo n).ident = m.ident := rfl
@[simp] theorem setLaunched_ident (m : EngagementManager) (b : Bool) :
    (m.setLaunched b).ident = m.ident := rfl
@[simp] theorem setSystemTarget_ident (m : EngagementManager) (id : ℕ) :
    (m.setSystemTarget id).2.ident = m.ident := rfl
@[simp] theorem setDropPlan_ident (m : EngagementManager) (l n : ℕ) :
    (m.setDropPlan l n).2.ident = m.ident := rfl

@[simp] theorem update_ident (m : EngagementManager) (now : ℚ) : (m.update now).ident = m.ident := by
  unfold update; split <;> rfl

@[simp] theorem update_launched (m : EngagementManager) (now : ℚ) :
    (m.update now).launched = m.launched := by
  unfold update; split <;> rfl

section Planning

variable [SGeodeticToST3D]

@[simp] theorem calculateEngagementPlan_ident (m : EngagementManager) :
    m.calculateEngagementPlan.2.ident = m.ident := by
  unfold calculateEngagementPlan calculateTrajectory
  split_ifs <;> first | rfl | split <;> rfl

@[simp] theorem setTargetPosition_ident (m : EngagementManager) (p : SGeodeticPosition) :
    (m.setTargetPosition p).2.ident = m.ident :=
  calculateEngagementPlan_ident _

@[simp] theorem updateTargetInfo_ident (m : EngagementManager) (t : TargetTrack) :
    (m.updateTargetInfo t).ident = m.ident := by
  unfold updateTargetInfo; split
  · exact calculateEngagementPlan_ident _
  · rfl

@[simp] theorem updateWaypoints_ident (m : EngagementManager) (wps : List WeaponWaypoint) :
    (m.updateWaypoints wps).2.ident = m.ident := by
  unfold updateWaypoints; split
  · rfl
  · exact calculateEngagementPlan_ident _

@[simp] theorem updateDropPlanWaypoints_ident (m : EngagementManager) (wps : List WeaponWaypoint) :
    (m.updateDropPlanWaypoints wps).2.ident = m.ident := by
  unfold updateDropPlanWaypoints; split
  · rfl
  · exact calculateEngagementPlan_ident _

/-- A recomputation, and every call that ends in one, leaves `m_launched`. -/
@[simp] theorem calculateEngagementPlan_launched (m : EngagementManager) :
    m.calculateEngagementPlan.2.launched = m.launched := by
  unfold calculateEngagementPlan calculateTrajectory
  split_ifs <;> first | rfl | split <;> rfl

@[simp] theorem setTargetPosition_launched (m : EngagementManager) (p : SGeodeticPosition) :
    (m.setTargetPosition p).2.launched = m.launched :=
  calculateEngagementPlan_launched _

@[simp] theorem updateTargetInfo_launched (m : EngagementManager) (t : TargetTrack) :
    (m.updateTargetInfo t).launched = m.launched := by
  unfold updateTargetInfo; split
  · exact calculateEngagementPlan_launched _
  · rfl

@[simp] theorem updateWaypoints_launched (m : EngagementManager) (wps : List WeaponWaypoint) :
    (m.updateWaypoints wps).2.launched = m.launched := by
  unfold updateWaypoints; split
  · rfl
  · exact calculateEngagementPlan_launched _

@[simp] theorem updateDropPlanWaypoints_launched (m : EngagementManager) (wps : List WeaponWaypoint) :
    (m.updateDropPlanWaypoints wps).2.launched = m.launched := by
  unfold updateDropPlanWaypoints; split
  · rfl
  · exact calculateEngagementPlan_launched _

/-- Every concrete `calculateTrajectory` succeeds. -/
@[simp] theorem calculateTrajectory_fst (m : EngagementManager) :
    m.calculateTrajectory.1 = .success := by
  unfold calculateTrajectory; split <;> rfl

/-- **A recomputation fails exactly on a missile planner without a valid
target.** -/
theorem calculateEngagementPlan_success_iff (m : EngagementManager) :
    m.calculateEngagementPlan.1 = .success ↔ m.cls = .mine ∨ m.hasValidTarget = true := by
  unfold calculateEngagementPlan
  split_ifs <;> simp_all

/-- A failed recomputation leaves the plan invalid. -/
theorem calculateEngagementPlan_invalid_of_failure (m : EngagementManager)
    (h : m.calculateEngagementPlan.1 ≠ .success) :
    m.calculateEngagementPlan.2.isEngagementPlanValid = false := by
  unfold calculateEngagementPlan at h ⊢
  split_ifs at h ⊢ <;> simp_all [isEngagementPlanValid]

end Planning

end EngagementManager

end WeaponControl
