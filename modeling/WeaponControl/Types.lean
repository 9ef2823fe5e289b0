import Mathlib.Algebra.Order.Ring.Rat

/-!
# The shared vocabulary: `Common/Types/CommonTypes.h`

The weapon kinds and control states, the assignment record a tube keeps for the
length of one assignment, and the engagement-plan result the planners fill in.
`Result<void>` is `Result`, its failure carrying the message text the source
builds.

Coordinates (`double` latitude and longitude, `float` depth and altitude) are
exact rationals: rounding is not modelled, NaN and the infinities are not
modelled (a NaN coordinate, which every comparison of `validatePosition`
lets through, cannot be built), and every comparison the code makes on them
stays decidable.  The DDS types come from
`dds_message/AIEP_AIEP_.hpp`, which is not in the repository; each is given the
fields the code reads or writes and nothing else.
-/

namespace WeaponControl

/-- `EN_WPN_KIND`: three missiles, the self-propelled mine, the `WGT`
placeholder and `NA`. -/
inductive WpnKind where
  | NA | ALM | ASM | AAM | WGT | M_MINE
  deriving DecidableEq, Repr

/-- `EN_WPN_CTRL_STATE`, in the order of `StateToString`. -/
inductive WpnCtrlState where
  | OFF | POC | ON | RTL | LAUNCH | POST_LAUNCH | ABORT
  deriving DecidableEq, Repr

/-- `Result<void>`: success, or failure with the message the code builds. -/
inductive Result where
  | success
  | failure (message : String)
  deriving DecidableEq, Repr

/-- `Result<void>::isSuccess`. -/
def Result.isSuccess : Result → Bool
  | .success => true
  | .failure _ => false

@[simp] theorem Result.isSuccess_success : Result.success.isSuccess = true := rfl
@[simp] theorem Result.isSuccess_failure (m : String) : (Result.failure m).isSuccess = false := rfl

/-- `SGEODETIC_POSITION`: a target point, altitude up. -/
structure SGeodeticPosition where
  dLatitude : ℚ := 0
  dLongitude : ℚ := 0
  fAltitude : ℚ := 0
  deriving DecidableEq, Repr

/-- `ST_3D_GEODETIC_POSITION`: a trajectory point, depth down. -/
structure ST3DGeodeticPosition where
  dLatitude : ℚ := 0
  dLongitude : ℚ := 0
  fDepth : ℚ := 0
  deriving DecidableEq, Repr

/-- `ST_WEAPON_WAYPOINT`: a waypoint, depth down. -/
structure WeaponWaypoint where
  dLatitude : ℚ := 0
  dLongitude : ℚ := 0
  fDepth : ℚ := 0
  deriving DecidableEq, Repr

/-- `ST_M_MINE_PLAN_INFO`: a drop plan, with its eight waypoint slots. -/
structure MinePlanInfo where
  sListID : ℕ := 0
  usDroppingPlanNumber : ℕ := 0
  stLaunchPos : WeaponWaypoint := {}
  stDropPos : WeaponWaypoint := {}
  usWaypointCnt : ℕ := 0
  stWaypoint : Fin 8 → WeaponWaypoint := fun _ => {}

/-- The field copy `pos.dLatitude() = waypoint.dLatitude(); ...` that both
`calculateTrajectory` of the mine and `getMissileEngagementResult` write out. -/
def WeaponWaypoint.toGeodetic (w : WeaponWaypoint) : ST3DGeodeticPosition :=
  { dLatitude := w.dLatitude, dLongitude := w.dLongitude, fDepth := w.fDepth }

/-- `GEO_POINT_2D`, the axis center, `{0.0, 0.0}` by default. -/
structure GeoPoint2D where
  dLatitude : ℚ := 0
  dLongitude : ℚ := 0
  deriving DecidableEq, Repr

/-- `NAVINF_SHIP_NAVIGATION_INFO`: stored and forwarded, never read, so only its
identity as a value matters. -/
structure NavInfo where
  fields : List ℚ := []
  deriving DecidableEq, Repr

/-- `TRKMGR_SYSTEMTARGET_INFO`: the fields `updateTargetInfo` reads. -/
structure TargetTrack where
  unTargetSystemID : ℕ
  stGeodeticPosition : ST3DGeodeticPosition
  deriving DecidableEq, Repr

/-- `AssignmentInfo`; the defaults are those of its constructor. -/
structure AssignmentInfo where
  tubeNumber : ℕ := 0
  weaponKind : WpnKind := .NA
  systemTargetId : ℕ := 0
  targetPos : SGeodeticPosition := {}
  dropPlanListNumber : ℕ := 0
  dropPlanNumber : ℕ := 0
  deriving DecidableEq, Repr

/-- `EngagementPlanResult`, without the `waypoints` vector that nothing writes. -/
structure EngagementPlanResult where
  tubeNumber : ℕ := 0
  weaponKind : WpnKind := .NA
  isValid : Bool := false
  totalTime_sec : ℚ := 0
  timeToTarget_sec : ℚ := 0
  nextWaypointIndex : ℕ := 0
  timeToNextWaypoint_sec : ℚ := 0
  trajectory : List ST3DGeodeticPosition := []
  currentPosition : ST3DGeodeticPosition := {}
  launchPosition : ST3DGeodeticPosition := {}
  targetPosition : ST3DGeodeticPosition := {}
  deriving DecidableEq, Repr

/-- `WeaponAssignmentRequest`: the kind travels twice, once beside the
assignment record and once inside it. -/
structure WeaponAssignmentRequest where
  tubeNumber : ℕ
  weaponKind : WpnKind
  assignmentInfo : AssignmentInfo
  deriving DecidableEq, Repr

/-- `WeaponKindToString`. -/
def weaponKindToString : WpnKind → String
  | .ALM => "ALM"
  | .ASM => "ASM"
  | .AAM => "AAM"
  | .WGT => "WGT"
  | .M_MINE => "MINE"
  | .NA => "NA"

/-- `StateToString`. -/
def stateToString : WpnCtrlState → String
  | .OFF => "OFF"
  | .POC => "POC"
  | .ON => "ON"
  | .RTL => "RTL"
  | .LAUNCH => "LAUNCH"
  | .POST_LAUNCH => "POST_LAUNCH"
  | .ABORT => "ABORT"

end WeaponControl
