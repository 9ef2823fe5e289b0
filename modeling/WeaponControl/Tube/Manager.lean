import WeaponControl.Tube.LaunchTube

/-!
# The tube manager: `LaunchTubeManager` (`Core/Service/WeaponControlService.h`)

The manager owns the tubes `m_launchTubes[minTubeNumber..maxTubeNumber]`, the
environment it pushes to a newly assigned tube, and the assignment-change
callback.  It builds each weapon and planner pair with the `WeaponFactory` of
`unnamed/part_001`.

`m_launchTubes` is a function from the index: `none` is a null pointer, and
before `initialize()` every index is null (the code would index an empty
vector there).  The forwarding callbacks `onTube...` are installed on every
tube by `initialize()`; what they forward is what the tube logs.  The
exception branch of `initialize()` (an allocation failure) is left out.

Calls run one at a time here; `Tube.Race` interleaves two of them.
-/

namespace WeaponControl

/-! ### The factory -/

/-- The planner class `WeaponFactory::registerDefaultCreators` registers for a
kind. -/
def plannerClassOf : WpnKind → Option PlannerClass
  | .ALM => some .alm
  | .ASM => some .asm
  | .AAM => some .aam
  | .M_MINE => some .mine
  | _ => none

/-- `WeaponFactory::createWeapon`: the four registered kinds, each reading the
configured `DefaultLaunchDelay` and taking three one-second steps. -/
def createWeapon (kind : WpnKind) (launchDelay : ℚ) : Option Weapon :=
  match kind with
  | .ALM | .ASM | .AAM | .M_MINE => some (Weapon.create kind launchDelay)
  | _ => none

/-- `WeaponFactory::createEngagementManager`, the planner built at time `now`. -/
def createEngagementManager (kind : WpnKind) (now : ℚ) : Option EngagementManager :=
  (plannerClassOf kind).map (EngagementManager.create · now)

/-- `LaunchTubeManager::createWeaponAndManager`. -/
def createWeaponAndManager (kind : WpnKind) (launchDelay now : ℚ) :
    Except String (Weapon × EngagementManager) :=
  match createWeapon kind launchDelay, createEngagementManager kind now with
  | none, _ => .error "Failed to create weapon"
  | some _, none => .error "Failed to create engagement manager"
  | some w, some m => .ok (w, m)

/-- The `LaunchTubeManager` object. -/
structure LaunchTubeManager where
  launchTubes : ℕ → Option LaunchTube
  maxTubes : ℕ
  minTubeNumber : ℕ
  maxTubeNumber : ℕ
  axisCenter : GeoPoint2D
  ownShipInfo : NavInfo
  targetInfoMap : ℕ → Option TargetTrack
  assignmentChangeCallback : Bool
  /-- The calls `m_assignmentChangeCallback(tubeNumber, weaponKind, assigned)`. -/
  assignmentChanges : List (ℕ × WpnKind × Bool)
  initialized : Bool

namespace LaunchTubeManager

/-- `LaunchTubeManager(maxTubes)`: `0` stands for the configured
`System.MaxLaunchTubes`; tubes are numbered from 1. -/
def create (maxTubes configMaxTubes : ℕ) : LaunchTubeManager :=
  { launchTubes := fun _ => none,
    maxTubes := if maxTubes = 0 then configMaxTubes else maxTubes, minTubeNumber := 1,
    maxTubeNumber := if maxTubes = 0 then configMaxTubes else maxTubes,
    axisCenter := {}, ownShipInfo := {}, targetInfoMap := fun _ => none,
    assignmentChangeCallback := false, assignmentChanges := [], initialized := false }

/-- The tube `initialize()` builds for number `i`, with the three forwarding
callbacks installed. -/
def newTube (i : ℕ) : LaunchTube := (LaunchTube.create i).setCallbacks true true true

/-- `initialize()`: a fresh tube at every valid number; a second call does
nothing. -/
def init (mgr : LaunchTubeManager) : Result × LaunchTubeManager :=
  if mgr.initialized then (.success, mgr)
  else
    (.success,
      { mgr with
        launchTubes := fun i =>
          if mgr.minTubeNumber ≤ i ∧ i ≤ mgr.maxTubeNumber then some (newTube i) else mgr.launchTubes i,
        initialized := true })

/-- `isValidTubeNumber`. -/
def isValidTubeNumber (mgr : LaunchTubeManager) (n : ℕ) : Bool :=
  mgr.minTubeNumber ≤ n ∧ n ≤ mgr.maxTubeNumber

/-- `getValidatedTube`. -/
def getValidatedTube (mgr : LaunchTubeManager) (n : ℕ) : Option LaunchTube :=
  if mgr.isValidTubeNumber n then mgr.launchTubes n else none

/-- Write a tube object back after a call on it. -/
def setTube (mgr : LaunchTubeManager) (i : ℕ) (t : LaunchTube) : LaunchTubeManager :=
  { mgr with launchTubes := Function.update mgr.launchTubes i (some t) }

/-- `getAssignedTubes()`: the numbers of the valid tubes holding a weapon, in
order. -/
def assignedTubes (mgr : LaunchTubeManager) : List ℕ :=
  (List.range' mgr.minTubeNumber (mgr.maxTubeNumber + 1 - mgr.minTubeNumber)).filter
    fun i => (mgr.launchTubes i).any LaunchTube.hasWeapon

/-- A loop `for (auto& tube : getAssignedTubes()) f(tube)` of a call without a
result. -/
def forAssigned (mgr : LaunchTubeManager) (f : LaunchTube → LaunchTube) : LaunchTubeManager :=
  mgr.assignedTubes.foldl
    (fun mgr i =>
      match mgr.launchTubes i with
      | some t => mgr.setTube i (f t)
      | none => mgr)
    mgr

/-- The loop of `requestAllWeaponStateChange` and `emergencyStop`: each
assigned tube in turn, with `allSuccess` and the text
`"Tube N: message; "` of every failure. -/
def callAssigned (mgr : LaunchTubeManager) (call : LaunchTube → Result × LaunchTube) :
    Bool × String × LaunchTubeManager :=
  mgr.assignedTubes.foldl
    (fun (acc : Bool × String × LaunchTubeManager) i =>
      match acc.2.2.launchTubes i with
      | none => acc
      | some t =>
        match call t with
        | (.success, t') => (acc.1, acc.2.1, acc.2.2.setTube i t')
        | (.failure e, t') =>
          (false, acc.2.1 ++ "Tube " ++ toString t.tubeNumber ++ ": " ++ e ++ "; ",
            acc.2.2.setTube i t'))
    (true, "", mgr)

/-- `shutdown()`: every assigned tube is cleared. -/
def shutdown (mgr : LaunchTubeManager) : LaunchTubeManager :=
  { mgr.forAssigned LaunchTube.clearAssignment with initialized := false }

/-- `setAssignmentChangeCallback`: set or cleared. -/
def setAssignmentChangeCallback (mgr : LaunchTubeManager) (set : Bool) : LaunchTubeManager :=
  { mgr with assignmentChangeCallback := set }

/-- A call of the assignment-change callback, when one is set. -/
def notifyAssignment (mgr : LaunchTubeManager) (n : ℕ) (kind : WpnKind) (assigned : Bool) :
    LaunchTubeManager :=
  if mgr.assignmentChangeCallback then
    { mgr with assignmentChanges := mgr.assignmentChanges ++ [(n, kind, assigned)] }
  else mgr

section Planning

variable [SGeodeticToST3D]

/-- The environment `assignWeapon` pushes to a newly assigned tube (lines
207-220): axis center, own ship, and the cached track of the assignment's
system target. -/
def pushEnvironment (mgr : LaunchTubeManager) (t : LaunchTube) (targetId : ℕ) : LaunchTube :=
  let t' := (t.setAxisCenter mgr.axisCenter).updateOwnShipInfo mgr.ownShipInfo
  if 0 < targetId then
    match mgr.targetInfoMap targetId with
    | some track => t'.updateTargetInfo track
    | none => t'
  else t'

/-- `assignWeapon(request)`: the weapon and planner come from the factory for
`request.weaponKind`, the tube gets `request.assignmentInfo`.  `launchDelay`
is the configured `DefaultLaunchDelay`, `now` the construction time of the
planner. -/
def assignWeapon (mgr : LaunchTubeManager) (req : WeaponAssignmentRequest) (launchDelay now : ℚ) :
    Result × LaunchTubeManager :=
  match mgr.getValidatedTube req.tubeNumber with
  | none => (.failure ("Invalid tube number: " ++ toString req.tubeNumber), mgr)
  | some tube =>
    if tube.hasWeapon then (.failure ("Tube " ++ toString req.tubeNumber ++ " already assigned"), mgr)
    else
      match createWeaponAndManager req.weaponKind launchDelay now with
      | .error e => (.failure ("Failed to create weapon: " ++ e), mgr)
      | .ok (w, m) =>
        match tube.assignWeapon (some w) (some m) req.assignmentInfo with
        | (.success, tube') =>
          (.success,
            (mgr.setTube req.tubeNumber
              (mgr.pushEnvironment tube' req.assignmentInfo.systemTargetId)).notifyAssignment
              req.tubeNumber req.weaponKind true)
        | (r, tube') => (r, mgr.setTube req.tubeNumber tube')

/-- `unassignWeapon(tubeNumber)`. -/
def unassignWeapon (mgr : LaunchTubeManager) (n : ℕ) : Result × LaunchTubeManager :=
  match mgr.getValidatedTube n with
  | none => (.failure ("Invalid tube number: " ++ toString n), mgr)
  | some tube =>
    match tube.weapon with
    | none => (.failure ("Tube " ++ toString n ++ " is not assigned"), mgr)
    | some w =>
      (.success, (mgr.setTube n tube.clearAssignment).notifyAssignment n w.weaponKind false)

/-- A call of a tube operation with a result on a validated tube. -/
def onTube (mgr : LaunchTubeManager) (n : ℕ) (call : LaunchTube → Result × LaunchTube) :
    Result × LaunchTubeManager :=
  match mgr.getValidatedTube n with
  | none => (.failure ("Invalid tube number: " ++ toString n), mgr)
  | some tube => let (r, tube') := call tube; (r, mgr.setTube n tube')

/-- `requestWeaponStateChange(request)`. -/
def requestWeaponStateChange (mgr : LaunchTubeManager) (n : ℕ) (newState : WpnCtrlState)
    (cancelled : Bool) : Result × LaunchTubeManager :=
  mgr.onTube n (·.requestWeaponStateChange newState cancelled)

/-- `requestAllWeaponStateChange(newState)`: each call gets a fresh token,
which nothing cancels. -/
def requestAllWeaponStateChange (mgr : LaunchTubeManager) (newState : WpnCtrlState) :
    Result × LaunchTubeManager :=
  match mgr.callAssigned (·.requestWeaponStateChange newState false) with
  | (true, _, mgr') => (.success, mgr')
  | (false, errors, mgr') => (.failure ("Some state changes failed: " ++ errors), mgr')

/-- The request `emergencyStop()` sends one tube: `ABORT` with a cancelled
token while launching, `OFF` otherwise. -/
def emergencyRequest (t : LaunchTube) : Result × LaunchTube :=
  if t.getWeaponState = .LAUNCH then t.requestWeaponStateChange .ABORT true
  else t.requestWeaponStateChange .OFF false

/-- `emergencyStop()`. -/
def emergencyStop (mgr : LaunchTubeManager) : Result × LaunchTubeManager :=
  match mgr.callAssigned emergencyRequest with
  | (true, _, mgr') => (.success, mgr')
  | (false, errors, mgr') => (.failure ("Emergency stop partially failed: " ++ errors), mgr')

/-- `updateOwnShipInfo`: cached, then pushed to every assigned tube. -/
def updateOwnShipInfo (mgr : LaunchTubeManager) (n : NavInfo) : LaunchTubeManager :=
  { mgr with ownShipInfo := n }.forAssigned (·.updateOwnShipInfo n)

/-- `updateTargetInfo`: cached under its id, then pushed to every assigned
tube. -/
def updateTargetInfo (mgr : LaunchTubeManager) (track : TargetTrack) : LaunchTubeManager :=
  { mgr with targetInfoMap := Function.update mgr.targetInfoMap track.unTargetSystemID (some track) }
    |>.forAssigned (·.updateTargetInfo track)

/-- `setAxisCenter`: cached, then pushed to every assigned tube. -/
def setAxisCenter (mgr : LaunchTubeManager) (c : GeoPoint2D) : LaunchTubeManager :=
  { mgr with axisCenter := c }.forAssigned (·.setAxisCenter c)

/-- `updateWaypoints(request)`. -/
def updateWaypoints (mgr : LaunchTubeManager) (n : ℕ) (wps : List WeaponWaypoint) :
    Result × LaunchTubeManager :=
  mgr.onTube n (·.updateWaypoints wps)

/-- `calculateEngagementPlan(tubeNumber)`. -/
def calculateEngagementPlan (mgr : LaunchTubeManager) (n : ℕ) : Result × LaunchTubeManager :=
  mgr.onTube n LaunchTube.calculateEngagementPlan

/-- `calculateAllEngagementPlans()`. -/
def calculateAllEngagementPlans (mgr : LaunchTubeManager) : LaunchTubeManager :=
  mgr.forAssigned (·.calculateEngagementPlan.2)

/-- `update()` at time `now`. -/
def update (mgr : LaunchTubeManager) (now : ℚ) : LaunchTubeManager :=
  mgr.forAssigned (·.update now)

end Planning

end LaunchTubeManager

/-- The public operations of the tube manager that change it, with their
arguments; a request's cancellation token is `cancelled`, whether the weapon's
polls see it set. -/
inductive ManagerOp where
  | init
  | shutdown
  | assignWeapon (req : WeaponAssignmentRequest) (launchDelay now : ℚ)
  | unassignWeapon (n : ℕ)
  | requestWeaponStateChange (n : ℕ) (newState : WpnCtrlState) (cancelled : Bool)
  | requestAllWeaponStateChange (newState : WpnCtrlState)
  | emergencyStop
  | updateOwnShipInfo (n : NavInfo)
  | updateTargetInfo (track : TargetTrack)
  | setAxisCenter (c : GeoPoint2D)
  | updateWaypoints (n : ℕ) (wps : List WeaponWaypoint)
  | calculateEngagementPlan (n : ℕ)
  | calculateAllEngagementPlans
  | update (now : ℚ)
  | setAssignmentChangeCallback (set : Bool)

namespace LaunchTubeManager

variable [SGeodeticToST3D]

/-- The manager after one operation. -/
def apply (mgr : LaunchTubeManager) : ManagerOp → LaunchTubeManager
  | .init => mgr.init.2
  | .shutdown => mgr.shutdown
  | .assignWeapon req d now => (mgr.assignWeapon req d now).2
  | .unassignWeapon n => (mgr.unassignWeapon n).2
  | .requestWeaponStateChange n s c => (mgr.requestWeaponStateChange n s c).2
  | .requestAllWeaponStateChange s => (mgr.requestAllWeaponStateChange s).2
  | .emergencyStop => mgr.emergencyStop.2
  | .updateOwnShipInfo n => mgr.updateOwnShipInfo n
  | .updateTargetInfo track => mgr.updateTargetInfo track
  | .setAxisCenter c => mgr.setAxisCenter c
  | .updateWaypoints n wps => (mgr.updateWaypoints n wps).2
  | .calculateEngagementPlan n => (mgr.calculateEngagementPlan n).2
  | .calculateAllEngagementPlans => mgr.calculateAllEngagementPlans
  | .update now => mgr.update now
  | .setAssignmentChangeCallback b => mgr.setAssignmentChangeCallback b

/-- The manager after a sequence of operations. -/
def run (mgr : LaunchTubeManager) (ops : List ManagerOp) : LaunchTubeManager :=
  ops.foldl apply mgr

end LaunchTubeManager

end WeaponControl
