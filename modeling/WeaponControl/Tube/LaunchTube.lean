import WeaponControl.Weapon.Sequential
import WeaponControl.Engagement.Manager

/-!
# A launch tube: `Core/LaunchTube/LaunchTube.h`

The tube owns at most one weapon and one planner, the assignment record, and
the three callbacks the tube manager installs.  Each callback is a flag saying
whether it is set, and the calls made to it are logged in order, so that a
statement about what a callback received is a statement about a list.

The tube observes its weapon.  A weapon call (`Weapon.requestStateChange`,
`Weapon.update`) returns the notifications it sent, and `LaunchTube.deliver`
hands each of them to `onStateChanged` / `onLaunchStatusChanged` once per
registration of this tube among the weapon's observers.

Two simplifications, both about code that cannot run:
* `WeaponBase::initialize` and `EngagementManagerBase::initialize` always
  return success, so the failure branches of `assignWeapon` after them
  (lines 147-150, 154-157) are left out.
* A weapon without a planner is never built (`LaunchTube.WellFormed`); the
  code would dereference a null planner there, and the model answers as for an
  empty tube.

`clearAssignment` resets the weapon and the planner and then drops them; no
other object holds them in this sequential model, so what remains visible is
the emptied tube.

Each operation comes with what it leaves alone: `shape` (what the consistency
of an assignment reads) for every operation but assignment and clearing, and
one lemma saying everything `calculateEngagementPlan`, the kind-specific setup
and `assignWeapon` can do.
-/

namespace WeaponControl

/-- The `LaunchTube` object, with its callbacks as flags and call logs. -/
structure LaunchTube where
  tubeNumber : ℕ
  weapon : Option Weapon
  engagementMgr : Option EngagementManager
  assignmentInfo : AssignmentInfo
  stateChangeCallback : Bool
  launchStatusCallback : Bool
  engagementPlanCallback : Bool
  lastEngagementResult : EngagementPlanResult
  /-- The calls `m_stateChangeCallback(tubeNumber, oldState, newState)`. -/
  stateChanges : List (ℕ × WpnCtrlState × WpnCtrlState)
  /-- The calls `m_launchStatusCallback(tubeNumber, launched)`. -/
  launchStatusChanges : List (ℕ × Bool)
  /-- The calls `m_engagementPlanCallback(m_tubeNumber, currentResult)`. -/
  planUpdates : List (ℕ × EngagementPlanResult)

namespace LaunchTube

/-- `LaunchTube(tubeNumber)`: empty, with no callback set. -/
def create (n : ℕ) : LaunchTube :=
  { tubeNumber := n, weapon := none, engagementMgr := none, assignmentInfo := {},
    stateChangeCallback := false, launchStatusCallback := false, engagementPlanCallback := false,
    lastEngagementResult := {}, stateChanges := [], launchStatusChanges := [], planUpdates := [] }

/-- `hasWeapon()`: `m_weapon != nullptr`. -/
def hasWeapon (t : LaunchTube) : Bool := t.weapon.isSome

/-- The failure `"No weapon assigned to tube N"`. -/
def noWeaponAssigned (t : LaunchTube) : Result :=
  .failure ("No weapon assigned to tube " ++ toString t.tubeNumber)

/-- `dynamic_pointer_cast<IMineEngagementManager>(m_engagementMgr)`. -/
def mineManager (t : LaunchTube) : Option EngagementManager :=
  t.engagementMgr.filter EngagementManager.isMine

/-- `dynamic_pointer_cast<IMissileEngagementManager>(m_engagementMgr)`. -/
def missileManager (t : LaunchTube) : Option EngagementManager :=
  t.engagementMgr.filter fun m => !m.isMine

/-- Store a planner back after one of its calls. -/
def withManager (t : LaunchTube) (m : EngagementManager) : LaunchTube :=
  { t with engagementMgr := some m }

/-- The three `set...Callback` setters: set (`true`) or cleared. -/
def setCallbacks (t : LaunchTube) (stateChange launchStatus engagementPlan : Bool) : LaunchTube :=
  { t with
    stateChangeCallback := stateChange, launchStatusCallback := launchStatus,
    engagementPlanCallback := engagementPlan }

/-- `onStateChanged` and `onLaunchStatusChanged`, for a notification sent by
the weapon of tube `src`. -/
def receive (t : LaunchTube) (src : ℕ) : Note → LaunchTube
  | .stateChanged o n =>
    if src ≠ t.tubeNumber then t
    else if t.stateChangeCallback then { t with stateChanges := t.stateChanges ++ [(src, o, n)] }
    else t
  | .launchStatus b =>
    if src ≠ t.tubeNumber then t
    else
      let t' := if b then { t with engagementMgr := t.engagementMgr.map (·.setLaunched true) } else t
      if t.launchStatusCallback then
        { t' with launchStatusChanges := t.launchStatusChanges ++ [(src, b)] }
      else t'

/-- The observer loops of `notifyStateChanged` / `notifyLaunchStatusChanged`:
every notification goes to every registered observer, and this tube reacts
once for each registration of its own number. -/
def deliver (t : LaunchTube) (w : Weapon) (ns : List Note) : LaunchTube :=
  ns.foldl (fun t n => w.observers.foldl
    (fun t o => if o = t.tubeNumber then t.receive w.tubeNumber n else t) t) t

/-- Store the weapon back after one of its calls and deliver what it sent. -/
def withWeapon (t : LaunchTube) (w : Weapon) (ns : List Note) : LaunchTube :=
  { t with weapon := some w }.deliver w ns

/-- `setupMineSpecificAssignment()`: a mine planner is required; both plan
numbers nonzero hand the drop plan to it, otherwise nothing is set. -/
def setupMineSpecificAssignment (t : LaunchTube) : Result × LaunchTube :=
  match t.mineManager with
  | none => (.failure "Invalid mine engagement manager", t)
  | some m =>
    if 0 < t.assignmentInfo.dropPlanListNumber ∧ 0 < t.assignmentInfo.dropPlanNumber then
      let (r, m') := m.setDropPlan t.assignmentInfo.dropPlanListNumber t.assignmentInfo.dropPlanNumber
      (r, t.withManager m')
    else (.success, t)

/-- `clearAssignment()`. -/
def clearAssignment (t : LaunchTube) : LaunchTube :=
  { t with weapon := none, engagementMgr := none, assignmentInfo := {} }

/-- `updateOwnShipInfo`. -/
def updateOwnShipInfo (t : LaunchTube) (n : NavInfo) : LaunchTube :=
  { t with engagementMgr := t.engagementMgr.map (·.updateOwnShipInfo n) }

/-- `setAxisCenter`. -/
def setAxisCenter (t : LaunchTube) (c : GeoPoint2D) : LaunchTube :=
  { t with engagementMgr := t.engagementMgr.map (·.setAxisCenter c) }

/-- `requestWeaponStateChange(newState, token)`; `cancelled` says whether the
weapon's polls see the token set (`Weapon.requestStateChange`). -/
def requestWeaponStateChange (t : LaunchTube) (newState : WpnCtrlState) (cancelled : Bool) :
    Result × LaunchTube :=
  match t.weapon with
  | none => (t.noWeaponAssigned, t)
  | some w =>
    let (r, w', ns) := w.requestStateChange newState cancelled
    (r, t.withWeapon w' ns)

/-- `getWeaponState()`. -/
def getWeaponState (t : LaunchTube) : WpnCtrlState :=
  match t.weapon with
  | none => .OFF
  | some w => w.currentState

/-- `isLaunched()`. -/
def isLaunched (t : LaunchTube) : Bool :=
  match t.weapon with
  | none => false
  | some w => w.launched

/-- `getEngagementResult()`: the planner's result, or an empty one naming the
tube. -/
def getEngagementResult (t : LaunchTube) : EngagementPlanResult :=
  match t.weapon, t.engagementMgr with
  | some _, some m => m.engagementResult
  | _, _ => { tubeNumber := t.tubeNumber }

/-- `isEngagementPlanValid()`. -/
def isEngagementPlanValid (t : LaunchTube) : Bool :=
  match t.weapon, t.engagementMgr with
  | some _, some m => m.isEngagementPlanValid
  | _, _ => false

/-- The three fields `notifyEngagementPlanChange` compares. -/
def SameSummary (r r' : EngagementPlanResult) : Prop :=
  r.isValid = r'.isValid ∧ r.totalTime_sec = r'.totalTime_sec ∧
    r.trajectory.length = r'.trajectory.length

instance (r r' : EngagementPlanResult) : Decidable (SameSummary r r') :=
  inferInstanceAs (Decidable (_ ∧ _))

/-- `notifyEngagementPlanChange()`: on a change of validity, total time or
trajectory length, and only with a callback set, the callback gets the result
and `m_lastEngagementResult` takes it. -/
def notifyEngagementPlanChange (t : LaunchTube) : LaunchTube :=
  if ¬ SameSummary t.getEngagementResult t.lastEngagementResult ∧ t.engagementPlanCallback then
    { t with
      planUpdates := t.planUpdates ++ [(t.tubeNumber, t.getEngagementResult)],
      lastEngagementResult := t.getEngagementResult }
  else t

/-- The first two steps of `update()` on a tube holding `w`: the weapon's
automatic transitions, delivered to the tube, then the planner's position
update. -/
def advance (t : LaunchTube) (w : Weapon) (now : ℚ) : LaunchTube :=
  let t₁ := t.withWeapon w.update.1 w.update.2
  { t₁ with engagementMgr := t₁.engagementMgr.map (·.update now) }

section Planning

variable [SGeodeticToST3D]

/-- `setupMissileSpecificAssignment()`: a missile planner is required; a
system target id wins over the direct position. -/
def setupMissileSpecificAssignment (t : LaunchTube) : Result × LaunchTube :=
  match t.missileManager with
  | none => (.failure "Invalid missile engagement manager", t)
  | some m =>
    let (r, m') :=
      if 0 < t.assignmentInfo.systemTargetId then m.setSystemTarget t.assignmentInfo.systemTargetId
      else m.setTargetPosition t.assignmentInfo.targetPos
    (r, t.withManager m')

/-- The dispatch on the assignment's kind that `assignWeapon` (lines 164-168)
and `updateAssignmentInfo` (lines 206-210) both write. -/
def setupSpecificAssignment (t : LaunchTube) : Result × LaunchTube :=
  if t.assignmentInfo.weaponKind = .M_MINE then t.setupMineSpecificAssignment
  else t.setupMissileSpecificAssignment

/-- The tube once `assignWeapon` has installed and initialized the pair and
registered itself (lines 141-160). -/
def install (t : LaunchTube) (w : Weapon) (m : EngagementManager) (info : AssignmentInfo) :
    LaunchTube :=
  { t with
    weapon := some ((w.init t.tubeNumber).addStateObserver t.tubeNumber),
    engagementMgr := some (m.init t.tubeNumber info.weaponKind).2,
    assignmentInfo := info }

/-- `assignWeapon(weapon, engagementMgr, assignmentInfo)`: install, then the
kind-specific setup, which on failure empties the tube again. -/
def assignWeapon (t : LaunchTube) (weapon : Option Weapon)
    (engagementMgr : Option EngagementManager) (info : AssignmentInfo) : Result × LaunchTube :=
  match weapon, engagementMgr with
  | some w, some m =>
    if t.hasWeapon then
      (.failure ("Tube " ++ toString t.tubeNumber ++ " already has assigned weapon"), t)
    else if info.tubeNumber ≠ t.tubeNumber then (.failure "Assignment info tube number mismatch", t)
    else
      match (t.install w m info).setupSpecificAssignment with
      | (.success, t₂) => (.success, t₂)
      | (r, t₂) => (r, t₂.clearAssignment)
  | _, _ => (.failure "Invalid weapon or engagement manager", t)

/-- `updateAssignmentInfo(info)`: the record is replaced first, then the
kind-specific setup runs; a failed setup does not restore the old record. -/
def updateAssignmentInfo (t : LaunchTube) (info : AssignmentInfo) : Result × LaunchTube :=
  if !t.hasWeapon then (t.noWeaponAssigned, t)
  else { t with assignmentInfo := info }.setupSpecificAssignment

/-- `updateTargetInfo`: missile planners only. -/
def updateTargetInfo (t : LaunchTube) (track : TargetTrack) : LaunchTube :=
  match t.missileManager with
  | some m => t.withManager (m.updateTargetInfo track)
  | none => t

/-- `updateWaypoints(waypoints)`: the assignment's kind picks the planner
interface, and a planner of the other class is refused. -/
def updateWaypoints (t : LaunchTube) (wps : List WeaponWaypoint) : Result × LaunchTube :=
  if !t.hasWeapon then (t.noWeaponAssigned, t)
  else if t.assignmentInfo.weaponKind = .M_MINE then
    match t.mineManager with
    | some m => let (r, m') := m.updateDropPlanWaypoints wps; (r, t.withManager m')
    | none => (.failure "Failed to update waypoints", t)
  else
    match t.missileManager with
    | some m => let (r, m') := m.updateWaypoints wps; (r, t.withManager m')
    | none => (.failure "Failed to update waypoints", t)

/-- `calculateEngagementPlan()`: the planner recomputes; only on success is
its validity pushed to the weapon's fire solution and the change notified. -/
def calculateEngagementPlan (t : LaunchTube) : Result × LaunchTube :=
  match t.weapon, t.engagementMgr with
  | some w, some m =>
    let (r, m') := m.calculateEngagementPlan
    if r.isSuccess then
      (r, { t with
            weapon := some (w.setFireSolutionReady m'.isEngagementPlanValid),
            engagementMgr := some m' }.notifyEngagementPlanChange)
    else (r, t.withManager m')
  | _, _ => (t.noWeaponAssigned, t)

/-- `update()` at time `now`: `advance`, then, before launch, a
recomputation. -/
def update (t : LaunchTube) (now : ℚ) : LaunchTube :=
  match t.weapon with
  | none => t
  | some w =>
    let t₂ := t.advance w now
    if t₂.isLaunched then t₂ else t₂.calculateEngagementPlan.2

end Planning

/-- The public operations of a tube that change it, with their arguments; the
weapon and the planner of an assignment are passed in, as the tube manager
passes what the factory built. -/
inductive TubeOp where
  | setCallbacks (stateChange launchStatus engagementPlan : Bool)
  | assignWeapon (weapon : Option Weapon) (engagementMgr : Option EngagementManager)
      (info : AssignmentInfo)
  | clearAssignment
  | updateAssignmentInfo (info : AssignmentInfo)
  | updateOwnShipInfo (n : NavInfo)
  | updateTargetInfo (track : TargetTrack)
  | setAxisCenter (c : GeoPoint2D)
  | requestWeaponStateChange (newState : WpnCtrlState) (cancelled : Bool)
  | updateWaypoints (wps : List WeaponWaypoint)
  | calculateEngagementPlan
  | update (now : ℚ)

section Planning

variable [SGeodeticToST3D]

/-- The tube after one operation. -/
def apply (t : LaunchTube) : TubeOp → LaunchTube
  | .setCallbacks a b c => t.setCallbacks a b c
  | .assignWeapon w m info => (t.assignWeapon w m info).2
  | .clearAssignment => t.clearAssignment
  | .updateAssignmentInfo info => (t.updateAssignmentInfo info).2
  | .updateOwnShipInfo n => t.updateOwnShipInfo n
  | .updateTargetInfo track => t.updateTargetInfo track
  | .setAxisCenter c => t.setAxisCenter c
  | .requestWeaponStateChange s c => (t.requestWeaponStateChange s c).2
  | .updateWaypoints wps => (t.updateWaypoints wps).2
  | .calculateEngagementPlan => t.calculateEngagementPlan.2
  | .update now => t.update now

/-- The tube after a sequence of operations. -/
def run (t : LaunchTube) (ops : List TubeOp) : LaunchTube := ops.foldl apply t

end Planning

/-! ### What the operations leave alone -/

/-- What the consistency of an assignment reads: the tube's number, the
weapon's tube and kind, the planner's class, tube and kind, and the record. -/
def shape (t : LaunchTube) :
    ℕ × Option (ℕ × WpnKind) × Option (PlannerClass × ℕ × WpnKind) × AssignmentInfo :=
  (t.tubeNumber, t.weapon.map fun w => (w.tubeNumber, w.weaponKind),
    t.engagementMgr.map EngagementManager.ident, t.assignmentInfo)

/-- What a recomputation decides on: the planner's class, and whether its
target is valid. -/
def plannerReadiness (t : LaunchTube) : Option (PlannerClass × Bool) :=
  t.engagementMgr.map fun m => (m.cls, m.hasValidTarget)

theorem mineManager_eq_some {t : LaunchTube} {m : EngagementManager} :
    t.mineManager = some m ↔ t.engagementMgr = some m ∧ m.cls = .mine := by
  simp [mineManager, EngagementManager.isMine, eq_comm]

theorem missileManager_eq_some {t : LaunchTube} {m : EngagementManager} :
    t.missileManager = some m ↔ t.engagementMgr = some m ∧ m.cls ≠ .mine := by
  rw [missileManager, Option.filter_eq_some, Option.mem_def]
  simp [EngagementManager.isMine]

/-- Whatever every notification keeps, the delivery of a whole call keeps. -/
theorem deliver_induction (P : LaunchTube → Prop) (hP : ∀ t src n, P t → P (t.receive src n))
    {t : LaunchTube} (ht : P t) (w : Weapon) (ns : List Note) : P (t.deliver w ns) :=
  List.foldlRecOn ns _ t ht fun t' ht' _ _ =>
    List.foldlRecOn w.observers _ t' ht' fun t'' ht'' _ _ => by
      split
      · exact hP _ _ _ ht''
      · exact ht''

theorem deliver_eq_of_receive {α : Type} (f : LaunchTube → α)
    (hf : ∀ t src n, f (t.receive src n) = f t) (t : LaunchTube) (w : Weapon) (ns : List Note) :
    f (t.deliver w ns) = f t :=
  deliver_induction (fun t' => f t' = f t) (fun _ _ _ h => (hf _ _ _).trans h) rfl w ns

@[simp] theorem receive_shape (t : LaunchTube) (src : ℕ) (n : Note) :
    (t.receive src n).shape = t.shape := by
  cases n <;> simp only [receive] <;> split_ifs <;> simp [shape, Option.map_map, Function.comp_def]

@[simp] theorem receive_weapon (t : LaunchTube) (src : ℕ) (n : Note) :
    (t.receive src n).weapon = t.weapon := by
  cases n <;> simp only [receive] <;> split_ifs <;> rfl

@[simp] theorem receive_plannerReadiness (t : LaunchTube) (src : ℕ) (n : Note) :
    (t.receive src n).plannerReadiness = t.plannerReadiness := by
  cases n <;> simp only [receive] <;> split_ifs <;>
    simp [plannerReadiness, Option.map_map, Function.comp_def, EngagementManager.setLaunched]

@[simp] theorem deliver_shape (t : LaunchTube) (w : Weapon) (ns : List Note) :
    (t.deliver w ns).shape = t.shape :=
  deliver_eq_of_receive shape receive_shape t w ns

@[simp] theorem deliver_weapon (t : LaunchTube) (w : Weapon) (ns : List Note) :
    (t.deliver w ns).weapon = t.weapon :=
  deliver_eq_of_receive LaunchTube.weapon receive_weapon t w ns

@[simp] theorem deliver_plannerReadiness (t : LaunchTube) (w : Weapon) (ns : List Note) :
    (t.deliver w ns).plannerReadiness = t.plannerReadiness :=
  deliver_eq_of_receive plannerReadiness receive_plannerReadiness t w ns

@[simp] theorem setCallbacks_shape (t : LaunchTube) (a b c : Bool) :
    (t.setCallbacks a b c).shape = t.shape := rfl

@[simp] theorem updateOwnShipInfo_shape (t : LaunchTube) (n : NavInfo) :
    (t.updateOwnShipInfo n).shape = t.shape := by
  simp [updateOwnShipInfo, shape, Option.map_map, Function.comp_def]

@[simp] theorem setAxisCenter_shape (t : LaunchTube) (c : GeoPoint2D) :
    (t.setAxisCenter c).shape = t.shape := by
  simp [setAxisCenter, shape, Option.map_map, Function.comp_def]

@[simp] theorem updateOwnShipInfo_weapon (t : LaunchTube) (n : NavInfo) :
    (t.updateOwnShipInfo n).weapon = t.weapon := rfl

@[simp] theorem setAxisCenter_weapon (t : LaunchTube) (c : GeoPoint2D) :
    (t.setAxisCenter c).weapon = t.weapon := rfl

@[simp] theorem updateOwnShipInfo_assignmentInfo (t : LaunchTube) (n : NavInfo) :
    (t.updateOwnShipInfo n).assignmentInfo = t.assignmentInfo := rfl

@[simp] theorem setAxisCenter_assignmentInfo (t : LaunchTube) (c : GeoPoint2D) :
    (t.setAxisCenter c).assignmentInfo = t.assignmentInfo := rfl

@[simp] theorem requestWeaponStateChange_shape (t : LaunchTube) (s : WpnCtrlState) (c : Bool) :
    (t.requestWeaponStateChange s c).2.shape = t.shape := by
  unfold requestWeaponStateChange
  split
  · rfl
  · rename_i w hw
    obtain ⟨hk, hn, -, -⟩ := w.requestStateChange_frame s c
    rcases h : w.requestStateChange s c with ⟨r, w', ns⟩
    rw [h] at hk hn
    simp only at hk hn
    simp only [withWeapon, deliver_shape]
    simp [shape, hw, hk, hn]

@[simp] theorem notifyEngagementPlanChange_weapon (t : LaunchTube) :
    t.notifyEngagementPlanChange.weapon = t.weapon := by
  unfold notifyEngagementPlanChange; split_ifs <;> rfl

@[simp] theorem notifyEngagementPlanChange_engagementMgr (t : LaunchTube) :
    t.notifyEngagementPlanChange.engagementMgr = t.engagementMgr := by
  unfold notifyEngagementPlanChange; split_ifs <;> rfl

@[simp] theorem notifyEngagementPlanChange_engagementPlanCallback (t : LaunchTube) :
    t.notifyEngagementPlanChange.engagementPlanCallback = t.engagementPlanCallback := by
  unfold notifyEngagementPlanChange; split_ifs <;> rfl

@[simp] theorem notifyEngagementPlanChange_shape (t : LaunchTube) :
    t.notifyEngagementPlanChange.shape = t.shape := by
  unfold notifyEngagementPlanChange; split_ifs <;> rfl

theorem SameSummary.refl (r : EngagementPlanResult) : SameSummary r r := ⟨rfl, rfl, rfl⟩

theorem SameSummary.symm {r r' : EngagementPlanResult} (h : SameSummary r r') : SameSummary r' r :=
  ⟨h.1.symm, h.2.1.symm, h.2.2.symm⟩

/-- With a callback set, the last delivered result agrees with the current
one afterwards: either they agreed already, or the current one was just
delivered. -/
theorem notifyEngagementPlanChange_summary (t : LaunchTube) (hcb : t.engagementPlanCallback = true) :
    SameSummary t.notifyEngagementPlanChange.lastEngagementResult t.getEngagementResult := by
  unfold notifyEngagementPlanChange
  split_ifs with h
  · exact SameSummary.refl _
  · simp only [hcb, and_true, not_not] at h
    exact h.symm

theorem advance_shape (t : LaunchTube) (w : Weapon) (now : ℚ) (hw : t.weapon = some w) :
    (t.advance w now).shape = t.shape := by
  obtain ⟨hk, hn, -, -, -⟩ := w.update_frame
  have h := deliver_shape { t with weapon := some w.update.1 } w.update.1 w.update.2
  simp only [shape, advance, withWeapon, Option.map_map, Function.comp_def,
    EngagementManager.update_ident, Prod.mk.injEq] at h ⊢
  simp_all

theorem advance_plannerReadiness (t : LaunchTube) (w : Weapon) (now : ℚ) :
    (t.advance w now).plannerReadiness = t.plannerReadiness := by
  have h := deliver_plannerReadiness { t with weapon := some w.update.1 } w.update.1 w.update.2
  simp only [plannerReadiness, advance, withWeapon, Option.map_map, Function.comp_def] at h ⊢
  rw [← h]
  congr 1
  funext m
  simp only [EngagementManager.update]
  split <;> rfl

section Planning

variable [SGeodeticToST3D]

/-- **What `calculateEngagementPlan` can do**: on a tube with a weapon and a
planner, recompute and, on success only, push the validity and notify;
otherwise answer `"No weapon assigned"` and change nothing. -/
theorem calculateEngagementPlan_cases (t : LaunchTube) :
    (∃ w m, t.weapon = some w ∧ t.engagementMgr = some m ∧
      (m.calculateEngagementPlan.1 = .success ∧
          t.calculateEngagementPlan =
            (.success,
              { t with
                weapon := some (w.setFireSolutionReady m.calculateEngagementPlan.2.isEngagementPlanValid),
                engagementMgr := some m.calculateEngagementPlan.2 }.notifyEngagementPlanChange) ∨
        m.calculateEngagementPlan.1 ≠ .success ∧
          t.calculateEngagementPlan =
            (m.calculateEngagementPlan.1, t.withManager m.calculateEngagementPlan.2))) ∨
      ((t.weapon = none ∨ t.engagementMgr = none) ∧
        t.calculateEngagementPlan = (t.noWeaponAssigned, t)) := by
  unfold calculateEngagementPlan
  rcases hw : t.weapon with _ | w <;> rcases hm : t.engagementMgr with _ | m <;> simp only [or_true,
    true_or, true_and, and_true, reduceCtorEq, false_and, exists_false, false_or, or_false]
  rcases hc : m.calculateEngagementPlan with ⟨_ | _, m'⟩ <;> simp [hc]

@[simp] theorem calculateEngagementPlan_shape (t : LaunchTube) :
    t.calculateEngagementPlan.2.shape = t.shape := by
  rcases calculateEngagementPlan_cases t with ⟨w, m, hw, hm, ⟨-, he⟩ | ⟨-, he⟩⟩ | ⟨-, he⟩ <;>
    rw [he]
  · simp only [notifyEngagementPlanChange_shape]
    simp [shape, Weapon.setFireSolutionReady, hw, hm]
  · simp [shape, withManager, hm]

@[simp] theorem update_shape (t : LaunchTube) (now : ℚ) : (t.update now).shape = t.shape := by
  unfold update
  split
  · rfl
  · rename_i w hw
    dsimp only
    split_ifs <;> simp [advance_shape t w now hw]

@[simp] theorem updateTargetInfo_shape (t : LaunchTube) (track : TargetTrack) :
    (t.updateTargetInfo track).shape = t.shape := by
  unfold updateTargetInfo
  split
  · rename_i m hm
    simp [shape, withManager, (missileManager_eq_some.1 hm).1]
  · rfl

@[simp] theorem updateTargetInfo_weapon (t : LaunchTube) (track : TargetTrack) :
    (t.updateTargetInfo track).weapon = t.weapon := by
  unfold updateTargetInfo; split <;> rfl

@[simp] theorem updateTargetInfo_assignmentInfo (t : LaunchTube) (track : TargetTrack) :
    (t.updateTargetInfo track).assignmentInfo = t.assignmentInfo := by
  unfold updateTargetInfo; split <;> rfl

@[simp] theorem updateWaypoints_shape (t : LaunchTube) (wps : List WeaponWaypoint) :
    (t.updateWaypoints wps).2.shape = t.shape := by
  unfold updateWaypoints
  split_ifs
  · rfl
  · split
    · rename_i m hm
      simp [shape, withManager, (mineManager_eq_some.1 hm).1]
    · rfl
  · split
    · rename_i m hm
      simp [shape, withManager, (missileManager_eq_some.1 hm).1]
    · rfl

/-- **What the kind-specific setup can do**: it changes the planner alone,
keeping its identity, and it succeeds only on a planner of the class the
record's kind asks for. -/
theorem setupSpecificAssignment_spec (t : LaunchTube) :
    (∃ m', t.setupSpecificAssignment.2 = { t with engagementMgr := m' } ∧
      m'.map EngagementManager.ident = t.engagementMgr.map EngagementManager.ident) ∧
    (t.setupSpecificAssignment.1 = .success →
      ∃ m, t.engagementMgr = some m ∧ (m.cls = .mine ↔ t.assignmentInfo.weaponKind = .M_MINE)) := by
  unfold setupSpecificAssignment
  split_ifs with hk
  · unfold setupMineSpecificAssignment
    split
    · exact ⟨⟨_, rfl, rfl⟩, by simp⟩
    · rename_i m hm
      obtain ⟨hm, hc⟩ := mineManager_eq_some.1 hm
      refine ⟨?_, fun _ => ⟨m, hm, by simp [hc, hk]⟩⟩
      split_ifs
      · exact ⟨_, rfl, by simp [hm]⟩
      · exact ⟨_, rfl, rfl⟩
  · unfold setupMissileSpecificAssignment
    split
    · exact ⟨⟨_, rfl, rfl⟩, by simp⟩
    · rename_i m hm
      obtain ⟨hm, hc⟩ := missileManager_eq_some.1 hm
      refine ⟨?_, fun _ => ⟨m, hm, by simp [hc, hk]⟩⟩
      split_ifs <;> exact ⟨_, rfl, by simp [hm]⟩

/-- **What `assignWeapon` can do** with a weapon and a planner: refuse and
change nothing, install and set up, or install, fail the setup, and leave the
tube emptied. -/
theorem assignWeapon_cases (t : LaunchTube) (w : Weapon) (m : EngagementManager)
    (info : AssignmentInfo) :
    ((t.assignWeapon (some w) (some m) info).1 ≠ .success ∧
        (t.assignWeapon (some w) (some m) info).2 = t) ∨
      (t.hasWeapon = false ∧ info.tubeNumber = t.tubeNumber ∧
        (t.install w m info).setupSpecificAssignment.1 = .success ∧
        t.assignWeapon (some w) (some m) info =
          (.success, (t.install w m info).setupSpecificAssignment.2)) ∨
      ((t.assignWeapon (some w) (some m) info).1 ≠ .success ∧
        (t.assignWeapon (some w) (some m) info).2 = t.clearAssignment) := by
  by_cases h1 : t.hasWeapon = true
  · exact .inl (by simp [assignWeapon, h1])
  by_cases h2 : info.tubeNumber = t.tubeNumber
  swap
  · exact .inl (by simp [assignWeapon, h1, h2])
  obtain ⟨⟨m', he, -⟩, -⟩ := (t.install w m info).setupSpecificAssignment_spec
  rcases hs : (t.install w m info).setupSpecificAssignment with ⟨_ | e, t₂⟩
  · exact .inr (.inl ⟨by simpa using h1, h2, rfl, by simp [assignWeapon, h1, h2, hs]⟩)
  · rw [hs] at he
    simp only at he
    subst he
    exact .inr (.inr (by simp [assignWeapon, h1, h2, hs]; rfl))

end Planning

end LaunchTube

end WeaponControl
