import WeaponControl.Tube.Assignment

/-!
# What the tube manager answers: status and pre-checks

`LaunchTube::getStatus` (`LaunchTube.h`, lines 372-390) and the read-only half
of `LaunchTubeManager` (`WeaponControlService.h`, lines 255-313 and 415-524):
whether a tube is assigned, whether a weapon can be assigned to it or a state
change requested of it, the status of one tube or of all, the engagement
results, and the counts.

`getStatus` reads the planner through `m_engagementMgr->` whenever the tube
holds a weapon; on a tube with a weapon and a null planner that is a null
dereference, which the model returns as `none`.  In a well-formed manager no
tube is like that: the status report answers, one status per tube in order,
each the status `getTubeStatus` gives for its tube, and its assigned entries
are `getAssignedTubes()` (`status_report_of_wellFormed`).

The two pre-checks are the guards of two commands.  `canChangeState` is
exactly the guard of `requestWeaponStateChange` with a token nobody cancels,
except at `ABORT`: the weapon aborts from every state (`WeaponBase.cpp`,
lines 52-56) while the table lists `ABORT` only from `LAUNCH`
(`requestWeaponStateChange_success_iff`).  `canAssignWeapon` checks the tube
and the kind but not the record: `assignWeapon` also needs the record to name
the tube and to ask for a mine planner exactly when the weapon is a mine
(`assignWeapon_success_iff`).
-/

namespace WeaponControl

/-- `LaunchTubeStatus` (`part_000`, lines 168-180), with its constructor's
defaults. -/
structure LaunchTubeStatus where
  tubeNumber : ℕ := 0
  hasWeapon : Bool := false
  weaponKind : WpnKind := .NA
  weaponState : WpnCtrlState := .OFF
  launched : Bool := false
  engagementPlanValid : Bool := false
  deriving DecidableEq, Repr

/-- `WeaponFactory::isWeaponSupported`: a weapon creator is registered for the
kind (`registerDefaultCreators`, lines 434-448 of `part_001`). -/
def isWeaponSupported : WpnKind → Bool
  | .ALM | .ASM | .AAM | .M_MINE => true
  | _ => false

namespace LaunchTube

/-- `getStatus()`: with a weapon, its kind, state and launch flag and the
validity of the planner's plan, read through `m_engagementMgr->` (`none` when
that pointer is null); without, the defaults. -/
def getStatus (t : LaunchTube) : Option LaunchTubeStatus :=
  match t.weapon with
  | none =>
    some
      { tubeNumber := t.tubeNumber, hasWeapon := false, weaponKind := .NA, weaponState := .OFF,
        launched := false, engagementPlanValid := false }
  | some w =>
    t.engagementMgr.map fun m =>
      { tubeNumber := t.tubeNumber, hasWeapon := true, weaponKind := w.weaponKind,
        weaponState := w.currentState, launched := w.launched,
        engagementPlanValid := m.isEngagementPlanValid }

end LaunchTube

namespace LaunchTubeManager

/-- `isAssigned(tubeNumber)`: `tube && tube->hasWeapon()`. -/
def isAssigned (mgr : LaunchTubeManager) (n : ℕ) : Bool :=
  (mgr.getValidatedTube n).any LaunchTube.hasWeapon

/-- `canAssignWeapon(tubeNumber, weaponKind)`: a valid empty tube, and a kind
the factory supports. -/
def canAssignWeapon (mgr : LaunchTubeManager) (n : ℕ) (kind : WpnKind) : Bool :=
  match mgr.getValidatedTube n with
  | none => false
  | some t => if t.hasWeapon then false else isWeaponSupported kind

/-- `canChangeState(tubeNumber, newState)`: the table's answer from the
weapon's current state. -/
def canChangeState (mgr : LaunchTubeManager) (n : ℕ) (newState : WpnCtrlState) : Bool :=
  match mgr.getValidatedTube n with
  | none => false
  | some t =>
    match t.weapon with
    | none => false
    | some w => isValidTransition w.currentState newState

/-- `getAllTubeStatus()`: the status of every non-null tube from
`m_minTubeNumber` to `m_maxTubeNumber`, in order; `none` when one of them
dereferences a null planner. -/
def getAllTubeStatus (mgr : LaunchTubeManager) : Option (List LaunchTubeStatus) :=
  ((List.range' mgr.minTubeNumber (mgr.maxTubeNumber + 1 - mgr.minTubeNumber)).filterMap
    mgr.launchTubes).mapM LaunchTube.getStatus

/-- `getTubeStatus(tubeNumber)`: an invalid or null tube gives the default
status carrying the requested number. -/
def getTubeStatus (mgr : LaunchTubeManager) (n : ℕ) : Option LaunchTubeStatus :=
  match mgr.getValidatedTube n with
  | some t => t.getStatus
  | none => some { tubeNumber := n }

/-- `getAllEngagementResults()`: the result of every assigned tube, in order. -/
def getAllEngagementResults (mgr : LaunchTubeManager) : List EngagementPlanResult :=
  mgr.assignedTubes.filterMap fun i => (mgr.launchTubes i).map LaunchTube.getEngagementResult

/-- `getEngagementResult(tubeNumber)`: an invalid or null tube gives the
default result carrying the requested number. -/
def getEngagementResult (mgr : LaunchTubeManager) (n : ℕ) : EngagementPlanResult :=
  match mgr.getValidatedTube n with
  | some t => t.getEngagementResult
  | none => { tubeNumber := n }

/-- `getAssignedTubeCount()`. -/
def getAssignedTubeCount (mgr : LaunchTubeManager) : ℕ := mgr.assignedTubes.length

/-- `getReadyTubeCount()`: the statuses with a weapon in `RTL`. -/
def getReadyTubeCount (mgr : LaunchTubeManager) : Option ℕ :=
  mgr.getAllTubeStatus.map fun ss =>
    (ss.filter fun s => s.hasWeapon && s.weaponState = .RTL).length

end LaunchTubeManager

/-! ### The state-change guard -/

namespace Weapon

/-- With a token nobody cancels, a call succeeds exactly on `ABORT` and on the
targets the table lists from the current state. -/
theorem requestStateChange_uncancelled_success_iff (w : Weapon) (s : WpnCtrlState) :
    (w.requestStateChange s false).1 = .success ↔
      s = .ABORT ∨ isValidTransition w.currentState s = true := by
  rw [requestStateChange_uncancelled]
  split_ifs with h
  · simpa using h
  · simpa [or_iff_not_imp_left] using h

/-- Whatever the polls see, a call that succeeds was an `ABORT` or a target the
table lists. -/
theorem valid_of_requestStateChange_success {w : Weapon} {s : WpnCtrlState} {c : Bool}
    (h : (w.requestStateChange s c).1 = .success) :
    s = .ABORT ∨ isValidTransition w.currentState s = true := by
  by_contra hne
  rw [not_or, Bool.not_eq_true] at hne
  rw [((requestStateChange_outcome w s c).2.1 hne.1 hne.2).1] at h
  cases h

end Weapon

namespace LaunchTube

theorem requestWeaponStateChange_fst (t : LaunchTube) (s : WpnCtrlState) (c : Bool) :
    (t.requestWeaponStateChange s c).1 =
      match t.weapon with
      | none => t.noWeaponAssigned
      | some w => (w.requestStateChange s c).1 := by
  unfold requestWeaponStateChange
  cases t.weapon with
  | none => rfl
  | some w => rcases w.requestStateChange s c with ⟨r, w', ns⟩; rfl

end LaunchTube

namespace LaunchTubeManager

theorem onTube_fst (mgr : LaunchTubeManager) (n : ℕ) (call : LaunchTube → Result × LaunchTube) :
    (mgr.onTube n call).1 =
      match mgr.getValidatedTube n with
      | none => .failure ("Invalid tube number: " ++ toString n)
      | some t => (call t).1 := by
  unfold onTube
  cases mgr.getValidatedTube n with
  | none => rfl
  | some t => rcases call t with ⟨r, t'⟩; rfl

/-- **`canChangeState` is the guard of `requestWeaponStateChange`, except at
`ABORT`**: a request that succeeds, whatever its token, was one
`canChangeState` accepts or an `ABORT` of an assigned tube; with a token
nobody cancels that is also enough; and `canChangeState` accepts `ABORT` only
from `LAUNCH`, although every assigned weapon aborts. -/
theorem requestWeaponStateChange_success_iff (mgr : LaunchTubeManager) (n : ℕ) (s : WpnCtrlState) :
    (∀ c, (mgr.requestWeaponStateChange n s c).1 = .success →
      mgr.canChangeState n s = true ∨ (s = .ABORT ∧ mgr.isAssigned n = true)) ∧
    ((mgr.requestWeaponStateChange n s false).1 = .success ↔
      mgr.canChangeState n s = true ∨ (s = .ABORT ∧ mgr.isAssigned n = true)) ∧
    (mgr.canChangeState n .ABORT = true ↔
      ∃ t w, mgr.getValidatedTube n = some t ∧ t.weapon = some w ∧ w.currentState = .LAUNCH) := by
  simp only [requestWeaponStateChange, onTube_fst, LaunchTube.requestWeaponStateChange_fst,
    canChangeState, isAssigned]
  rcases mgr.getValidatedTube n with _ | t
  · simp
  rcases hw : t.weapon with _ | w
  · simp [LaunchTube.noWeaponAssigned, LaunchTube.hasWeapon, hw]
  simp only [Option.any_some, LaunchTube.hasWeapon, hw, Option.isSome_some, and_true,
    Option.some.injEq, exists_eq_left', exists_eq_left]
  refine ⟨fun c h => ?_, Weapon.requestStateChange_uncancelled_success_iff w s |>.trans or_comm, ?_⟩
  · exact (Weapon.valid_of_requestStateChange_success h).symm
  · -- the table lists `ABORT` from `LAUNCH` alone
    have hl : isValidTransition w.currentState .ABORT = true ↔ w.currentState = .LAUNCH := by
      cases w.currentState <;> decide
    rw [hl]
    constructor
    · exact fun h => ⟨t, w, rfl, hw, h⟩
    · rintro ⟨_, w', rfl, hw', h⟩
      rw [hw, Option.some.injEq] at hw'
      exact hw' ▸ h

end LaunchTubeManager

/-! ### The assignment guard -/

/-- The factory builds a pair exactly for the kinds it supports. -/
theorem isWeaponSupported_iff (kind : WpnKind) (d now : ℚ) :
    isWeaponSupported kind = true ↔ ∃ p, createWeaponAndManager kind d now = .ok p := by
  cases kind <;>
    simp [isWeaponSupported, createWeaponAndManager, createWeapon, createEngagementManager, plannerClassOf]

/-- The registered planner class is the mine planner exactly for the mine. -/
theorem plannerClassOf_mine {kind : WpnKind} {cls : PlannerClass} (h : plannerClassOf kind = some cls) :
    (cls = .mine ↔ kind = .M_MINE) := by
  cases kind <;> cases h <;> decide

/-- A direct target makes the missile planner's target valid before it
recomputes, so the recomputation succeeds. -/
theorem EngagementManager.setTargetPosition_success [SGeodeticToST3D] (m : EngagementManager)
    (p : SGeodeticPosition) : (m.setTargetPosition p).1 = .success :=
  (EngagementManager.calculateEngagementPlan_success_iff _).2 (.inr rfl)

namespace LaunchTube

variable [SGeodeticToST3D]

/-- The kind-specific setup succeeds on a planner of the class the record's
kind asks for: setting a drop plan or a system target always succeeds, and so
does a direct target. -/
theorem setupSpecificAssignment_success {t : LaunchTube} {m : EngagementManager}
    (hm : t.engagementMgr = some m) (hc : m.cls = .mine ↔ t.assignmentInfo.weaponKind = .M_MINE) :
    t.setupSpecificAssignment.1 = .success := by
  unfold setupSpecificAssignment
  split_ifs with hk
  · rw [setupMineSpecificAssignment, mineManager_eq_some.2 ⟨hm, hc.2 hk⟩]
    dsimp only
    split_ifs <;> rfl
  · rw [setupMissileSpecificAssignment, missileManager_eq_some.2 ⟨hm, fun h => hk (hc.1 h)⟩]
    dsimp only
    split_ifs
    · rfl
    · have hs := m.setTargetPosition_success t.assignmentInfo.targetPos
      rcases hp : m.setTargetPosition t.assignmentInfo.targetPos with ⟨r, m'⟩
      rwa [hp] at hs

/-- The setup of a freshly installed pair succeeds exactly when the planner's
class is the one the record's kind asks for. -/
theorem install_setup_success_iff (t : LaunchTube) (w : Weapon) (m : EngagementManager)
    (info : AssignmentInfo) :
    (t.install w m info).setupSpecificAssignment.1 = .success ↔
      (m.cls = .mine ↔ info.weaponKind = .M_MINE) := by
  constructor
  · intro hs
    obtain ⟨m', hm', hc⟩ := ((t.install w m info).setupSpecificAssignment_spec).2 hs
    simp only [install, Option.some.injEq] at hm' hc
    rw [← hm'] at hc
    exact hc
  · exact fun hc => setupSpecificAssignment_success (m := (m.init t.tubeNumber info.weaponKind).2) rfl hc

/-- **`LaunchTube::assignWeapon` succeeds** with a weapon and a planner exactly
when the tube is empty, the record names the tube, and the planner's class is
the one the record's kind asks for. -/
theorem assignWeapon_fst_success_iff (t : LaunchTube) (w : Weapon) (m : EngagementManager)
    (info : AssignmentInfo) :
    (t.assignWeapon (some w) (some m) info).1 = .success ↔
      t.hasWeapon = false ∧ info.tubeNumber = t.tubeNumber ∧ (m.cls = .mine ↔ info.weaponKind = .M_MINE) := by
  rw [← install_setup_success_iff t w m]
  unfold assignWeapon
  by_cases h1 : t.hasWeapon = true
  · simp [h1]
  by_cases h2 : info.tubeNumber = t.tubeNumber
  · rcases hs : (t.install w m info).setupSpecificAssignment with ⟨_ | e, t₂⟩ <;> simp [h1, h2, hs]
  · simp [h1, h2]

end LaunchTube

namespace LaunchTubeManager

variable [SGeodeticToST3D]

/-- **`canAssignWeapon` is necessary for `assignWeapon` but not enough**: in a
well-formed manager an assignment succeeds exactly when `canAssignWeapon`
holds, the record names the requested tube, and the record asks for a mine
exactly when the requested kind is the mine; the pre-check reads neither
field of the record. -/
theorem assignWeapon_success_iff {mgr : LaunchTubeManager} (h : mgr.WellFormed)
    (req : WeaponAssignmentRequest) (d now : ℚ) :
    (mgr.assignWeapon req d now).1 = .success ↔
      mgr.canAssignWeapon req.tubeNumber req.weaponKind = true ∧
        req.assignmentInfo.tubeNumber = req.tubeNumber ∧
        (req.assignmentInfo.weaponKind = .M_MINE ↔ req.weaponKind = .M_MINE) := by
  rcases hv : mgr.getValidatedTube req.tubeNumber with _ | tube
  · simp [LaunchTubeManager.assignWeapon, canAssignWeapon, hv]
  cases hw : tube.hasWeapon
  swap
  · simp [LaunchTubeManager.assignWeapon, canAssignWeapon, hv, hw]
  rcases hc : createWeaponAndManager req.weaponKind d now with e | ⟨w, m⟩
  · -- the factory has no creator for the kind
    have hk : isWeaponSupported req.weaponKind = false := by
      rw [← Bool.not_eq_true, isWeaponSupported_iff _ d now, hc]
      simp
    simp [LaunchTubeManager.assignWeapon, canAssignWeapon, hv, hw, hc, hk]
  have hk : isWeaponSupported req.weaponKind = true := (isWeaponSupported_iff _ d now).2 ⟨_, hc⟩
  obtain ⟨rfl, cls, hcls, rfl⟩ := createWeaponAndManager_ok hc
  -- the manager returns what the tube returns
  have hfst : (mgr.assignWeapon req d now).1 =
      (tube.assignWeapon (some (Weapon.create req.weaponKind d)) (some (EngagementManager.create cls now))
        req.assignmentInfo).1 := by
    rcases ha : tube.assignWeapon (some (Weapon.create req.weaponKind d))
      (some (EngagementManager.create cls now)) req.assignmentInfo with ⟨_ | e, t'⟩
    · rw [assignWeapon_of_success hv hw hc ha]
    · rw [assignWeapon_of_failure hv hw hc (by simp [ha]), ha]
  rw [hfst, LaunchTube.assignWeapon_fst_success_iff, (h.getValidatedTube hv).tubeNumber_eq]
  simp only [canAssignWeapon, hv, hw, hk, EngagementManager.create, plannerClassOf_mine hcls]
  simp [Iff.comm]

end LaunchTubeManager

/-- An ALM for tube 3 whose record names tube 4. -/
def misnumberedRequest : WeaponAssignmentRequest :=
  { tubeNumber := 3, weaponKind := .ALM, assignmentInfo := { tubeNumber := 4, weaponKind := .ALM } }

/-- With tubes 2 and 5 occupied, `canAssignWeapon(3, ALM)` holds, yet the
misnumbered request fails. -/
theorem LaunchTubeManager.assignWeapon_success_iff_misnumbered :
    (@LaunchTubeManager.twoWeaponManager SGeodeticToST3D.byFields).WellFormed ∧
      ((@LaunchTubeManager.assignWeapon SGeodeticToST3D.byFields
          (@LaunchTubeManager.twoWeaponManager SGeodeticToST3D.byFields) misnumberedRequest 3 0).1 = .success ↔
        (@LaunchTubeManager.twoWeaponManager SGeodeticToST3D.byFields).canAssignWeapon 3 .ALM = true ∧
          4 = 3 ∧ (WpnKind.ALM = .M_MINE ↔ WpnKind.ALM = .M_MINE)) ∧
      (@LaunchTubeManager.twoWeaponManager SGeodeticToST3D.byFields).canAssignWeapon 3 .ALM = true :=
  have hw := @LaunchTubeManager.Reachable.wellFormed SGeodeticToST3D.byFields _ ⟨6, 6, _, rfl⟩
  ⟨hw, @LaunchTubeManager.assignWeapon_success_iff SGeodeticToST3D.byFields _ hw misnumberedRequest 3 0,
    by decide⟩

/-! ### The status report -/

/-- A tube holding a weapon exactly when it holds a planner answers its
status, which carries its number and whether it holds a weapon. -/
theorem LaunchTube.getStatus_of_paired {t : LaunchTube} (h : t.weapon.isSome = t.engagementMgr.isSome) :
    ∃ s, t.getStatus = some s ∧ s.tubeNumber = t.tubeNumber ∧ s.hasWeapon = t.hasWeapon := by
  unfold LaunchTube.getStatus LaunchTube.hasWeapon
  rcases hw : t.weapon with _ | w
  · exact ⟨_, rfl, rfl, rfl⟩
  · rcases hm : t.engagementMgr with _ | m
    · simp [hw, hm] at h
    · exact ⟨_, rfl, rfl, rfl⟩

namespace LaunchTubeManager

theorem isAssigned_of_valid {mgr : LaunchTubeManager} {i : ℕ} (h : mgr.isValidTubeNumber i = true) :
    mgr.isAssigned i = (mgr.launchTubes i).any LaunchTube.hasWeapon := by
  simp [isAssigned, getValidatedTube, h]

/-- The statuses of the tubes of a list of valid numbers, one per number, in
order, each the answer of `getTubeStatus` for its number. -/
theorem statuses_of_wellFormed {mgr : LaunchTubeManager} (h : mgr.WellFormed) :
    ∀ l : List ℕ, (∀ i ∈ l, mgr.isValidTubeNumber i = true) →
      ∃ ss, (l.filterMap mgr.launchTubes).mapM LaunchTube.getStatus = some ss ∧
        ss.map (·.tubeNumber) = l ∧
        ∀ s ∈ ss, mgr.getTubeStatus s.tubeNumber = some s ∧ s.hasWeapon = mgr.isAssigned s.tubeNumber
  | [], _ => ⟨[], rfl, rfl, by simp⟩
  | i :: l, hl => by
    have hi := hl i (List.mem_cons_self _ _)
    obtain ⟨t, ht, hwf⟩ := h.tubes i (by simp [isValidTubeNumber, h.minTubeNumber_eq] at hi; omega)
      (by simp [isValidTubeNumber, h.maxTubeNumber_eq] at hi; omega)
    obtain ⟨s, hs, hsn, hsw⟩ := LaunchTube.getStatus_of_paired hwf.paired
    obtain ⟨ss, hss, hmap, hall⟩ := statuses_of_wellFormed h l fun j hj => hl j (List.mem_cons_of_mem _ hj)
    have hv : mgr.getValidatedTube i = some t := by simp [getValidatedTube, hi, ht]
    have hsi : s.tubeNumber = i := hsn.trans hwf.tubeNumber_eq
    have hcons : ((i :: l).filterMap mgr.launchTubes).mapM LaunchTube.getStatus = some (s :: ss) := by
      rw [List.filterMap_cons_some ht, List.mapM_cons, hs, hss]
      rfl
    refine ⟨s :: ss, hcons, by simp [hsi, hmap], ?_⟩
    rintro s' (_ | ⟨_, hs'⟩)
    · exact ⟨by simp [getTubeStatus, hsi, hv, hs], by simp [isAssigned, hsi, hv, hsw]⟩
    · exact hall s' hs'

/-- **The status report of a well-formed manager**: `getAllTubeStatus` never
reaches a null planner; it gives one status per tube, numbered 1 to
`m_maxTubes` in order, each what `getTubeStatus` gives for its tube and
assigned exactly when `isAssigned` says so; its assigned entries are the tubes
`getAssignedTubes()` lists, and `getReadyTubeCount` answers, at most
`getAssignedTubeCount`. -/
theorem status_report_of_wellFormed {mgr : LaunchTubeManager} (h : mgr.WellFormed) :
    ∃ ss, mgr.getAllTubeStatus = some ss ∧ ss.map (·.tubeNumber) = List.range' 1 mgr.maxTubes ∧
      (∀ s ∈ ss, mgr.getTubeStatus s.tubeNumber = some s ∧ s.hasWeapon = mgr.isAssigned s.tubeNumber) ∧
      (ss.filter (·.hasWeapon)).map (·.tubeNumber) = mgr.assignedTubes ∧
      ∃ r, mgr.getReadyTubeCount = some r ∧ r ≤ mgr.getAssignedTubeCount := by
  have hrange : List.range' mgr.minTubeNumber (mgr.maxTubeNumber + 1 - mgr.minTubeNumber) =
      List.range' 1 mgr.maxTubes := by
    rw [h.minTubeNumber_eq, h.maxTubeNumber_eq, Nat.add_sub_cancel]
  have hvalid : ∀ i ∈ List.range' 1 mgr.maxTubes, mgr.isValidTubeNumber i = true := fun i hi => by
    rw [List.mem_range'_1] at hi
    simp [isValidTubeNumber, h.minTubeNumber_eq, h.maxTubeNumber_eq]
    omega
  obtain ⟨ss, hss, hmap, hall⟩ := statuses_of_wellFormed h _ hvalid
  -- the assigned statuses are the assigned tubes
  have hassigned : (ss.filter (·.hasWeapon)).map (·.tubeNumber) = mgr.assignedTubes := by
    rw [assignedTubes, hrange, ← hmap, List.filter_map]
    refine congrArg _ (List.filter_congr fun s hs => ?_)
    rw [(hall s hs).2, Function.comp_apply,
      isAssigned_of_valid (hvalid _ (hmap ▸ List.mem_map_of_mem _ hs))]
  have hall' : mgr.getAllTubeStatus = some ss := by rw [getAllTubeStatus, hrange, hss]
  refine ⟨ss, hall', hmap, hall, hassigned, _, by rw [getReadyTubeCount, hall']; rfl, ?_⟩
  rw [getAssignedTubeCount, ← hassigned, List.length_map]
  simpa only [List.filter_filter, Bool.and_comm] using
    List.length_filter_le (fun s => decide (s.weaponState = .RTL)) (ss.filter (·.hasWeapon))

end LaunchTubeManager

/-- The status report of the manager with tubes 2 and 5 occupied. -/
theorem LaunchTubeManager.status_report_two_weapons :
    (@LaunchTubeManager.twoWeaponManager SGeodeticToST3D.byFields).WellFormed ∧
      (@LaunchTubeManager.twoWeaponManager SGeodeticToST3D.byFields).assignedTubes = [2, 5] ∧
      ∃ ss, (@LaunchTubeManager.twoWeaponManager SGeodeticToST3D.byFields).getAllTubeStatus = some ss ∧
        ss.map (·.tubeNumber) = List.range' 1 (@LaunchTubeManager.twoWeaponManager SGeodeticToST3D.byFields).maxTubes ∧
        (∀ s ∈ ss, (@LaunchTubeManager.twoWeaponManager SGeodeticToST3D.byFields).getTubeStatus s.tubeNumber = some s ∧
          s.hasWeapon = (@LaunchTubeManager.twoWeaponManager SGeodeticToST3D.byFields).isAssigned s.tubeNumber) ∧
        (ss.filter (·.hasWeapon)).map (·.tubeNumber) =
          (@LaunchTubeManager.twoWeaponManager SGeodeticToST3D.byFields).assignedTubes ∧
        ∃ r, (@LaunchTubeManager.twoWeaponManager SGeodeticToST3D.byFields).getReadyTubeCount = some r ∧
          r ≤ (@LaunchTubeManager.twoWeaponManager SGeodeticToST3D.byFields).getAssignedTubeCount :=
  have hw := @LaunchTubeManager.Reachable.wellFormed SGeodeticToST3D.byFields _ ⟨6, 6, _, rfl⟩
  ⟨hw, by decide, LaunchTubeManager.status_report_of_wellFormed hw⟩

end WeaponControl
