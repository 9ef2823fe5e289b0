import WeaponControl.Tube.Environment

/-!
# `emergencyStop()`: what it leaves, and what it reports

`emergencyStop()` (`WeaponControlService.h`, lines 315-349) sends each
assigned tube `ABORT` with a cancelled token while it is launching, and `OFF`
otherwise.  `ABORT` is always accepted; `OFF` is refused from `OFF`, `LAUNCH`
and `POC` (`s_defaultTransitionMap`, `WeaponBase.cpp` lines 12-19), and a
refused request changes nothing.  A weapon is in `POC` only inside a call of
`requestStateChange(ON)`, so in no state that a sequence of calls reaches does
one rest there (`NoneInPOC.run`), and the stop leaves every assigned weapon in
`OFF` or `ABORT`, a launching one in `ABORT`, with `m_launched` as it was
(`emergencyStop_leaves_tubes_safe`).

What it reports is another matter: the `OFF` request to a tube already `OFF`
is refused, so the stop reports success exactly when no assigned weapon is
`OFF` before it, and otherwise lists the refusal of each such tube
(`emergencyStop_success_iff_none_off`, through the flag and the text of the
loop, `callAssigned_allSuccess` and `callAssigned_errors`): a manager whose
weapons are all `OFF` gets a failure, although every weapon ends in a safe
state (`emergencyStop_fails_with_all_tubes_off`).

`requestAllWeaponStateChange(newState)` (lines 285-303) is the same loop with
a token nobody cancels: it fails exactly on the targets the table refuses, and
its text lists those refusals (`requestAllWeaponStateChange_report`).
-/

namespace WeaponControl

namespace Weapon

/-- The table admits only `ON`, `OFF`, `LAUNCH` and `ABORT` as targets. -/
theorem isValidTransition_target {a b : WpnCtrlState} (h : isValidTransition a b = true) :
    b = .ON ∨ b = .OFF ∨ b = .LAUNCH ∨ b = .ABORT := by
  revert h; cases a <;> cases b <;> decide

/-- **A call leaves no weapon in `POC`** that was not there before: the POC
wait ends inside the call. -/
theorem requestStateChange_not_POC (w : Weapon) (ns : WpnCtrlState) (c : Bool)
    (h : w.currentState ≠ .POC) : (w.requestStateChange ns c).2.1.currentState ≠ .POC := by
  obtain ⟨hA, hI, hOff, hOn, hL⟩ := w.requestStateChange_outcome ns c
  by_cases ha : ns = .ABORT
  · simp [(hA ha).2]
  cases hv : isValidTransition w.currentState ns
  · rw [(hI ha hv).2]; exact h
  rcases isValidTransition_target hv with rfl | rfl | rfl | rfl
  · rcases hOn rfl hv with ⟨-, he⟩ | ⟨-, he⟩ <;> simp [he]
  · simp [(hOff rfl hv).2]
  · rcases hL rfl hv with ⟨-, -, he⟩ | ⟨-, he, -⟩ <;> rw [he]
    · split <;> decide
    · decide
  · exact absurd rfl ha

theorem update_not_POC (w : Weapon) (h : w.currentState ≠ .POC) : w.update.1.currentState ≠ .POC := by
  unfold update; split_ifs <;> simp [setState, h]

/-- The two requests of the stop, as they leave the weapon. -/
theorem requestStateChange_ABORT (w : Weapon) (c : Bool) :
    (w.requestStateChange .ABORT c).2.1 = { w with currentState := .ABORT } := rfl

theorem requestStateChange_OFF (w : Weapon) (c : Bool) :
    (w.requestStateChange .OFF c).2.1 =
      if isValidTransition w.currentState .OFF then { w with currentState := .OFF } else w := by
  unfold requestStateChange
  split_ifs <;> simp_all [setState]

/-- The `OFF` request succeeds exactly when the table lists it. -/
theorem requestStateChange_OFF_success (w : Weapon) (c : Bool) :
    (w.requestStateChange .OFF c).1 = .success ↔ isValidTransition w.currentState .OFF = true := by
  unfold requestStateChange
  split_ifs <;> simp_all

end Weapon

namespace LaunchTube

/-- The tube's weapon, if it has one, does not rest in `POC`. -/
def OutOfPOC (t : LaunchTube) : Prop := ∀ w, t.weapon = some w → w.currentState ≠ .POC

theorem OutOfPOC.of_weapon {t t' : LaunchTube} (h : t.OutOfPOC) (hw : t'.weapon = t.weapon) :
    t'.OutOfPOC := fun w hw' => h w (hw ▸ hw')

theorem OutOfPOC.of_empty {t : LaunchTube} (hw : t.weapon = none) : t.OutOfPOC :=
  fun w hw' => by simp [hw] at hw'

theorem OutOfPOC.requestWeaponStateChange {t : LaunchTube} (h : t.OutOfPOC) (s : WpnCtrlState)
    (c : Bool) : (t.requestWeaponStateChange s c).2.OutOfPOC := by
  unfold LaunchTube.requestWeaponStateChange
  split
  · exact h
  · rename_i w hw
    intro w' hw'
    simp only [withWeapon, deliver_weapon, Option.some.injEq] at hw'
    exact hw' ▸ w.requestStateChange_not_POC s c (h w hw)

section Planning

variable [SGeodeticToST3D]

theorem OutOfPOC.calculateEngagementPlan {t : LaunchTube} (h : t.OutOfPOC) :
    t.calculateEngagementPlan.2.OutOfPOC := by
  rcases calculateEngagementPlan_cases t with ⟨w, m, hw, hm, ⟨-, he⟩ | ⟨-, he⟩⟩ | ⟨-, he⟩ <;>
    rw [he]
  · intro w' hw'
    simp only [notifyEngagementPlanChange_weapon, Option.some.injEq] at hw'
    exact hw' ▸ h w hw
  · exact h.of_weapon rfl
  · exact h

theorem OutOfPOC.update {t : LaunchTube} (h : t.OutOfPOC) (now : ℚ) : (t.update now).OutOfPOC := by
  unfold LaunchTube.update
  split
  · exact h
  · rename_i w hw
    have h₂ : (t.advance w now).OutOfPOC := fun w' hw' => by
      simp only [advance, withWeapon, deliver_weapon, Option.some.injEq] at hw'
      exact hw' ▸ w.update_not_POC (h w hw)
    dsimp only
    split_ifs
    · exact h₂
    · exact h₂.calculateEngagementPlan

theorem updateWaypoints_weapon (t : LaunchTube) (wps : List WeaponWaypoint) :
    (t.updateWaypoints wps).2.weapon = t.weapon := by
  unfold LaunchTube.updateWaypoints
  split_ifs <;> first | rfl | split <;> rfl

end Planning

end LaunchTube

namespace LaunchTubeManager

/-- No weapon of any tube rests in `POC`. -/
def NoneInPOC (mgr : LaunchTubeManager) : Prop :=
  ∀ i t, mgr.launchTubes i = some t → t.OutOfPOC

theorem NoneInPOC.setTube {mgr : LaunchTubeManager} (h : mgr.NoneInPOC) {i : ℕ} {t : LaunchTube}
    (ht : t.OutOfPOC) : (mgr.setTube i t).NoneInPOC := fun j t' hj => by
  rw [setTube_launchTubes] at hj
  split_ifs at hj
  · exact Option.some.inj hj ▸ ht
  · exact h j t' hj

theorem NoneInPOC.forAssigned {mgr : LaunchTubeManager} (h : mgr.NoneInPOC) {f : LaunchTube → LaunchTube}
    (hf : ∀ t, t.OutOfPOC → (f t).OutOfPOC) : (mgr.forAssigned f).NoneInPOC := fun j t' hj => by
  rw [forAssigned_eq] at hj
  dsimp only at hj
  split_ifs at hj
  · obtain ⟨t, ht, rfl⟩ := Option.map_eq_some'.1 hj
    exact hf t (h j t ht)
  · exact h j t' hj

theorem NoneInPOC.notifyAssignment {mgr : LaunchTubeManager} (h : mgr.NoneInPOC) (n : ℕ) (k : WpnKind)
    (b : Bool) : (mgr.notifyAssignment n k b).NoneInPOC := by
  unfold LaunchTubeManager.notifyAssignment
  split
  · exact h
  · exact h

theorem NoneInPOC.onTube {mgr : LaunchTubeManager} (h : mgr.NoneInPOC) {n : ℕ}
    {call : LaunchTube → Result × LaunchTube} (hc : ∀ t, t.OutOfPOC → (call t).2.OutOfPOC) :
    (mgr.onTube n call).2.NoneInPOC := by
  unfold LaunchTubeManager.onTube
  split
  · exact h
  · rename_i t ht
    exact h.setTube (hc t (h n t (getValidatedTube_eq_some.1 ht).2.2))

theorem NoneInPOC.init {mgr : LaunchTubeManager} (h : mgr.NoneInPOC) : mgr.init.2.NoneInPOC := by
  unfold LaunchTubeManager.init
  split_ifs
  · exact h
  · intro i t hi
    dsimp only at hi
    split_ifs at hi
    · exact Option.some.inj hi ▸ LaunchTube.OutOfPOC.of_empty rfl
    · exact h i t hi

section Planning

variable [SGeodeticToST3D]

theorem NoneInPOC.assignWeapon {mgr : LaunchTubeManager} (h : mgr.NoneInPOC)
    (req : WeaponAssignmentRequest) (d now : ℚ) : (mgr.assignWeapon req d now).2.NoneInPOC := by
  rcases assignWeapon_outcome mgr req d now with
    ⟨-, he⟩ | ⟨tube, -, -, ⟨-, he⟩ | ⟨cls, tube', -, ht', -, he⟩⟩ <;> rw [he]
  · exact h
  · exact h.setTube (LaunchTube.OutOfPOC.of_empty rfl)
  · -- the weapon is the factory's, initialized: `OFF`
    refine (h.setTube fun w' hw' => ?_).notifyAssignment _ _ _
    obtain ⟨⟨m', he', -⟩, -⟩ := (tube.install (Weapon.create req.weaponKind d)
      (EngagementManager.create cls now) req.assignmentInfo).setupSpecificAssignment_spec
    rw [(pushEnvironment_weapon _ _ _).1, ht', he'] at hw'
    simp only [LaunchTube.install, Option.some.injEq] at hw'
    subst hw'
    simp [Weapon.addStateObserver, Weapon.init]

/-- **Every operation keeps every weapon out of `POC`.** -/
theorem NoneInPOC.apply {mgr : LaunchTubeManager} (h : mgr.NoneInPOC) (op : ManagerOp) :
    (mgr.apply op).NoneInPOC := by
  cases op with
  | init => exact h.init
  | shutdown =>
    exact (h.forAssigned (f := LaunchTube.clearAssignment) fun _ _ =>
      LaunchTube.OutOfPOC.of_empty rfl :)
  | assignWeapon req d now => exact h.assignWeapon req d now
  | unassignWeapon n =>
    show (mgr.unassignWeapon n).2.NoneInPOC
    rcases unassignWeapon_outcome mgr n with he | ⟨t, w, -, -, he⟩ <;> rw [he]
    · exact h
    · exact (h.setTube (LaunchTube.OutOfPOC.of_empty rfl)).notifyAssignment _ _ _
  | requestWeaponStateChange n s c => exact h.onTube fun t ht => ht.requestWeaponStateChange s c
  | requestAllWeaponStateChange s =>
    show (mgr.requestAllWeaponStateChange s).2.NoneInPOC
    rw [requestAllWeaponStateChange_manager]
    exact h.forAssigned fun t ht => ht.requestWeaponStateChange s false
  | emergencyStop =>
    show mgr.emergencyStop.2.NoneInPOC
    rw [emergencyStop_manager]
    exact h.forAssigned fun t ht => by
      unfold emergencyRequest; split_ifs <;> exact ht.requestWeaponStateChange _ _
  | updateOwnShipInfo n =>
    exact @NoneInPOC.forAssigned { mgr with ownShipInfo := n } h _ fun t ht => ht.of_weapon rfl
  | updateTargetInfo track =>
    exact @NoneInPOC.forAssigned { mgr with
      targetInfoMap := Function.update mgr.targetInfoMap track.unTargetSystemID (some track) } h _
      fun t ht => ht.of_weapon (LaunchTube.updateTargetInfo_weapon t track)
  | setAxisCenter c =>
    exact @NoneInPOC.forAssigned { mgr with axisCenter := c } h _ fun t ht => ht.of_weapon rfl
  | updateWaypoints n wps =>
    exact h.onTube fun t ht => ht.of_weapon (LaunchTube.updateWaypoints_weapon t wps)
  | calculateEngagementPlan n => exact h.onTube fun t ht => ht.calculateEngagementPlan
  | calculateAllEngagementPlans => exact h.forAssigned fun t ht => ht.calculateEngagementPlan
  | update now => exact h.forAssigned fun t ht => ht.update now
  | setAssignmentChangeCallback b => exact h

theorem NoneInPOC.run {mgr : LaunchTubeManager} (h : mgr.NoneInPOC) :
    ∀ ops : List ManagerOp, (mgr.run ops).NoneInPOC
  | [] => h
  | op :: ops => NoneInPOC.run (h.apply op) ops

end Planning

theorem create_noneInPOC (maxTubes configMaxTubes : ℕ) : (create maxTubes configMaxTubes).NoneInPOC :=
  fun _ _ h => by simp [create] at h

/-! ### The stop -/

/-- What the stop does to one tube: a weapon out of `POC` ends in `OFF` or
`ABORT`, in `ABORT` if it was launching, with `m_launched` as it was. -/
theorem emergencyRequest_weapon {t : LaunchTube} {w : Weapon} (hw : t.weapon = some w)
    (hr : w.currentState ≠ .POC) :
    ∃ w', (emergencyRequest t).2.weapon = some w' ∧
      (w'.currentState = .OFF ∨ w'.currentState = .ABORT) ∧
      (w.currentState = .LAUNCH → w'.currentState = .ABORT) ∧ w'.launched = w.launched := by
  have hweap (s : WpnCtrlState) (c : Bool) :
      (t.requestWeaponStateChange s c).2.weapon = some (w.requestStateChange s c).2.1 := by
    simp [LaunchTube.requestWeaponStateChange, hw, LaunchTube.withWeapon]
  unfold emergencyRequest
  simp only [LaunchTube.getWeaponState, hw]
  split_ifs with hl
  · exact ⟨_, hweap _ _, by simp [Weapon.requestStateChange_ABORT]⟩
  · refine ⟨_, hweap _ _, ?_, fun h => absurd h hl, ?_⟩ <;> rw [Weapon.requestStateChange_OFF] <;>
      split_ifs with hv
    · exact .inl rfl
    · -- refused: only `OFF` itself is left, the weapon being neither launching nor in `POC`
      left; revert hv hl hr; cases w.currentState <;> decide
    · rfl
    · rfl

/-- What the stop's request returns for one tube: success unless its weapon,
out of `POC`, is already `OFF`, which the table refuses. -/
theorem emergencyRequest_result {t : LaunchTube} {w : Weapon} (hw : t.weapon = some w)
    (hr : w.currentState ≠ .POC) :
    (emergencyRequest t).1 =
      if w.currentState = .OFF then .failure "Invalid transition from OFF to OFF" else .success := by
  have hres (s : WpnCtrlState) (c : Bool) :
      (t.requestWeaponStateChange s c).1 = (w.requestStateChange s c).1 := by
    simp [LaunchTube.requestWeaponStateChange, hw]
  unfold emergencyRequest
  simp only [LaunchTube.getWeaponState, hw, apply_ite Prod.fst, hres, Weapon.requestStateChange]
  revert hr; cases w.currentState <;> simp [isValidTransition, sDefaultTransitionMap, stateToString]

theorem emergencyRequest_success_iff {t : LaunchTube} {w : Weapon} (hw : t.weapon = some w)
    (hr : w.currentState ≠ .POC) : (emergencyRequest t).1 = .success ↔ w.currentState ≠ .OFF := by
  rw [emergencyRequest_result hw hr]
  split_ifs <;> simp_all

/-- What `emergencyStop()` is to leave: the same assigned tubes, each weapon
in `OFF` or `ABORT`, in `ABORT` if it was launching, none launched by the
call. -/
def StopsSafely (mgr : LaunchTubeManager) : Prop :=
  mgr.emergencyStop.2.assignedTubes = mgr.assignedTubes ∧
    ∀ i ∈ mgr.assignedTubes, ∃ w w',
      (mgr.launchTubes i).bind LaunchTube.weapon = some w ∧
      (mgr.emergencyStop.2.launchTubes i).bind LaunchTube.weapon = some w' ∧
      (w'.currentState = .OFF ∨ w'.currentState = .ABORT) ∧
      (w.currentState = .LAUNCH → w'.currentState = .ABORT) ∧ w'.launched = w.launched

theorem NoneInPOC.stopsSafely {mgr : LaunchTubeManager} (h : mgr.NoneInPOC) : mgr.StopsSafely := by
  have hkeep (t : LaunchTube) : (emergencyRequest t).2.hasWeapon = t.hasWeapon := by
    unfold emergencyRequest
    split_ifs <;> exact congrArg Prod.fst (LaunchTube.requestWeaponStateChange_envView t _ _)
  rw [StopsSafely, emergencyStop_manager, assignedTubes_forAssigned _ hkeep]
  refine ⟨rfl, fun i hi => ?_⟩
  have hw := (mem_assignedTubes.1 hi).2
  rcases ht : mgr.launchTubes i with _ | t
  · simp [ht] at hw
  rcases hwt : t.weapon with _ | w
  · simp [ht, LaunchTube.hasWeapon, hwt] at hw
  obtain ⟨w', hw', h1, h2, h3⟩ := emergencyRequest_weapon hwt (h i t ht w hwt)
  exact ⟨w, w', by simp [hwt], by simp [forAssigned_eq, hi, ht, hw'], h1, h2, h3⟩

/-- What the stop reports, from a manager with no weapon in `POC`: success
exactly when no assigned weapon is already `OFF`. -/
theorem NoneInPOC.emergencyStop_success_iff {mgr : LaunchTubeManager} (h : mgr.NoneInPOC) :
    mgr.emergencyStop.1 = .success ↔
      ∀ i ∈ mgr.assignedTubes, ∀ t, mgr.launchTubes i = some t → t.getWeaponState ≠ .OFF := by
  rw [emergencyStop_fst, ite_eq_success_iff, callAssigned_allSuccess]
  refine forall₂_congr fun i hi => forall_congr' fun t => imp_congr_right fun ht => ?_
  obtain ⟨w, hwt⟩ := exists_weapon_of_mem_assignedTubes hi ht
  simp only [emergencyRequest_success_iff hwt (h i t ht w hwt), LaunchTube.getWeaponState, hwt]

/-- The text the stop adds for tube `i`: the table's refusal when its weapon
is already `OFF`, nothing otherwise. -/
def offReport (mgr : LaunchTubeManager) (i : ℕ) : String :=
  match mgr.launchTubes i with
  | some t =>
    if t.getWeaponState = .OFF then "Tube " ++ toString t.tubeNumber ++ ": Invalid transition from OFF to OFF; "
    else ""
  | none => ""

/-- What the stop reports on failure, from a manager with no weapon in
`POC`: the refusal of each assigned weapon already `OFF`, in tube order. -/
theorem NoneInPOC.emergencyStop_failure {mgr : LaunchTubeManager} (h : mgr.NoneInPOC)
    (hf : mgr.emergencyStop.1 ≠ .success) :
    mgr.emergencyStop.1 =
      .failure ("Emergency stop partially failed: " ++ String.join (mgr.assignedTubes.map mgr.offReport)) := by
  have herr : (mgr.callAssigned emergencyRequest).2.1 = String.join (mgr.assignedTubes.map mgr.offReport) := by
    rw [callAssigned_errors]
    refine congrArg String.join (List.map_congr_left fun i hi => ?_)
    rcases ht : mgr.launchTubes i with _ | t
    · simp [mem_assignedTubes, ht] at hi
    obtain ⟨w, hwt⟩ := exists_weapon_of_mem_assignedTubes hi ht
    simp only [offReport, ht, Option.map_some', Option.getD_some, failureNote,
      emergencyRequest_result hwt (h i t ht w hwt), LaunchTube.getWeaponState, hwt]
    split_ifs
    · simp only [String.append_assoc]; rfl
    · rfl
  rw [emergencyStop_fst, Ne, ite_eq_success_iff] at hf
  rw [emergencyStop_fst, if_neg hf, herr]

section Planning

variable [SGeodeticToST3D]

/-- **From every state that a sequence of calls reaches, `emergencyStop()`
leaves every assigned weapon in `OFF` or `ABORT`**, a launching one in
`ABORT`, and no weapon launched that was not. -/
theorem emergencyStop_leaves_tubes_safe (maxTubes configMaxTubes : ℕ) (ops : List ManagerOp) :
    ((create maxTubes configMaxTubes).run ops).StopsSafely :=
  ((create_noneInPOC maxTubes configMaxTubes).run ops).stopsSafely

/-- **From every state that a sequence of calls reaches, `emergencyStop()`
reports success exactly when no assigned weapon is already `OFF`**, and
otherwise fails with `"Emergency stop partially failed: "` followed by the
table's refusal for each such tube, in tube order. -/
theorem emergencyStop_success_iff_none_off (maxTubes configMaxTubes : ℕ) (ops : List ManagerOp) :
    (((create maxTubes configMaxTubes).run ops).emergencyStop.1 = .success ↔
      ∀ i ∈ ((create maxTubes configMaxTubes).run ops).assignedTubes, ∀ t,
        ((create maxTubes configMaxTubes).run ops).launchTubes i = some t → t.getWeaponState ≠ .OFF) ∧
    (((create maxTubes configMaxTubes).run ops).emergencyStop.1 ≠ .success →
      ((create maxTubes configMaxTubes).run ops).emergencyStop.1 =
        .failure ("Emergency stop partially failed: " ++
          String.join (((create maxTubes configMaxTubes).run ops).assignedTubes.map
            ((create maxTubes configMaxTubes).run ops).offReport))) :=
  ⟨((create_noneInPOC maxTubes configMaxTubes).run ops).emergencyStop_success_iff,
    ((create_noneInPOC maxTubes configMaxTubes).run ops).emergencyStop_failure⟩

/-- A one-tube manager, initialized, with an ALM assigned to tube 1, whose
weapon is `OFF`. -/
def offTubeManager : LaunchTubeManager :=
  (create 1 1).run
    [.init, .assignWeapon
      { tubeNumber := 1, weaponKind := .ALM, assignmentInfo := { tubeNumber := 1, weaponKind := .ALM } }
      3 0]

end Planning

/-- The stop of that manager reports failure, with the refused `OFF` request
of tube 1, while the tube's weapon, the only one, is `OFF` when it returns. -/
theorem emergencyStop_fails_with_all_tubes_off :
    (@offTubeManager SGeodeticToST3D.byFields).emergencyStop.1 =
        .failure "Emergency stop partially failed: Tube 1: Invalid transition from OFF to OFF; " ∧
      (@offTubeManager SGeodeticToST3D.byFields).emergencyStop.2.assignedTubes = [1] ∧
      (((@offTubeManager SGeodeticToST3D.byFields).emergencyStop.2.launchTubes 1).bind
        LaunchTube.weapon).map Weapon.currentState = some .OFF :=
  ⟨rfl, rfl, rfl⟩

/-! ### The broadcast request -/

/-- The text `requestAllWeaponStateChange(newState)` adds for tube `i`: the
table's refusal when the tube's weapon may not go to `newState`, nothing
otherwise. -/
def refusalReport (mgr : LaunchTubeManager) (newState : WpnCtrlState) (i : ℕ) : String :=
  match mgr.launchTubes i with
  | some t =>
    match t.weapon with
    | some w =>
      if newState ≠ .ABORT ∧ isValidTransition w.currentState newState = false then
        "Tube " ++ toString t.tubeNumber ++ ": Invalid transition from " ++ stateToString w.currentState ++
          " to " ++ stateToString newState ++ "; "
      else ""
    | none => ""
  | none => ""

/-- **`requestAllWeaponStateChange(newState)` reports exactly the table's
refusals**, from every manager: it succeeds when every assigned weapon may go
to `newState` (always for `ABORT`), and otherwise fails with `"Some state
changes failed: "` followed by the refusal of each such tube, in tube order;
every assigned tube ends as its own request leaves it. -/
theorem requestAllWeaponStateChange_report (mgr : LaunchTubeManager) (newState : WpnCtrlState) :
    ((mgr.requestAllWeaponStateChange newState).1 = .success ↔
      ∀ i ∈ mgr.assignedTubes, ∀ t, mgr.launchTubes i = some t → ∀ w, t.weapon = some w →
        newState = .ABORT ∨ isValidTransition w.currentState newState = true) ∧
    ((mgr.requestAllWeaponStateChange newState).1 ≠ .success →
      (mgr.requestAllWeaponStateChange newState).1 =
        .failure ("Some state changes failed: " ++
          String.join (mgr.assignedTubes.map (mgr.refusalReport newState)))) ∧
    (mgr.requestAllWeaponStateChange newState).2 =
      mgr.forAssigned fun t => (t.requestWeaponStateChange newState false).2 := by
  -- one assigned tube: its weapon's uncancelled request
  have htube : ∀ i ∈ mgr.assignedTubes, ∀ t, mgr.launchTubes i = some t → ∃ w, t.weapon = some w ∧
      (t.requestWeaponStateChange newState false).1 = (w.requestStateChange newState false).1 := by
    intro i hi t ht
    obtain ⟨w, hwt⟩ := exists_weapon_of_mem_assignedTubes hi ht
    exact ⟨w, hwt, by simp [LaunchTube.requestWeaponStateChange, hwt]⟩
  refine ⟨?_, fun hf => ?_, requestAllWeaponStateChange_manager mgr newState⟩
  · rw [requestAllWeaponStateChange_fst, ite_eq_success_iff, callAssigned_allSuccess]
    refine forall₂_congr fun i hi => forall_congr' fun t => imp_congr_right fun ht => ?_
    obtain ⟨w, hwt, hr⟩ := htube i hi t ht
    simp only [hwt, Option.some.injEq, forall_eq', hr, Weapon.requestStateChange_uncancelled]
    split_ifs with h
    · simpa using h
    · simpa [or_iff_not_imp_left] using h
  · have herr : (mgr.callAssigned (·.requestWeaponStateChange newState false)).2.1 =
        String.join (mgr.assignedTubes.map (mgr.refusalReport newState)) := by
      rw [callAssigned_errors]
      refine congrArg String.join (List.map_congr_left fun i hi => ?_)
      rcases ht : mgr.launchTubes i with _ | t
      · simp [mem_assignedTubes, ht] at hi
      obtain ⟨w, hwt, hr⟩ := htube i hi t ht
      simp only [refusalReport, ht, hwt, Option.map_some', Option.getD_some, failureNote, hr,
        Weapon.requestStateChange_uncancelled]
      split_ifs
      · simp only [String.append_assoc]; rfl
      · rfl
    rw [requestAllWeaponStateChange_fst, Ne, ite_eq_success_iff] at hf
    rw [requestAllWeaponStateChange_fst, if_neg hf, herr]

end LaunchTubeManager

end WeaponControl
