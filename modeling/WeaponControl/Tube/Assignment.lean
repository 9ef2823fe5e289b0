import WeaponControl.Tube.Manager

/-!
# Assignments: what every reachable tube manager keeps

`LaunchTube.WellFormed i` is the consistency of tube `i`: it carries number
`i`; it holds a weapon exactly when it holds a planner; empty, its record is
the default one; occupied, the record, the weapon and the planner all name
tube `i`, the planner's kind is the record's, and the planner is a mine
planner exactly for a mine record.  Every operation but assignment and
clearing keeps `LaunchTube.shape`, which is all `WellFormed` reads
(`WellFormed.of_shape`); clearing empties; and an assignment either changes
nothing, installs a consistent pair, or empties (`assignWeapon_wellFormed`).
So every tube of every state reachable from `initialize()` is well formed
(`wellFormed_of_reachable`).

What `WellFormed` does not say is that the *weapon's* kind is the record's.
`assignWeapon` builds the pair from `request.weaponKind` (line 193) and writes
`request.assignmentInfo.weaponKind` into the record and the planner (lines 143
and 153): two missile kinds that differ pass every check
(`mismatched_kinds_assigned`).

On that invariant `LaunchTubeManager::assignWeapon` is all or nothing
(`assignWeapon_all_or_nothing`): it installs a fresh pair in an empty tube and
reports it once, or it fails and leaves the manager exactly as it was; the
setup failure after installation (line 170) is undone by `clearAssignment`
because the tube it empties was empty, with the default record, before.

`LaunchTube::updateAssignmentInfo` (lines 198-211) is not: it writes the new
record first and runs the kind-specific setup after, so a setup that fails
leaves the new record in place, and nothing compares the record's tube number
or kind with the tube's (`updateAssignmentInfo_overwrites_record_on_failure`).
-/

namespace WeaponControl

namespace LaunchTube

/-- The consistency of an occupied tube `i`. -/
def Consistent (i : ℕ) (info : AssignmentInfo) (w : Weapon) (m : EngagementManager) : Prop :=
  info.tubeNumber = i ∧ w.tubeNumber = i ∧ m.tubeNumber = i ∧ m.weaponKind = info.weaponKind ∧
    (m.cls = .mine ↔ info.weaponKind = .M_MINE)

/-- The consistency of tube `i`. -/
structure WellFormed (i : ℕ) (t : LaunchTube) : Prop where
  tubeNumber_eq : t.tubeNumber = i
  paired : t.weapon.isSome = t.engagementMgr.isSome
  empty : t.weapon = none → t.assignmentInfo = {}
  occupied : ∀ w m, t.weapon = some w → t.engagementMgr = some m →
    Consistent i t.assignmentInfo w m

/-- `WellFormed` reads the shape only. -/
theorem WellFormed.of_shape {i : ℕ} {t t' : LaunchTube} (h : t.WellFormed i)
    (hs : t'.shape = t.shape) : t'.WellFormed i := by
  simp only [shape, Prod.mk.injEq] at hs
  obtain ⟨hn, hw, hm, hi⟩ := hs
  refine ⟨hn ▸ h.tubeNumber_eq, ?_, fun hw' => ?_, fun w' m' hw' hm' => ?_⟩
  · have h1 := congrArg Option.isSome hw
    have h2 := congrArg Option.isSome hm
    simp only [Option.isSome_map'] at h1 h2
    rw [h1, h2]
    exact h.paired
  · rw [hw', Option.map_none', eq_comm, Option.map_eq_none'] at hw
    exact hi ▸ h.empty hw
  · rw [hw', Option.map_some', eq_comm, Option.map_eq_some'] at hw
    rw [hm', Option.map_some', eq_comm, Option.map_eq_some'] at hm
    obtain ⟨w, hw, hwe⟩ := hw
    obtain ⟨m, hm, hme⟩ := hm
    simp only [EngagementManager.ident, Prod.mk.injEq] at hwe hme
    have := h.occupied w m hw hm
    simp only [Consistent] at this ⊢
    rw [hi, ← hwe.1, ← hme.1, ← hme.2.1, ← hme.2.2]
    exact this

theorem create_wellFormed (i : ℕ) : (create i).WellFormed i :=
  ⟨rfl, rfl, fun _ => rfl, fun _ _ h => by simp [create] at h⟩

theorem clearAssignment_wellFormed {i : ℕ} {t : LaunchTube} (h : t.tubeNumber = i) :
    t.clearAssignment.WellFormed i :=
  ⟨h, rfl, fun _ => rfl, fun _ _ hw => by simp [clearAssignment] at hw⟩

/-- An empty tube with the default record is its own clearing. -/
theorem clearAssignment_of_empty {i : ℕ} {t : LaunchTube} (h : t.WellFormed i)
    (hw : t.weapon = none) : t.clearAssignment = t := by
  have hm : t.engagementMgr = none := by
    cases hm : t.engagementMgr with
    | none => rfl
    | some m => have := h.paired; simp [hw, hm] at this
  have hi := h.empty hw
  cases t
  simp_all [clearAssignment]

variable [SGeodeticToST3D]

/-- An assignment leaves a consistent tube, whatever it is given. -/
theorem assignWeapon_wellFormed {i : ℕ} {t : LaunchTube} (h : t.WellFormed i)
    (weapon : Option Weapon) (engagementMgr : Option EngagementManager) (info : AssignmentInfo) :
    (t.assignWeapon weapon engagementMgr info).2.WellFormed i := by
  rcases weapon with _ | w
  · exact h
  rcases engagementMgr with _ | m
  · exact h
  rcases assignWeapon_cases t w m info with ⟨-, he⟩ | ⟨-, hn, hs, he⟩ | ⟨-, he⟩ <;> rw [he]
  · exact h
  · obtain ⟨⟨m', he', hid⟩, hcls⟩ := (t.install w m info).setupSpecificAssignment_spec
    obtain ⟨m₀, hm₀, hiff⟩ := hcls hs
    have hm₀' : m₀ = (m.init t.tubeNumber info.weaponKind).2 := by simpa [install] using hm₀.symm
    rw [hm₀, Option.map_some', Option.map_eq_some'] at hid
    obtain ⟨m₁, rfl, hid⟩ := hid
    rw [he']
    subst hm₀'
    simp only [EngagementManager.ident, EngagementManager.init, Prod.mk.injEq] at hid
    refine ⟨h.tubeNumber_eq, rfl, fun hw => by simp [install] at hw, fun w' m'' hw hm => ?_⟩
    simp only [install, Option.some.injEq] at hw hm
    subst hw hm
    refine ⟨hn.trans h.tubeNumber_eq, h.tubeNumber_eq, hid.2.1.trans h.tubeNumber_eq, hid.2.2, ?_⟩
    rw [hid.1]
    simpa [install, EngagementManager.init] using hiff
  · exact clearAssignment_wellFormed h.tubeNumber_eq

end LaunchTube

namespace LaunchTubeManager

@[simp] theorem setTube_launchTubes (mgr : LaunchTubeManager) (i : ℕ) (t : LaunchTube) (j : ℕ) :
    (mgr.setTube i t).launchTubes j = if j = i then some t else mgr.launchTubes j :=
  Function.update_apply _ _ _ _

/-- Writing back the tube a validated lookup returned changes nothing. -/
theorem setTube_self {mgr : LaunchTubeManager} {i : ℕ} {t : LaunchTube}
    (h : mgr.launchTubes i = some t) : mgr.setTube i t = mgr := by
  simp only [setTube, ← h, Function.update_eq_self]

@[simp] theorem notifyAssignment_launchTubes (mgr : LaunchTubeManager) (n : ℕ) (k : WpnKind)
    (b : Bool) : (mgr.notifyAssignment n k b).launchTubes = mgr.launchTubes := by
  unfold notifyAssignment; split <;> rfl

theorem getValidatedTube_eq_some {mgr : LaunchTubeManager} {n : ℕ} {t : LaunchTube} :
    mgr.getValidatedTube n = some t ↔
      mgr.minTubeNumber ≤ n ∧ n ≤ mgr.maxTubeNumber ∧ mgr.launchTubes n = some t := by
  simp [getValidatedTube, isValidTubeNumber, and_assoc]

/-- The consistency of every tube a manager owns. -/
structure WellFormed (mgr : LaunchTubeManager) : Prop where
  minTubeNumber_eq : mgr.minTubeNumber = 1
  maxTubeNumber_eq : mgr.maxTubeNumber = mgr.maxTubes
  tubes : ∀ i, 1 ≤ i → i ≤ mgr.maxTubes → ∃ t, mgr.launchTubes i = some t ∧ t.WellFormed i

/-- The tube a validated lookup returns is well formed. -/
theorem WellFormed.getValidatedTube {mgr : LaunchTubeManager} (h : mgr.WellFormed) {n : ℕ}
    {t : LaunchTube} (ht : mgr.getValidatedTube n = some t) : t.WellFormed n := by
  obtain ⟨h1, h2, h3⟩ := getValidatedTube_eq_some.1 ht
  obtain ⟨t', ht', hwf⟩ := h.tubes n (h.minTubeNumber_eq ▸ h1) (h.maxTubeNumber_eq ▸ h2)
  rw [h3, Option.some.injEq] at ht'
  exact ht' ▸ hwf

theorem WellFormed.setTube {mgr : LaunchTubeManager} (h : mgr.WellFormed) {i : ℕ} {t : LaunchTube}
    (ht : 1 ≤ i → i ≤ mgr.maxTubes → t.WellFormed i) : (mgr.setTube i t).WellFormed := by
  refine ⟨h.minTubeNumber_eq, h.maxTubeNumber_eq, fun j hj1 hj2 => ?_⟩
  by_cases hji : j = i
  · subst hji
    exact ⟨t, by simp, ht hj1 hj2⟩
  · simpa [hji] using h.tubes j hj1 hj2

/-- Writing back a tube that an operation made of a well-formed one keeps a
manager well formed. -/
theorem WellFormed.setTube_of {mgr : LaunchTubeManager} (h : mgr.WellFormed) {i : ℕ}
    {t t' : LaunchTube} (ht : mgr.launchTubes i = some t) (hwf : t.WellFormed i → t'.WellFormed i) :
    (mgr.setTube i t').WellFormed :=
  h.setTube fun h1 h2 => by
    obtain ⟨t₀, ht₀, hwf₀⟩ := h.tubes i h1 h2
    rw [ht, Option.some.injEq] at ht₀
    exact hwf (ht₀ ▸ hwf₀)

theorem WellFormed.forAssigned {mgr : LaunchTubeManager} (h : mgr.WellFormed)
    {f : LaunchTube → LaunchTube} (hf : ∀ i t, t.WellFormed i → (f t).WellFormed i) :
    (mgr.forAssigned f).WellFormed :=
  List.foldlRecOn _ _ mgr h fun mgr' h' i _ => by
    split
    · exact h'.setTube_of ‹_› (hf i _)
    · exact h'

theorem WellFormed.callAssigned {mgr : LaunchTubeManager} (h : mgr.WellFormed)
    {call : LaunchTube → Result × LaunchTube}
    (hc : ∀ i t, t.WellFormed i → (call t).2.WellFormed i) :
    (mgr.callAssigned call).2.2.WellFormed :=
  List.foldlRecOn (motive := fun acc : Bool × String × LaunchTubeManager => acc.2.2.WellFormed)
    _ _ (true, "", mgr) h fun acc h' i _ => by
      split
      · exact h'
      · rename_i t ht
        split <;> exact h'.setTube_of ht fun hwf => by simpa [*] using hc i t hwf

theorem WellFormed.notifyAssignment {mgr : LaunchTubeManager} (h : mgr.WellFormed) (n : ℕ)
    (k : WpnKind) (b : Bool) : (mgr.notifyAssignment n k b).WellFormed := by
  unfold LaunchTubeManager.notifyAssignment
  split
  · exact ⟨h.1, h.2, h.3⟩
  · exact h

/-- `initialize()` makes a well-formed manager of one built with tubes
numbered from 1. -/
theorem WellFormed.init {mgr : LaunchTubeManager} (h1 : mgr.minTubeNumber = 1)
    (h2 : mgr.maxTubeNumber = mgr.maxTubes)
    (h3 : mgr.initialized = true → mgr.WellFormed) : mgr.init.2.WellFormed := by
  unfold LaunchTubeManager.init
  split_ifs with hi
  · exact h3 hi
  · refine ⟨h1, h2, fun i hi1 hi2 => ⟨newTube i, by simp [h1, h2, hi1, hi2], ?_⟩⟩
    exact ⟨rfl, rfl, fun _ => rfl, fun _ _ h => by simp [newTube, LaunchTube.create,
      LaunchTube.setCallbacks] at h⟩

theorem init_create_wellFormed (maxTubes configMaxTubes : ℕ) :
    (create maxTubes configMaxTubes).init.2.WellFormed :=
  WellFormed.init rfl rfl fun h => by simp [create] at h

/-- What `unassignWeapon` can leave: the manager as it was, or the validated
tube cleared and the change notified. -/
theorem unassignWeapon_outcome (mgr : LaunchTubeManager) (n : ℕ) :
    (mgr.unassignWeapon n).2 = mgr ∨
      ∃ t w, mgr.getValidatedTube n = some t ∧ t.weapon = some w ∧
        (mgr.unassignWeapon n).2 = (mgr.setTube n t.clearAssignment).notifyAssignment n w.weaponKind false := by
  unfold LaunchTubeManager.unassignWeapon
  split
  · exact .inl rfl
  · split
    · exact .inl rfl
    · exact .inr ⟨_, _, ‹_›, ‹_›, rfl⟩

theorem WellFormed.unassignWeapon {mgr : LaunchTubeManager} (h : mgr.WellFormed) (n : ℕ) :
    (mgr.unassignWeapon n).2.WellFormed := by
  rcases unassignWeapon_outcome mgr n with he | ⟨t, w, ht, -, he⟩ <;> rw [he]
  · exact h
  · exact (h.setTube_of (getValidatedTube_eq_some.1 ht).2.2 fun hwf =>
      LaunchTube.clearAssignment_wellFormed hwf.tubeNumber_eq).notifyAssignment _ _ _

/-- The factory's pair for a kind: the kind's weapon, and the planner of
the class registered for it. -/
theorem createWeaponAndManager_ok {kind : WpnKind} {d now : ℚ} {w : Weapon} {m : EngagementManager}
    (h : createWeaponAndManager kind d now = .ok (w, m)) :
    w = Weapon.create kind d ∧
      ∃ cls, plannerClassOf kind = some cls ∧ m = EngagementManager.create cls now := by
  cases kind <;>
    simp [createWeaponAndManager, createWeapon, createEngagementManager, plannerClassOf] at h ⊢ <;>
    exact ⟨h.1.symm, h.2.symm⟩

theorem WellFormed.onTube {mgr : LaunchTubeManager} (h : mgr.WellFormed) {n : ℕ}
    {call : LaunchTube → Result × LaunchTube} (hc : ∀ t, (call t).2.shape = t.shape) :
    (mgr.onTube n call).2.WellFormed := by
  unfold LaunchTubeManager.onTube
  split
  · exact h
  · rename_i t ht
    exact h.setTube_of (getValidatedTube_eq_some.1 ht).2.2 fun hwf => hwf.of_shape (hc t)

section Planning

variable [SGeodeticToST3D]

theorem pushEnvironment_shape (mgr : LaunchTubeManager) (t : LaunchTube) (id : ℕ) :
    (mgr.pushEnvironment t id).shape = t.shape := by
  unfold pushEnvironment
  split_ifs
  · split <;> simp
  · simp

theorem pushEnvironment_weapon (mgr : LaunchTubeManager) (t : LaunchTube) (id : ℕ) :
    (mgr.pushEnvironment t id).weapon = t.weapon ∧
      (mgr.pushEnvironment t id).assignmentInfo = t.assignmentInfo := by
  unfold pushEnvironment
  split_ifs
  · split <;> simp
  · simp

/-- The manager after a tube assignment that succeeded: the tube written back
with the environment pushed, and the assignment reported. -/
theorem assignWeapon_of_success {mgr : LaunchTubeManager} {req : WeaponAssignmentRequest}
    {d now : ℚ} {tube tube' : LaunchTube} {w : Weapon} {m : EngagementManager}
    (hv : mgr.getValidatedTube req.tubeNumber = some tube) (hw : tube.hasWeapon = false)
    (hc : createWeaponAndManager req.weaponKind d now = .ok (w, m))
    (ha : tube.assignWeapon (some w) (some m) req.assignmentInfo = (.success, tube')) :
    mgr.assignWeapon req d now =
      (.success, (mgr.setTube req.tubeNumber
        (mgr.pushEnvironment tube' req.assignmentInfo.systemTargetId)).notifyAssignment
        req.tubeNumber req.weaponKind true) := by
  simp [LaunchTubeManager.assignWeapon, hv, hw, hc, ha]

/-- The manager after a tube assignment that failed: the tube written back. -/
theorem assignWeapon_of_failure {mgr : LaunchTubeManager} {req : WeaponAssignmentRequest}
    {d now : ℚ} {tube : LaunchTube} {w : Weapon} {m : EngagementManager}
    (hv : mgr.getValidatedTube req.tubeNumber = some tube) (hw : tube.hasWeapon = false)
    (hc : createWeaponAndManager req.weaponKind d now = .ok (w, m))
    (hf : (tube.assignWeapon (some w) (some m) req.assignmentInfo).1 ≠ .success) :
    mgr.assignWeapon req d now =
      ((tube.assignWeapon (some w) (some m) req.assignmentInfo).1,
        mgr.setTube req.tubeNumber (tube.assignWeapon (some w) (some m) req.assignmentInfo).2) := by
  rcases ha : tube.assignWeapon (some w) (some m) req.assignmentInfo with ⟨_ | e, tube'⟩
  · simp [ha] at hf
  · simp [LaunchTubeManager.assignWeapon, hv, hw, hc, ha]

/-- **What `assignWeapon` can do**: fail and leave the manager as it was;
fail after the setup, leaving the requested tube, empty before, emptied again;
or succeed with the set-up tube, the environment pushed and the assignment
reported. -/
theorem assignWeapon_outcome (mgr : LaunchTubeManager) (req : WeaponAssignmentRequest) (d now : ℚ) :
    ((mgr.assignWeapon req d now).1 ≠ .success ∧ (mgr.assignWeapon req d now).2 = mgr) ∨
      ∃ tube, mgr.getValidatedTube req.tubeNumber = some tube ∧ tube.hasWeapon = false ∧
        (((mgr.assignWeapon req d now).1 ≠ .success ∧
            (mgr.assignWeapon req d now).2 = mgr.setTube req.tubeNumber tube.clearAssignment) ∨
          ∃ cls tube', plannerClassOf req.weaponKind = some cls ∧
            tube' = (tube.install (Weapon.create req.weaponKind d) (EngagementManager.create cls now)
              req.assignmentInfo).setupSpecificAssignment.2 ∧
            tube.assignWeapon (some (Weapon.create req.weaponKind d))
              (some (EngagementManager.create cls now)) req.assignmentInfo = (.success, tube') ∧
            mgr.assignWeapon req d now =
              (.success, (mgr.setTube req.tubeNumber
                (mgr.pushEnvironment tube' req.assignmentInfo.systemTargetId)).notifyAssignment
                req.tubeNumber req.weaponKind true)) := by
  rcases hv : mgr.getValidatedTube req.tubeNumber with _ | tube
  · exact .inl (by simp [LaunchTubeManager.assignWeapon, hv])
  cases hw : tube.hasWeapon
  swap
  · exact .inl (by simp [LaunchTubeManager.assignWeapon, hv, hw])
  rcases hc : createWeaponAndManager req.weaponKind d now with e | ⟨w, m⟩
  · exact .inl (by simp [LaunchTubeManager.assignWeapon, hv, hw, hc])
  obtain ⟨rfl, cls, hcls, rfl⟩ := createWeaponAndManager_ok hc
  rcases LaunchTube.assignWeapon_cases tube _ _ req.assignmentInfo with
    ⟨hf, he⟩ | ⟨-, -, -, ha⟩ | ⟨hf, he⟩
  · -- refused by the tube: written back unchanged
    rw [assignWeapon_of_failure hv hw hc hf, he, setTube_self (getValidatedTube_eq_some.1 hv).2.2]
    exact .inl ⟨hf, rfl⟩
  · exact .inr ⟨tube, rfl, hw, .inr ⟨cls, _, hcls, rfl, ha, assignWeapon_of_success hv hw hc ha⟩⟩
  · rw [assignWeapon_of_failure hv hw hc hf, he]
    exact .inr ⟨tube, rfl, hw, .inl ⟨hf, rfl⟩⟩

theorem WellFormed.assignWeapon {mgr : LaunchTubeManager} (h : mgr.WellFormed)
    (req : WeaponAssignmentRequest) (d now : ℚ) : (mgr.assignWeapon req d now).2.WellFormed := by
  rcases assignWeapon_outcome mgr req d now with
    ⟨-, he⟩ | ⟨tube, hv, -, ⟨-, he⟩ | ⟨cls, tube', -, -, ha, he⟩⟩ <;> rw [he]
  · exact h
  · exact h.setTube_of (getValidatedTube_eq_some.1 hv).2.2 fun hwf =>
      LaunchTube.clearAssignment_wellFormed hwf.tubeNumber_eq
  · refine (h.setTube_of (getValidatedTube_eq_some.1 hv).2.2 fun hwf => ?_).notifyAssignment _ _ _
    have := LaunchTube.assignWeapon_wellFormed hwf (some (Weapon.create req.weaponKind d))
      (some (EngagementManager.create cls now)) req.assignmentInfo
    rw [ha] at this
    exact this.of_shape (pushEnvironment_shape _ _ _)

/-- **Every operation keeps the manager well formed.** -/
theorem WellFormed.apply {mgr : LaunchTubeManager} (h : mgr.WellFormed) (op : ManagerOp) :
    (mgr.apply op).WellFormed := by
  cases op with
  | init => exact WellFormed.init h.minTubeNumber_eq h.maxTubeNumber_eq fun _ => h
  | shutdown =>
    have := h.forAssigned fun i _ hwf => LaunchTube.clearAssignment_wellFormed (i := i) hwf.tubeNumber_eq
    exact ⟨this.1, this.2, this.3⟩
  | assignWeapon req d now => exact h.assignWeapon req d now
  | unassignWeapon n => exact h.unassignWeapon n
  | requestWeaponStateChange n s c => exact h.onTube fun t => by simp
  | requestAllWeaponStateChange s =>
    have := @WellFormed.callAssigned mgr h (·.requestWeaponStateChange s false)
      fun _ _ hwf => hwf.of_shape (by simp)
    simp only [LaunchTubeManager.apply, requestAllWeaponStateChange]
    split <;> simp_all
  | emergencyStop =>
    have := @WellFormed.callAssigned mgr h emergencyRequest fun _ t hwf => hwf.of_shape (by
      unfold emergencyRequest; split_ifs <;> simp)
    simp only [LaunchTubeManager.apply, emergencyStop]
    split <;> simp_all
  | updateOwnShipInfo n =>
    have h' : WellFormed { mgr with ownShipInfo := n } := ⟨h.1, h.2, h.3⟩
    exact h'.forAssigned fun _ _ hwf => hwf.of_shape (by simp)
  | updateTargetInfo track =>
    have h' : WellFormed { mgr with
      targetInfoMap := Function.update mgr.targetInfoMap track.unTargetSystemID (some track) } :=
      ⟨h.1, h.2, h.3⟩
    exact h'.forAssigned fun _ _ hwf => hwf.of_shape (by simp)
  | setAxisCenter c =>
    have h' : WellFormed { mgr with axisCenter := c } := ⟨h.1, h.2, h.3⟩
    exact h'.forAssigned fun _ _ hwf => hwf.of_shape (by simp)
  | updateWaypoints n wps => exact h.onTube fun t => by simp
  | calculateEngagementPlan n => exact h.onTube fun t => by simp
  | calculateAllEngagementPlans => exact h.forAssigned fun _ _ hwf => hwf.of_shape (by simp)
  | update now => exact h.forAssigned fun _ _ hwf => hwf.of_shape (by simp)
  | setAssignmentChangeCallback b => exact ⟨h.1, h.2, h.3⟩

theorem WellFormed.run {mgr : LaunchTubeManager} (h : mgr.WellFormed) :
    ∀ ops : List ManagerOp, (mgr.run ops).WellFormed
  | [] => h
  | op :: ops => WellFormed.run (h.apply op) ops

/-- The states `initialize()` and then any sequence of operations reach. -/
def Reachable (mgr : LaunchTubeManager) : Prop :=
  ∃ maxTubes configMaxTubes ops, mgr = (create maxTubes configMaxTubes).init.2.run ops

theorem Reachable.wellFormed {mgr : LaunchTubeManager} (h : mgr.Reachable) : mgr.WellFormed := by
  obtain ⟨a, b, ops, rfl⟩ := h
  exact (init_create_wellFormed a b).run ops

/-- **Every tube of every reachable tube manager is well formed.** -/
theorem wellFormed_of_reachable {mgr : LaunchTubeManager} (h : mgr.Reachable) : mgr.WellFormed :=
  h.wellFormed

/-- An ALM for tube 2. -/
def almToTube2 : WeaponAssignmentRequest :=
  { tubeNumber := 2, weaponKind := .ALM, assignmentInfo := { tubeNumber := 2, weaponKind := .ALM } }

/-- An ASM for tube 5. -/
def asmToTube5 : WeaponAssignmentRequest :=
  { tubeNumber := 5, weaponKind := .ASM, assignmentInfo := { tubeNumber := 5, weaponKind := .ASM } }

/-- A six-tube manager, initialized, then an ALM assigned to tube 2 and an ASM
to tube 5. -/
def twoWeaponManager : LaunchTubeManager :=
  (create 6 6).init.2.run [.assignWeapon almToTube2 3 0, .assignWeapon asmToTube5 3 0]

end Planning

/-- The manager with two weapons is well formed, tubes 2 and 5 occupied. -/
theorem wellFormed_after_two_assignments :
    @Reachable SGeodeticToST3D.byFields (@twoWeaponManager SGeodeticToST3D.byFields) ∧
      (@twoWeaponManager SGeodeticToST3D.byFields).WellFormed ∧
      (@twoWeaponManager SGeodeticToST3D.byFields).assignedTubes = [2, 5] :=
  ⟨⟨6, 6, _, rfl⟩, @wellFormed_of_reachable SGeodeticToST3D.byFields _ ⟨6, 6, _, rfl⟩, by decide⟩

section Planning

variable [SGeodeticToST3D]

/-- What `assignWeapon` promises: either it succeeds, the requested tube was
empty and now holds the factory's fresh weapon, registered with it and in
`OFF`, not launched and without fire solution, and the factory's planner, with
the requested record, no other tube changed, and the assignment reported once
(when a callback is set); or it fails and the manager is exactly as before. -/
def AllOrNothing (mgr : LaunchTubeManager) (req : WeaponAssignmentRequest) (launchDelay now : ℚ) :
    Prop :=
  ((mgr.assignWeapon req launchDelay now).1 = .success ∧
      (∃ t, mgr.launchTubes req.tubeNumber = some t ∧ t.weapon = none) ∧
      (∃ t' w, (mgr.assignWeapon req launchDelay now).2.launchTubes req.tubeNumber = some t' ∧
        t'.weapon = some w ∧
        w = ((Weapon.create req.weaponKind launchDelay).init req.tubeNumber).addStateObserver
          req.tubeNumber ∧
        w.currentState = .OFF ∧ w.launched = false ∧ w.fireSolutionReady = false ∧
        t'.engagementMgr.map EngagementManager.ident =
          (plannerClassOf req.weaponKind).map (·, req.tubeNumber, req.assignmentInfo.weaponKind) ∧
        t'.assignmentInfo = req.assignmentInfo) ∧
      (∀ j, j ≠ req.tubeNumber →
        (mgr.assignWeapon req launchDelay now).2.launchTubes j = mgr.launchTubes j) ∧
      (mgr.assignWeapon req launchDelay now).2.assignmentChanges =
        mgr.assignmentChanges ++
          (if mgr.assignmentChangeCallback then [(req.tubeNumber, req.weaponKind, true)] else [])) ∨
    ((mgr.assignWeapon req launchDelay now).1 ≠ .success ∧
      (mgr.assignWeapon req launchDelay now).2 = mgr)

/-- **`assignWeapon` is all or nothing** from every reachable state. -/
theorem assignWeapon_all_or_nothing {mgr : LaunchTubeManager} (hr : mgr.Reachable)
    (req : WeaponAssignmentRequest) (launchDelay now : ℚ) : AllOrNothing mgr req launchDelay now := by
  unfold AllOrNothing
  have h := hr.wellFormed
  rcases assignWeapon_outcome mgr req launchDelay now with he | ⟨tube, hv, hw, hrest⟩
  · exact .inr he
  have hwf := h.getValidatedTube hv
  have hl := (getValidatedTube_eq_some.1 hv).2.2
  have hnone : tube.weapon = none := by simpa [LaunchTube.hasWeapon] using hw
  rcases hrest with ⟨hf, he⟩ | ⟨cls, T₂, hcls, hT₂, -, he⟩
  · -- the setup failed and emptied the tube again: it was empty, with the default record
    rw [LaunchTube.clearAssignment_of_empty hwf hnone, setTube_self hl] at he
    exact .inr ⟨hf, he⟩
  · -- installed and set up
    left
    rw [he]
    set T := tube.install (Weapon.create req.weaponKind launchDelay) (EngagementManager.create cls now)
      req.assignmentInfo with hT
    obtain ⟨⟨m', he', hid⟩, -⟩ := T.setupSpecificAssignment_spec
    have h2w : T₂.weapon = T.weapon := by rw [hT₂, he']
    have h2i : T₂.assignmentInfo = T.assignmentInfo := by rw [hT₂, he']
    have h2m : T₂.engagementMgr.map EngagementManager.ident = T.engagementMgr.map EngagementManager.ident := by
      rw [hT₂, he']; exact hid
    obtain ⟨hpw, hpi⟩ := pushEnvironment_weapon mgr T₂ req.assignmentInfo.systemTargetId
    have hps := congrArg (fun s => s.2.2.1)
      (pushEnvironment_shape mgr T₂ req.assignmentInfo.systemTargetId)
    simp only [LaunchTube.shape] at hps
    have hn := hwf.tubeNumber_eq
    refine ⟨rfl, ⟨tube, hl, hnone⟩,
      ⟨_, _, by simp, hpw.trans h2w, by simp [hT, LaunchTube.install, hn], rfl, rfl, rfl, ?_,
        hpi.trans h2i⟩, fun j hj => by simp [hj], ?_⟩
    · rw [hps, h2m]
      simp [hT, LaunchTube.install, hcls, EngagementManager.ident, EngagementManager.init,
        EngagementManager.create, hn]
    · unfold notifyAssignment
      split <;> simp_all [LaunchTubeManager.setTube]

end Planning

/-- The all-or-nothing promise with tubes 2 and 5 occupied: a second ASM for
tube 5 is refused, and an ASM for tube 3 installed. -/
theorem assignWeapon_all_or_nothing_two_weapons :
    @Reachable SGeodeticToST3D.byFields (@twoWeaponManager SGeodeticToST3D.byFields) ∧
      @AllOrNothing SGeodeticToST3D.byFields (@twoWeaponManager SGeodeticToST3D.byFields) asmToTube5 3 0 ∧
      @AllOrNothing SGeodeticToST3D.byFields (@twoWeaponManager SGeodeticToST3D.byFields)
        { tubeNumber := 3, weaponKind := .ASM, assignmentInfo := { tubeNumber := 3, weaponKind := .ASM } } 3 0 :=
  ⟨⟨6, 6, _, rfl⟩, @assignWeapon_all_or_nothing SGeodeticToST3D.byFields _ ⟨6, 6, _, rfl⟩ _ _ _,
    @assignWeapon_all_or_nothing SGeodeticToST3D.byFields _ ⟨6, 6, _, rfl⟩ _ _ _⟩

section Planning

variable [SGeodeticToST3D]

/-- Tube 1 of a fresh six-tube manager is asked for an ALM whose record says
ASM. -/
def mismatchedAssignment : LaunchTubeManager :=
  (create 6 6).init.2.run
    [.assignWeapon
      { tubeNumber := 1, weaponKind := .ALM,
        assignmentInfo := { tubeNumber := 1, weaponKind := .ASM } } 3 0]

/-- Whatever the conversion, the tube holds an ALM weapon, with an ALM
planner, under an ASM record whose kind the planner also took. -/
theorem mismatchedAssignment_tube :
    ((mismatchedAssignment.launchTubes 1).bind LaunchTube.weapon).map Weapon.weaponKind =
        some .ALM ∧
      (mismatchedAssignment.launchTubes 1).map (·.assignmentInfo.weaponKind) = some .ASM ∧
      ((mismatchedAssignment.launchTubes 1).bind LaunchTube.engagementMgr).map
          EngagementManager.ident = some (.alm, 1, .ASM) :=
  ⟨rfl, rfl, rfl⟩

end Planning

/-- The run above with the field-by-field conversion. -/
theorem mismatched_kinds_assigned :
    (((@mismatchedAssignment SGeodeticToST3D.byFields).launchTubes 1).bind
          LaunchTube.weapon).map Weapon.weaponKind = some .ALM ∧
      ((@mismatchedAssignment SGeodeticToST3D.byFields).launchTubes 1).map
          (·.assignmentInfo.weaponKind) = some .ASM ∧
      (((@mismatchedAssignment SGeodeticToST3D.byFields).launchTubes 1).bind
          LaunchTube.engagementMgr).map EngagementManager.ident = some (.alm, 1, .ASM) :=
  @mismatchedAssignment_tube SGeodeticToST3D.byFields

end LaunchTubeManager

/-! ### Updating the record of an assigned tube -/

namespace LaunchTube

section Planning

variable [SGeodeticToST3D]

/-- Tube 1 holding an ALM, its record naming system target 7. -/
def almTube : LaunchTube :=
  (create 1).run
    [.assignWeapon (createWeapon .ALM 3) (createEngagementManager .ALM 0)
      { tubeNumber := 1, weaponKind := .ALM, systemTargetId := 7 }]

end Planning

/-- On the ALM tube, a mine record fails its setup and stays installed in
place of the tube's record; a record naming tube 2 and an ASM succeeds. -/
theorem updateAssignmentInfo_overwrites_record_on_failure :
    (@almTube SGeodeticToST3D.byFields).assignmentInfo =
        { tubeNumber := 1, weaponKind := .ALM, systemTargetId := 7 } ∧
      (@updateAssignmentInfo SGeodeticToST3D.byFields (@almTube SGeodeticToST3D.byFields)
          { tubeNumber := 1, weaponKind := .M_MINE }).1 = .failure "Invalid mine engagement manager" ∧
      (@updateAssignmentInfo SGeodeticToST3D.byFields (@almTube SGeodeticToST3D.byFields)
          { tubeNumber := 1, weaponKind := .M_MINE }).2.assignmentInfo =
        { tubeNumber := 1, weaponKind := .M_MINE } ∧
      (@updateAssignmentInfo SGeodeticToST3D.byFields (@almTube SGeodeticToST3D.byFields)
          { tubeNumber := 2, weaponKind := .ASM, systemTargetId := 7 }).1 = .success :=
  ⟨rfl, rfl, rfl, rfl⟩

end LaunchTube

end WeaponControl
