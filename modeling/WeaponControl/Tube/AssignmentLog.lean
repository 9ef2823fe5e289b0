import WeaponControl.Tube.EmergencyStop

/-!
# The assignment-change callback and the listener behind it

`assignWeapon` and `unassignWeapon` end a successful call with
`m_assignmentChangeCallback(tubeNumber, weaponKind, assigned)`
(`WeaponControlService.h`, lines 222-225 and 246-249).  A listener that replays
these calls (`loggedKind`) knows what each tube holds as long as the callback
stays set and nothing else empties a tube (`ListenerInSync`): every other
operation keeps the kind of weapon each tube holds (`ListenerInSync.apply`).
So from `initialize()` and the callback set, along every sequence of
operations that neither clears the callback nor calls `shutdown()`, the
listener's replay gives the kind of weapon each tube holds, and no weapon for
an empty tube (`listener_in_sync_of_run`).

`shutdown()` (lines 168-180) is left out of those runs: it clears every
assigned tube with `clearAssignment()` and calls no callback.
-/

namespace WeaponControl

/-- What a listener that replays the calls `m_assignmentChangeCallback(n,
kind, assigned)` believes tube `n` holds: the kind of the last call for `n`,
if that call reported an assignment. -/
def loggedKind (n : ℕ) (log : List (ℕ × WpnKind × Bool)) : Option WpnKind :=
  log.foldl (fun acc e => if e.1 = n then (if e.2.2 then some e.2.1 else none) else acc) none

@[simp] theorem loggedKind_nil (n : ℕ) : loggedKind n [] = none := rfl

@[simp] theorem loggedKind_append_singleton (n m : ℕ) (k : WpnKind) (b : Bool)
    (log : List (ℕ × WpnKind × Bool)) :
    loggedKind n (log ++ [(m, k, b)]) = if m = n then (if b then some k else none) else loggedKind n log := by
  simp [loggedKind, List.foldl_append]

/-- The operation leaves the listener informed: it is not `shutdown()`, and
does not clear the assignment-change callback. -/
def ManagerOp.keepsListener : ManagerOp → Bool
  | .shutdown => false
  | .setAssignmentChangeCallback set => set
  | _ => true

/-- A call that keeps a tube's shape keeps the kind of weapon it holds. -/
theorem LaunchTube.weaponKind_of_shape {t t' : LaunchTube} (h : t'.shape = t.shape) :
    t'.weapon.map Weapon.weaponKind = t.weapon.map Weapon.weaponKind := by
  simpa [shape, Option.map_map, Function.comp_def] using congrArg (fun s => s.2.1.map Prod.snd) h

namespace LaunchTubeManager

/-- The listener knows what every tube holds: the manager is initialized, the
callback is set, and replaying its calls gives each tube's weapon kind. -/
structure ListenerInSync (mgr : LaunchTubeManager) : Prop where
  initialized : mgr.initialized = true
  callback : mgr.assignmentChangeCallback = true
  kinds : ∀ n t, mgr.launchTubes n = some t →
    loggedKind n mgr.assignmentChanges = t.weapon.map Weapon.weaponKind

/-- Tubes changed without changing the kind of weapon they hold, and nothing
else the listener reads changed. -/
theorem ListenerInSync.of_tubes {mgr mgr' : LaunchTubeManager} (h : mgr.ListenerInSync)
    (hi : mgr'.initialized = mgr.initialized) (hc : mgr'.assignmentChangeCallback = mgr.assignmentChangeCallback)
    (hl : mgr'.assignmentChanges = mgr.assignmentChanges)
    (ht : ∀ n t', mgr'.launchTubes n = some t' →
      ∃ t, mgr.launchTubes n = some t ∧ t'.weapon.map Weapon.weaponKind = t.weapon.map Weapon.weaponKind) :
    mgr'.ListenerInSync :=
  ⟨hi.trans h.initialized, hc.trans h.callback, fun n t' h' => by
    obtain ⟨t, ht, hk⟩ := ht n t' h'
    rw [hl, hk, h.kinds n t ht]⟩

theorem ListenerInSync.setTube {mgr : LaunchTubeManager} (h : mgr.ListenerInSync) {n : ℕ} {t t' : LaunchTube}
    (hn : mgr.launchTubes n = some t) (hk : t'.weapon.map Weapon.weaponKind = t.weapon.map Weapon.weaponKind) :
    (mgr.setTube n t').ListenerInSync :=
  h.of_tubes rfl rfl rfl fun j t'' hj => by
    rw [setTube_launchTubes] at hj
    split_ifs at hj with hjn
    · cases hj
      exact ⟨t, hjn ▸ hn, hk⟩
    · exact ⟨t'', hj, rfl⟩

theorem ListenerInSync.forAssigned {mgr : LaunchTubeManager} (h : mgr.ListenerInSync)
    {f : LaunchTube → LaunchTube} (hf : ∀ t, (f t).shape = t.shape) : (mgr.forAssigned f).ListenerInSync := by
  rw [forAssigned_eq]
  refine h.of_tubes rfl rfl rfl fun n t' ht' => ?_
  dsimp only at ht'
  split_ifs at ht'
  · obtain ⟨t, ht, rfl⟩ := Option.map_eq_some'.1 ht'
    exact ⟨t, ht, LaunchTube.weaponKind_of_shape (hf t)⟩
  · exact ⟨t', ht', rfl⟩

theorem ListenerInSync.onTube {mgr : LaunchTubeManager} (h : mgr.ListenerInSync) {n : ℕ}
    {call : LaunchTube → Result × LaunchTube} (hc : ∀ t, (call t).2.shape = t.shape) :
    (mgr.onTube n call).2.ListenerInSync := by
  unfold LaunchTubeManager.onTube
  split
  · exact h
  · rename_i t ht
    exact h.setTube (getValidatedTube_eq_some.1 ht).2.2 (LaunchTube.weaponKind_of_shape (hc t))

/-- A tube written back and the callback called for it, saying what the tube
now holds. -/
theorem ListenerInSync.setTube_notifyAssignment {mgr : LaunchTubeManager} (h : mgr.ListenerInSync) {n : ℕ}
    {t' : LaunchTube} {k : WpnKind} {b : Bool}
    (hn : t'.weapon.map Weapon.weaponKind = if b then some k else none) :
    ((mgr.setTube n t').notifyAssignment n k b).ListenerInSync := by
  rw [LaunchTubeManager.notifyAssignment, if_pos (show (mgr.setTube n t').assignmentChangeCallback = true from h.callback)]
  refine ⟨h.initialized, h.callback, fun j t hj => ?_⟩
  rw [setTube_launchTubes] at hj
  rw [loggedKind_append_singleton]
  by_cases hjn : j = n
  · subst hjn
    rw [if_pos rfl, Option.some.injEq] at hj
    rw [if_pos rfl, ← hj, hn]
  · rw [if_neg hjn] at hj
    rw [if_neg (Ne.symm hjn)]
    exact h.kinds j t hj

section Planning

variable [SGeodeticToST3D]

/-- The weapon `assignWeapon` installs is of the requested kind. -/
theorem installed_weaponKind (t : LaunchTube) (k : WpnKind) (d : ℚ) (m : EngagementManager)
    (info : AssignmentInfo) :
    ((t.install (Weapon.create k d) m info).setupSpecificAssignment.2.weapon).map Weapon.weaponKind = some k := by
  obtain ⟨⟨m', he, -⟩, -⟩ := (t.install (Weapon.create k d) m info).setupSpecificAssignment_spec
  rw [he]
  rfl

theorem ListenerInSync.assignWeapon {mgr : LaunchTubeManager} (h : mgr.ListenerInSync)
    (req : WeaponAssignmentRequest) (d now : ℚ) : (mgr.assignWeapon req d now).2.ListenerInSync := by
  rcases assignWeapon_outcome mgr req d now with
    ⟨-, he⟩ | ⟨tube, hv, hw, ⟨-, he⟩ | ⟨cls, tube', -, rfl, -, he⟩⟩ <;> rw [he]
  · exact h
  · -- the setup failed and emptied the tube, which was empty
    have hnone : tube.weapon = none := by simpa [LaunchTube.hasWeapon] using hw
    exact h.setTube (getValidatedTube_eq_some.1 hv).2.2 (by simp [LaunchTube.clearAssignment, hnone])
  · -- installed, and the callback reports it
    refine h.setTube_notifyAssignment ?_
    rw [(pushEnvironment_weapon mgr _ _).1, installed_weaponKind]
    rfl

end Planning

theorem ListenerInSync.unassignWeapon {mgr : LaunchTubeManager} (h : mgr.ListenerInSync) (n : ℕ) :
    (mgr.unassignWeapon n).2.ListenerInSync := by
  rcases unassignWeapon_outcome mgr n with he | ⟨t, w, hv, -, he⟩ <;> rw [he]
  · exact h
  · exact h.setTube_notifyAssignment rfl

/-- After `initialize()` and the callback set, nothing is logged and every tube
is fresh and empty. -/
theorem init_listenerInSync (maxTubes configMaxTubes : ℕ) :
    ((create maxTubes configMaxTubes).init.2.setAssignmentChangeCallback true).ListenerInSync := by
  refine ⟨rfl, rfl, fun n t ht => ?_⟩
  have ht' : (if 1 ≤ n ∧ n ≤ (create maxTubes configMaxTubes).maxTubeNumber then some (newTube n) else none) =
      some t := ht
  split_ifs at ht'
  cases ht'
  rfl

section Planning

variable [SGeodeticToST3D]

/-- **Every operation but `shutdown()` and clearing the callback keeps the
listener in sync.** -/
theorem ListenerInSync.apply {mgr : LaunchTubeManager} (h : mgr.ListenerInSync) (op : ManagerOp)
    (hop : op.keepsListener = true) : (mgr.apply op).ListenerInSync := by
  cases op with
  | init => simpa [LaunchTubeManager.apply, init, h.initialized] using h
  | shutdown => cases hop
  | assignWeapon req d now => exact h.assignWeapon req d now
  | unassignWeapon n => exact h.unassignWeapon n
  | requestWeaponStateChange n s c => exact h.onTube fun t => by simp
  | requestAllWeaponStateChange s =>
    show (mgr.requestAllWeaponStateChange s).2.ListenerInSync
    rw [requestAllWeaponStateChange_manager]
    exact h.forAssigned fun t => by simp
  | emergencyStop =>
    show mgr.emergencyStop.2.ListenerInSync
    rw [emergencyStop_manager]
    exact h.forAssigned fun t => by unfold emergencyRequest; split_ifs <;> simp
  | updateOwnShipInfo n =>
    exact (⟨h.1, h.2, h.3⟩ : ListenerInSync { mgr with ownShipInfo := n }).forAssigned fun t => by simp
  | updateTargetInfo track =>
    exact (⟨h.1, h.2, h.3⟩ : ListenerInSync { mgr with
      targetInfoMap := Function.update mgr.targetInfoMap track.unTargetSystemID (some track) }).forAssigned
        fun t => by simp
  | setAxisCenter c =>
    exact (⟨h.1, h.2, h.3⟩ : ListenerInSync { mgr with axisCenter := c }).forAssigned fun t => by simp
  | updateWaypoints n wps => exact h.onTube fun t => by simp
  | calculateEngagementPlan n => exact h.onTube fun t => by simp
  | calculateAllEngagementPlans => exact h.forAssigned fun t => by simp
  | update now => exact h.forAssigned fun t => by simp
  | setAssignmentChangeCallback b =>
    simp only [ManagerOp.keepsListener] at hop
    subst hop
    exact ⟨h.1, rfl, h.3⟩

theorem ListenerInSync.run {mgr : LaunchTubeManager} (h : mgr.ListenerInSync) :
    ∀ {ops : List ManagerOp}, (∀ op ∈ ops, op.keepsListener = true) → (mgr.run ops).ListenerInSync
  | [], _ => h
  | op :: _, hops =>
    (h.apply op (hops op (List.mem_cons_self _ _))).run fun o ho => hops o (List.mem_cons_of_mem _ ho)

/-- **The assignment-change callback tells its listener what every tube
holds**: after `initialize()` and the callback set, along every sequence of
operations that neither clears the callback nor calls `shutdown()`, replaying
the callback's calls gives, for every tube, the kind of the weapon it holds,
and nothing for an empty tube. -/
theorem listener_in_sync_of_run (maxTubes configMaxTubes : ℕ) (ops : List ManagerOp)
    (hops : ∀ op ∈ ops, op.keepsListener = true) :
    (((create maxTubes configMaxTubes).init.2.setAssignmentChangeCallback true).run ops).ListenerInSync :=
  (init_listenerInSync maxTubes configMaxTubes).run hops

end Planning

end LaunchTubeManager

/-- Tube 2 is assigned an ALM, turned on and unassigned, the callback set
throughout. -/
theorem LaunchTubeManager.listener_in_sync_assign_on_unassign :
    (∀ op ∈ [ManagerOp.assignWeapon almToTube2 0 0, .requestWeaponStateChange 2 .ON false, .unassignWeapon 2],
        op.keepsListener = true) ∧
      (@LaunchTubeManager.run SGeodeticToST3D.byFields
        ((LaunchTubeManager.create 6 6).init.2.setAssignmentChangeCallback true)
        [.assignWeapon almToTube2 0 0, .requestWeaponStateChange 2 .ON false, .unassignWeapon 2]).ListenerInSync :=
  have hops : ∀ op ∈ [ManagerOp.assignWeapon almToTube2 0 0, .requestWeaponStateChange 2 .ON false,
      .unassignWeapon 2], op.keepsListener = true := by decide
  ⟨hops, @LaunchTubeManager.listener_in_sync_of_run SGeodeticToST3D.byFields 6 6 _ hops⟩

end WeaponControl
