import WeaponControl.Tube.Queries
import WeaponControl.Tube.Environment
import WeaponControl.Engagement.Results

/-!
# The tube manager drives each planner through the planner's own interface

`LaunchTubeManager` and `LaunchTube` never write a planner's fields: every
planner a tube holds was built by `WeaponFactory::createEngagementManager`,
initialized by `LaunchTube::assignWeapon` (line 153) for the tube and the
record's kind, and from then on changed only by calls of the planner's public
operations.  One tube call is a run of planner operations on the tube's
planner (`DrivesPlanner`), so in every reachable state each planner is a
planner-level run (`plannerDriven_tubeInvariant`).

Whatever a planner keeps over its own runs therefore holds of every planner of
every reachable manager: the bounds of `Engagement.Results`, the current plan
of `Engagement.Staleness`, and a result naming the planner's tube and kind.
With the well-formedness of the tubes this fixes what the manager reports
(`engagement_reports_of_run`): `getEngagementResult` names the tube asked
for, every result has at most ten trajectory points, and a valid one runs from
its launch point to its target point with a positive flight time.

The lifting from one tube to the manager is stated once, for any property of a
tube that survives the tube calls the manager makes (`TubeInvariant`,
`EveryTube.run`).
-/

namespace WeaponControl

namespace EngagementManager

/-- The result names the planner's tube and kind, as `initialize` and every
recomputation write them. -/
def Named (m : EngagementManager) : Prop :=
  m.engagementResult.tubeNumber = m.tubeNumber ∧ m.engagementResult.weaponKind = m.weaponKind

theorem init_named (m : EngagementManager) (n : ℕ) (k : WpnKind) : (m.init n k).2.Named :=
  ⟨rfl, rfl⟩

/-- The planner the factory builds keeps the sizes `Bounded` records. -/
theorem create_bounded (cls : PlannerClass) (now : ℚ) : Bounded (create cls now) :=
  ⟨by simp [create], by simp [create], by simp [create], by simp [create], ⟨rfl, rfl⟩⟩

variable [SGeodeticToST3D]

theorem run_append (m : EngagementManager) (ops ops' : List PlannerOp) :
    m.run (ops ++ ops') = (m.run ops).run ops' :=
  List.foldl_append _ _ _ _

theorem missileTrajectory_named (m : EngagementManager) (t : ℚ) : (m.missileTrajectory t).2.Named := by
  unfold missileTrajectory; split <;> exact ⟨rfl, rfl⟩

theorem calculateTrajectory_named (m : EngagementManager) : m.calculateTrajectory.2.Named := by
  unfold calculateTrajectory
  split
  · exact missileTrajectory_named m 100
  · exact missileTrajectory_named m 80
  · exact missileTrajectory_named m 60
  · exact ⟨rfl, rfl⟩

theorem Named.calculateEngagementPlan {m : EngagementManager} (h : m.Named) :
    m.calculateEngagementPlan.2.Named := by
  unfold EngagementManager.calculateEngagementPlan
  split_ifs
  · exact calculateTrajectory_named m
  · exact calculateTrajectory_named m
  · exact h

/-- **Every operation keeps the result naming the planner's tube and kind.** -/
theorem Named.apply {m : EngagementManager} (h : m.Named) (op : PlannerOp) : (m.apply op).Named := by
  cases op with
  | init n k => exact init_named m n k
  | reset now => exact ⟨rfl, rfl⟩
  | update now =>
    simp only [EngagementManager.apply, update]
    split
    · exact h
    · exact h
  | calculateEngagementPlan => exact h.calculateEngagementPlan
  | setTargetPosition p => exact Named.calculateEngagementPlan h
  | updateTargetInfo t =>
    simp only [EngagementManager.apply, updateTargetInfo]
    split
    · exact Named.calculateEngagementPlan h
    · exact h
  | updateWaypoints wps =>
    simp only [EngagementManager.apply, updateWaypoints]
    split
    · exact h
    · exact Named.calculateEngagementPlan h
  | updateDropPlanWaypoints wps =>
    simp only [EngagementManager.apply, updateDropPlanWaypoints]
    split
    · exact h
    · exact Named.calculateEngagementPlan h
  | setAxisCenter c => exact h
  | updateOwnShipInfo n => exact h
  | setLaunched b => exact h
  | setSystemTarget id => exact h
  | setDropPlan l n => exact h

theorem Named.run {m : EngagementManager} (h : m.Named) : ∀ ops : List PlannerOp, (m.run ops).Named
  | [] => h
  | op :: ops => Named.run (h.apply op) ops

/-- A planner as a tube holds it: built by the factory for some class at some
time, initialized for a tube and a kind, then changed only by its own
operations. -/
def Driven (m : EngagementManager) : Prop :=
  ∃ cls now n k ops, m = (create cls now).run (.init n k :: ops)

theorem Driven.run {m : EngagementManager} (h : m.Driven) (ops : List PlannerOp) : (m.run ops).Driven := by
  obtain ⟨cls, now, n, k, ops₀, rfl⟩ := h
  exact ⟨cls, now, n, k, ops₀ ++ ops, (run_append _ (.init n k :: ops₀) ops).symm⟩

/-- What a driven planner keeps: the bounds the messages rely on, a current
valid plan, and a result naming its tube and kind. -/
theorem Driven.sound {m : EngagementManager} (h : m.Driven) :
    PlanBounds m ∧ EncodedCounts m ∧ PlanCurrent m ∧ m.Named := by
  obtain ⟨cls, now, n, k, ops, rfl⟩ := h
  have hb := (create_bounded cls now).run (.init n k :: ops)
  have hc := (create_current cls now).run (.init n k :: ops)
  exact ⟨.of_bounded hb hc, encodedCounts_of_bounded hb, hc, (init_named _ n k).run ops⟩

end EngagementManager

namespace LaunchTube

section Planning

variable [SGeodeticToST3D]

/-- The planner slot of `t'` is empty, or holds the planner of `t` after a
run of the planner's own operations: what one tube call may do to its
planner. -/
def DrivesPlanner (t t' : LaunchTube) : Prop :=
  ∀ m', t'.engagementMgr = some m' → ∃ m ops, t.engagementMgr = some m ∧ m' = m.run ops

theorem DrivesPlanner.trans {t₁ t₂ t₃ : LaunchTube} (h₁ : DrivesPlanner t₁ t₂)
    (h₂ : DrivesPlanner t₂ t₃) : DrivesPlanner t₁ t₃ := fun m₃ hm₃ => by
  obtain ⟨m₂, ops₂, hm₂, rfl⟩ := h₂ m₃ hm₃
  obtain ⟨m₁, ops₁, hm₁, rfl⟩ := h₁ m₂ hm₂
  exact ⟨m₁, ops₁ ++ ops₂, hm₁, (EngagementManager.run_append _ _ _).symm⟩

theorem drivesPlanner_of_eq {t t' : LaunchTube} (h : t'.engagementMgr = t.engagementMgr) :
    DrivesPlanner t t' :=
  fun m' hm' => ⟨m', [], h ▸ hm', rfl⟩

theorem drivesPlanner_of_map {t t' : LaunchTube} (op : PlannerOp)
    (h : t'.engagementMgr = t.engagementMgr.map (·.apply op)) : DrivesPlanner t t' := fun m' hm' => by
  rw [h, Option.map_eq_some'] at hm'
  obtain ⟨m, hm, rfl⟩ := hm'
  exact ⟨m, [op], hm, rfl⟩

theorem drivesPlanner_withManager {t : LaunchTube} {m : EngagementManager} (hm : t.engagementMgr = some m)
    (op : PlannerOp) : DrivesPlanner t (t.withManager (m.apply op)) :=
  drivesPlanner_of_map op (by simp [withManager, hm])

theorem drivesPlanner_clearAssignment (t : LaunchTube) : DrivesPlanner t t.clearAssignment :=
  fun _ h => by simp [clearAssignment] at h

theorem drivesPlanner_receive (t : LaunchTube) (src : ℕ) (n : Note) : DrivesPlanner t (t.receive src n) := by
  cases n with
  | stateChanged o n => exact drivesPlanner_of_eq (by simp only [receive]; split_ifs <;> rfl)
  | launchStatus b =>
    dsimp only [receive]
    split_ifs
    all_goals first
      | exact drivesPlanner_of_eq rfl
      | exact drivesPlanner_of_map (.setLaunched true) rfl

theorem drivesPlanner_withWeapon (t : LaunchTube) (w : Weapon) (ns : List Note) :
    DrivesPlanner t (t.withWeapon w ns) :=
  deliver_induction (DrivesPlanner t) (fun _ _ _ h => h.trans (drivesPlanner_receive _ _ _))
    (t := { t with weapon := some w }) (drivesPlanner_of_eq rfl) w ns

theorem drivesPlanner_requestWeaponStateChange (t : LaunchTube) (s : WpnCtrlState) (c : Bool) :
    DrivesPlanner t (t.requestWeaponStateChange s c).2 := by
  unfold LaunchTube.requestWeaponStateChange
  split
  · exact drivesPlanner_of_eq rfl
  · exact drivesPlanner_withWeapon _ _ _

theorem drivesPlanner_updateTargetInfo (t : LaunchTube) (track : TargetTrack) :
    DrivesPlanner t (t.updateTargetInfo track) := by
  unfold LaunchTube.updateTargetInfo
  split
  · exact drivesPlanner_withManager (missileManager_eq_some.1 ‹_›).1 (.updateTargetInfo track)
  · exact drivesPlanner_of_eq rfl

theorem drivesPlanner_updateWaypoints (t : LaunchTube) (wps : List WeaponWaypoint) :
    DrivesPlanner t (t.updateWaypoints wps).2 := by
  unfold LaunchTube.updateWaypoints
  split_ifs
  · exact drivesPlanner_of_eq rfl
  · split
    · exact drivesPlanner_withManager (mineManager_eq_some.1 ‹_›).1 (.updateDropPlanWaypoints wps)
    · exact drivesPlanner_of_eq rfl
  · split
    · exact drivesPlanner_withManager (missileManager_eq_some.1 ‹_›).1 (.updateWaypoints wps)
    · exact drivesPlanner_of_eq rfl

theorem drivesPlanner_calculateEngagementPlan (t : LaunchTube) :
    DrivesPlanner t t.calculateEngagementPlan.2 := by
  rcases calculateEngagementPlan_cases t with ⟨w, m, -, hm, ⟨-, he⟩ | ⟨-, he⟩⟩ | ⟨-, he⟩ <;> rw [he]
  · exact drivesPlanner_of_map .calculateEngagementPlan (by simp [hm]; rfl)
  · exact drivesPlanner_withManager hm .calculateEngagementPlan
  · exact drivesPlanner_of_eq rfl

theorem drivesPlanner_update (t : LaunchTube) (now : ℚ) : DrivesPlanner t (t.update now) := by
  unfold LaunchTube.update
  split
  · exact drivesPlanner_of_eq rfl
  · rename_i w _
    have ha : DrivesPlanner t (t.advance w now) :=
      (drivesPlanner_withWeapon t w.update.1 w.update.2).trans (drivesPlanner_of_map (.update now) rfl)
    dsimp only
    split_ifs
    · exact ha
    · exact ha.trans (drivesPlanner_calculateEngagementPlan _)

theorem drivesPlanner_setupSpecificAssignment (t : LaunchTube) :
    DrivesPlanner t t.setupSpecificAssignment.2 := by
  unfold setupSpecificAssignment
  split_ifs
  · unfold setupMineSpecificAssignment
    split
    · exact drivesPlanner_of_eq rfl
    · rename_i m hm
      split_ifs
      · exact drivesPlanner_withManager (mineManager_eq_some.1 hm).1 (.setDropPlan _ _)
      · exact drivesPlanner_of_eq rfl
  · unfold setupMissileSpecificAssignment
    split
    · exact drivesPlanner_of_eq rfl
    · rename_i m hm
      split_ifs
      · exact drivesPlanner_withManager (missileManager_eq_some.1 hm).1 (.setSystemTarget _)
      · exact drivesPlanner_withManager (missileManager_eq_some.1 hm).1 (.setTargetPosition _)

/-- Every planner the tube holds is `Driven`. -/
def PlannerDriven (t : LaunchTube) : Prop := ∀ m, t.engagementMgr = some m → m.Driven

theorem PlannerDriven.of_drives {t t' : LaunchTube} (h : t.PlannerDriven) (hd : DrivesPlanner t t') :
    t'.PlannerDriven := fun m' hm' => by
  obtain ⟨m, ops, hm, rfl⟩ := hd m' hm'
  exact (h m hm).run ops

end Planning

end LaunchTube

namespace LaunchTubeManager

/-! ### From one tube to the manager -/

/-- Every tube the manager holds has `P`. -/
def EveryTube (P : LaunchTube → Prop) (mgr : LaunchTubeManager) : Prop :=
  ∀ i t, mgr.launchTubes i = some t → P t

section Lifting

variable {P : LaunchTube → Prop} {mgr : LaunchTubeManager}

theorem EveryTube.setTube (h : EveryTube P mgr) {i : ℕ} {t : LaunchTube} (ht : P t) :
    EveryTube P (mgr.setTube i t) := fun j t' hj => by
  rw [setTube_launchTubes] at hj
  split_ifs at hj
  · exact Option.some.inj hj ▸ ht
  · exact h j t' hj

theorem EveryTube.forAssigned (h : EveryTube P mgr) {f : LaunchTube → LaunchTube}
    (hf : ∀ t, P t → P (f t)) : EveryTube P (mgr.forAssigned f) := fun j t' hj => by
  rw [forAssigned_eq] at hj
  dsimp only at hj
  split_ifs at hj
  · obtain ⟨t, ht, rfl⟩ := Option.map_eq_some'.1 hj
    exact hf t (h j t ht)
  · exact h j t' hj

theorem EveryTube.notifyAssignment (h : EveryTube P mgr) (n : ℕ) (k : WpnKind) (b : Bool) :
    EveryTube P (mgr.notifyAssignment n k b) := by
  unfold LaunchTubeManager.notifyAssignment
  split
  · exact h
  · exact h

theorem EveryTube.onTube (h : EveryTube P mgr) {n : ℕ} {call : LaunchTube → Result × LaunchTube}
    (hc : ∀ t, P t → P (call t).2) : EveryTube P (mgr.onTube n call).2 := by
  unfold LaunchTubeManager.onTube
  split
  · exact h
  · rename_i t ht
    exact h.setTube (hc t (h n t (getValidatedTube_eq_some.1 ht).2.2))

theorem EveryTube.unassignWeapon (h : EveryTube P mgr) (hc : ∀ t, P t → P t.clearAssignment) (n : ℕ) :
    EveryTube P (mgr.unassignWeapon n).2 := by
  rcases unassignWeapon_outcome mgr n with he | ⟨t, w, ht, -, he⟩ <;> rw [he]
  · exact h
  · exact (h.setTube (hc t (h n t (getValidatedTube_eq_some.1 ht).2.2))).notifyAssignment _ _ _

theorem create_everyTube (maxTubes configMaxTubes : ℕ) : EveryTube P (create maxTubes configMaxTubes) :=
  fun _ _ h => by simp [create] at h

end Lifting

section Planning

variable [SGeodeticToST3D]

/-- What a property of a tube must survive to hold of every tube in every
reachable state: it holds of the tube `initialize()` builds, and each tube
call that an operation of the manager makes keeps it. -/
structure TubeInvariant (P : LaunchTube → Prop) : Prop where
  newTube : ∀ i, P (newTube i)
  clearAssignment : ∀ t, P t → P t.clearAssignment
  /-- The installation and setup of the factory's pair by `assignWeapon`. -/
  install : ∀ t kind d cls now info, P t →
    P (t.install (Weapon.create kind d) (EngagementManager.create cls now) info).setupSpecificAssignment.2
  requestWeaponStateChange : ∀ t s c, P t → P (t.requestWeaponStateChange s c).2
  updateOwnShipInfo : ∀ t n, P t → P (t.updateOwnShipInfo n)
  updateTargetInfo : ∀ t track, P t → P (t.updateTargetInfo track)
  setAxisCenter : ∀ t c, P t → P (t.setAxisCenter c)
  updateWaypoints : ∀ t wps, P t → P (t.updateWaypoints wps).2
  calculateEngagementPlan : ∀ t, P t → P t.calculateEngagementPlan.2
  update : ∀ t now, P t → P (t.update now)

variable {P : LaunchTube → Prop} {mgr : LaunchTubeManager}

theorem TubeInvariant.pushEnvironment (hP : TubeInvariant P) (mgr : LaunchTubeManager) {t : LaunchTube}
    (ht : P t) (id : ℕ) : P (mgr.pushEnvironment t id) := by
  have h' := hP.updateOwnShipInfo _ mgr.ownShipInfo (hP.setAxisCenter t mgr.axisCenter ht)
  unfold LaunchTubeManager.pushEnvironment
  split_ifs
  · split
    · exact hP.updateTargetInfo _ _ h'
    · exact h'
  · exact h'

theorem EveryTube.init (h : EveryTube P mgr) (hP : TubeInvariant P) : EveryTube P mgr.init.2 := by
  unfold LaunchTubeManager.init
  split_ifs
  · exact h
  · intro i t hi
    dsimp only at hi
    split_ifs at hi
    · exact Option.some.inj hi ▸ hP.newTube i
    · exact h i t hi

theorem EveryTube.assignWeapon (h : EveryTube P mgr) (hP : TubeInvariant P)
    (req : WeaponAssignmentRequest) (d now : ℚ) : EveryTube P (mgr.assignWeapon req d now).2 := by
  rcases assignWeapon_outcome mgr req d now with
    ⟨-, he⟩ | ⟨tube, hv, -, ⟨-, he⟩ | ⟨cls, tube', -, rfl, -, he⟩⟩ <;> rw [he]
  · exact h
  · exact h.setTube (hP.clearAssignment _ (h _ _ (getValidatedTube_eq_some.1 hv).2.2))
  · refine (h.setTube (hP.pushEnvironment mgr ?_ _)).notifyAssignment _ _ _
    exact hP.install _ _ _ _ _ _ (h _ _ (getValidatedTube_eq_some.1 hv).2.2)

/-- **A property of a tube that survives the tube calls survives every
operation of the manager.** -/
theorem EveryTube.apply (h : EveryTube P mgr) (hP : TubeInvariant P) (op : ManagerOp) :
    EveryTube P (mgr.apply op) := by
  cases op with
  | init => exact h.init hP
  | shutdown => exact (h.forAssigned (f := LaunchTube.clearAssignment) hP.clearAssignment :)
  | assignWeapon req d now => exact h.assignWeapon hP req d now
  | unassignWeapon n => exact h.unassignWeapon hP.clearAssignment n
  | requestWeaponStateChange n s c => exact h.onTube fun t => hP.requestWeaponStateChange t s c
  | requestAllWeaponStateChange s =>
    show EveryTube P (mgr.requestAllWeaponStateChange s).2
    rw [requestAllWeaponStateChange_manager]
    exact h.forAssigned fun t => hP.requestWeaponStateChange t s false
  | emergencyStop =>
    show EveryTube P mgr.emergencyStop.2
    rw [emergencyStop_manager]
    exact h.forAssigned fun t ht => by
      unfold emergencyRequest; split_ifs <;> exact hP.requestWeaponStateChange _ _ _ ht
  | updateOwnShipInfo n =>
    exact @EveryTube.forAssigned P { mgr with ownShipInfo := n } h _ fun t => hP.updateOwnShipInfo t n
  | updateTargetInfo track =>
    exact @EveryTube.forAssigned P { mgr with
      targetInfoMap := Function.update mgr.targetInfoMap track.unTargetSystemID (some track) } h _
      fun t => hP.updateTargetInfo t track
  | setAxisCenter c =>
    exact @EveryTube.forAssigned P { mgr with axisCenter := c } h _ fun t => hP.setAxisCenter t c
  | updateWaypoints n wps => exact h.onTube fun t => hP.updateWaypoints t wps
  | calculateEngagementPlan n => exact h.onTube hP.calculateEngagementPlan
  | calculateAllEngagementPlans => exact h.forAssigned hP.calculateEngagementPlan
  | update now => exact h.forAssigned fun t => hP.update t now
  | setAssignmentChangeCallback b => exact h

theorem EveryTube.run {mgr : LaunchTubeManager} (h : EveryTube P mgr) (hP : TubeInvariant P) :
    ∀ ops : List ManagerOp, EveryTube P (mgr.run ops)
  | [] => h
  | op :: ops => EveryTube.run (h.apply hP op) hP ops

/-! ### The planners -/

/-- Each tube call drives the tube's planner through the planner's own
operations, and a tube gets its planner only from the factory, initialized. -/
theorem plannerDriven_tubeInvariant : TubeInvariant LaunchTube.PlannerDriven where
  newTube i := fun m h => by simp [newTube, LaunchTube.create, LaunchTube.setCallbacks] at h
  clearAssignment t ht := ht.of_drives (LaunchTube.drivesPlanner_clearAssignment t)
  install t kind d cls now info _ :=
    LaunchTube.PlannerDriven.of_drives (fun m hm => ⟨cls, now, _, _, [], (Option.some.inj hm).symm⟩)
      (LaunchTube.drivesPlanner_setupSpecificAssignment _)
  requestWeaponStateChange t s c ht := ht.of_drives (LaunchTube.drivesPlanner_requestWeaponStateChange t s c)
  updateOwnShipInfo t n ht := ht.of_drives (LaunchTube.drivesPlanner_of_map (.updateOwnShipInfo n) rfl)
  updateTargetInfo t track ht := ht.of_drives (LaunchTube.drivesPlanner_updateTargetInfo t track)
  setAxisCenter t c ht := ht.of_drives (LaunchTube.drivesPlanner_of_map (.setAxisCenter c) rfl)
  updateWaypoints t wps ht := ht.of_drives (LaunchTube.drivesPlanner_updateWaypoints t wps)
  calculateEngagementPlan t ht := ht.of_drives (LaunchTube.drivesPlanner_calculateEngagementPlan t)
  update t now ht := ht.of_drives (LaunchTube.drivesPlanner_update t now)

end Planning

/-! ### What the manager reports -/

/-- `getAllEngagementResults()` gives the result `getEngagementResult` gives
for each assigned tube, in order. -/
theorem getAllEngagementResults_eq (mgr : LaunchTubeManager) :
    mgr.getAllEngagementResults = mgr.assignedTubes.map mgr.getEngagementResult := by
  rw [getAllEngagementResults, ← List.filterMap_eq_map]
  refine List.filterMap_congr fun i hi => ?_
  obtain ⟨hv, ha⟩ := mem_assignedTubes.1 hi
  rcases ht : mgr.launchTubes i with _ | t
  · simp [ht] at ha
  · simp [getEngagementResult, getValidatedTube, hv, ht]

/-- What `getEngagementResult(n)` returns from a well-formed manager: an
empty result naming `n`, or the result of the planner of tube `n`, which holds
a weapon and a consistent assignment. -/
theorem WellFormed.getEngagementResult_cases {mgr : LaunchTubeManager} (h : mgr.WellFormed) (n : ℕ) :
    mgr.getEngagementResult n = { tubeNumber := n } ∨
      ∃ t w m, mgr.getValidatedTube n = some t ∧ t.weapon = some w ∧ t.engagementMgr = some m ∧
        LaunchTube.Consistent n t.assignmentInfo w m ∧ mgr.getEngagementResult n = m.engagementResult := by
  unfold getEngagementResult
  rcases hv : mgr.getValidatedTube n with _ | t
  · exact .inl rfl
  have hwf := h.getValidatedTube hv
  dsimp only
  unfold LaunchTube.getEngagementResult
  rcases hw : t.weapon with _ | w
  · exact .inl (by rw [hwf.tubeNumber_eq])
  rcases hm : t.engagementMgr with _ | m
  · exact .inl (by rw [hwf.tubeNumber_eq])
  · exact .inr ⟨t, w, m, rfl, hw, hm, hwf.occupied w m hw hm, rfl⟩

/-- What the manager reports of the plans. -/
structure ReportsPlans (mgr : LaunchTubeManager) : Prop where
  /-- `getEngagementResult(n)` names tube `n`, for every `n`. -/
  names : ∀ n, (mgr.getEngagementResult n).tubeNumber = n
  /-- The result of a tube holding a weapon has the kind of the tube's record. -/
  kind : ∀ n t, mgr.getValidatedTube n = some t → t.hasWeapon = true →
    (mgr.getEngagementResult n).weaponKind = t.assignmentInfo.weaponKind
  /-- At most ten trajectory points: the launch point, eight waypoints and
  the target. -/
  trajectory_le : ∀ n, (mgr.getEngagementResult n).trajectory.length ≤ 10
  /-- A positive flight time for a path. -/
  totalTime_pos : ∀ n, 2 ≤ (mgr.getEngagementResult n).trajectory.length →
    0 < (mgr.getEngagementResult n).totalTime_sec
  /-- A valid result is a plan from its launch point to its target point. -/
  valid : ∀ n, (mgr.getEngagementResult n).isValid = true →
    (mgr.getEngagementResult n).trajectory.head? = some (mgr.getEngagementResult n).launchPosition ∧
      (mgr.getEngagementResult n).trajectory.getLast? = some (mgr.getEngagementResult n).targetPosition
  /-- `getAllEngagementResults()` is the result of each assigned tube, in
  order. -/
  all : mgr.getAllEngagementResults = mgr.assignedTubes.map mgr.getEngagementResult

section Planning

variable [SGeodeticToST3D]

/-- A well-formed manager whose planners are driven reports its plans as
`ReportsPlans` says. -/
theorem ReportsPlans.of_driven {mgr : LaunchTubeManager} (h : mgr.WellFormed)
    (hd : EveryTube LaunchTube.PlannerDriven mgr) : ReportsPlans mgr := by
  have hcases := h.getEngagementResult_cases
  -- the planner of a tube is driven, so bounded and named
  have hplan : ∀ {n t m}, mgr.getValidatedTube n = some t → t.engagementMgr = some m →
      EngagementManager.PlanBounds m ∧ m.Named := fun hv hm => by
    obtain ⟨hb, -, -, hn⟩ := (hd _ _ (getValidatedTube_eq_some.1 hv).2.2 _ hm).sound
    exact ⟨hb, hn⟩
  refine ⟨fun n => ?_, fun n t hv hw => ?_, fun n => ?_, fun n => ?_, fun n => ?_,
    getAllEngagementResults_eq mgr⟩
  · rcases hcases n with he | ⟨t, w, m, hv, -, hm, hc, he⟩ <;> rw [he]
    exact (hplan hv hm).2.1.trans hc.2.2.1
  · have hwf := h.getValidatedTube hv
    obtain ⟨w, hw⟩ := Option.isSome_iff_exists.1 hw
    obtain ⟨m, hm⟩ := Option.isSome_iff_exists.1 (hwf.paired ▸ hw ▸ rfl : t.engagementMgr.isSome)
    have he : mgr.getEngagementResult n = m.engagementResult := by
      simp [getEngagementResult, hv, LaunchTube.getEngagementResult, hw, hm]
    rw [he, (hplan hv hm).2.2]
    exact (hwf.occupied w m hw hm).2.2.2.1
  · rcases hcases n with he | ⟨t, w, m, hv, -, hm, -, he⟩ <;> rw [he]
    · simp
    · have hb := (hplan hv hm).1
      have := hb.trajectory_le
      have := hb.waypoints_le
      omega
  · rcases hcases n with he | ⟨t, w, m, hv, -, hm, -, he⟩ <;> rw [he]
    · simp
    · exact (hplan hv hm).1.totalTime_pos
  · rcases hcases n with he | ⟨t, w, m, hv, -, hm, -, he⟩ <;> rw [he]
    · simp
    · exact fun hval => ((hplan hv hm).1.valid hval).2.2

/-- **What the manager reports of a plan, in every reachable state**:
`getEngagementResult(n)` names tube `n`, has the kind of the tube's record
when the tube holds a weapon, has at most ten trajectory points and a positive
flight time for a path, and, when valid, runs from its launch point to its
target point; `getAllEngagementResults()` is the result of each assigned
tube, in order. -/
theorem engagement_reports_of_run (maxTubes configMaxTubes : ℕ) (ops : List ManagerOp) :
    ReportsPlans ((create maxTubes configMaxTubes).init.2.run ops) :=
  .of_driven ((init_create_wellFormed maxTubes configMaxTubes).run ops)
    (((create_everyTube maxTubes configMaxTubes).init plannerDriven_tubeInvariant).run
      plannerDriven_tubeInvariant ops)

end Planning

end LaunchTubeManager

end WeaponControl
