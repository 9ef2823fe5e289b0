import WeaponControl.Tube.Planners

/-!
# The planner learns of the launch from the weapon

Two objects of a tube keep a launch flag: the weapon (`m_launched`, which
`WeaponBase::setLaunched` sets at the end of the launch sequence) and the
planner (`m_launched`, which its `update()` reads to move the weapon along the
plan).  Nothing copies one into the other but the notification
`notifyLaunchStatusChanged`, and it reaches the planner, through
`LaunchTube::onLaunchStatusChanged`, only because `assignWeapon` registers the
tube as the weapon's observer when it installs the pair (`LaunchTube.h`,
lines 141-160) and the notification names the weapon's tube.

A call of the weapon sets its flag exactly when it sends the notification
(`Weapon.requestStateChange_launched`), and delivering a call's notifications
sets the planner's flag exactly when one of them is the launch
(`deliver_plannerLaunched`).  So in every reachable state a tube's planner is
launched exactly when its weapon is (`launch_flags_agree_of_run`): in one
`LaunchTube::update()`, the planner moves the weapon along its plan exactly
when the tube, which reads the weapon's flag, no longer recomputes the plan.
-/

namespace WeaponControl

namespace LaunchTube

/-- Whether the tube's planner is launched, if it holds one. -/
def plannerLaunched (t : LaunchTube) : Option Bool := t.engagementMgr.map EngagementManager.launched

@[simp] theorem receive_tubeNumber (t : LaunchTube) (src : ℕ) (n : Note) :
    (t.receive src n).tubeNumber = t.tubeNumber :=
  congrArg Prod.fst (receive_shape t src n)

theorem receive_plannerLaunched {t : LaunchTube} {src : ℕ} (hsrc : src = t.tubeNumber) (n : Note) :
    (t.receive src n).plannerLaunched = t.plannerLaunched.map (· || decide (n = .launchStatus true)) := by
  cases n with
  | stateChanged a b => simp only [receive]; split_ifs <;> simp [plannerLaunched, Option.map_map, Function.comp_def]
  | launchStatus b =>
    simp only [receive, hsrc]
    split_ifs <;> simp_all [plannerLaunched, Option.map_map, Function.comp_def, EngagementManager.setLaunched]

/-- One notification through the observer loop. -/
theorem foldl_receive (src : ℕ) (n : Note) :
    ∀ (os : List ℕ) (t : LaunchTube), src = t.tubeNumber →
      (os.foldl (fun t o => if o = t.tubeNumber then t.receive src n else t) t).tubeNumber = t.tubeNumber ∧
      (os.foldl (fun t o => if o = t.tubeNumber then t.receive src n else t) t).plannerLaunched =
        t.plannerLaunched.map (· || decide (n = .launchStatus true ∧ t.tubeNumber ∈ os))
  | [], t, _ => by simp [Option.map_id']
  | o :: os, t, hsrc => by
    rw [List.foldl_cons]
    split_ifs with ho
    · obtain ⟨h1, h2⟩ := foldl_receive src n os (t.receive src n) (by simp [hsrc])
      rw [receive_tubeNumber] at h1 h2
      refine ⟨h1, ?_⟩
      rw [h2, receive_plannerLaunched hsrc, Option.map_map]
      congr 1
      funext x
      by_cases hn : n = .launchStatus true <;> simp [hn, ho]
    · obtain ⟨h1, h2⟩ := foldl_receive src n os t hsrc
      refine ⟨h1, h2.trans ?_⟩
      congr 1
      funext x
      simp [Ne.symm ho]

/-- **The tube's planner learns of a launch through the deliveries**: when the
weapon names the tube and has it among its observers, delivering a call's
notifications sets the planner launched exactly when the call reported a
launch. -/
theorem deliver_plannerLaunched (w : Weapon) :
    ∀ (ns : List Note) (t : LaunchTube), w.tubeNumber = t.tubeNumber → t.tubeNumber ∈ w.observers →
      (t.deliver w ns).plannerLaunched = t.plannerLaunched.map (· || decide (.launchStatus true ∈ ns))
  | [], t, _, _ => by simp [deliver, Option.map_id']
  | n :: ns, t, hsrc, hobs => by
    obtain ⟨h1, h2⟩ := foldl_receive w.tubeNumber n w.observers t hsrc
    have ih := deliver_plannerLaunched w ns _ (hsrc.trans h1.symm) (h1 ▸ hobs)
    simp only [deliver, List.foldl_cons] at ih ⊢
    rw [ih, h2, Option.map_map]
    congr 1
    funext x
    by_cases hn : n = .launchStatus true <;> simp [hn, hobs, eq_comm]

/-- The weapon of the tube names the tube and has it among its observers,
and the tube's planner is launched exactly when the weapon is. -/
def LaunchSynced (t : LaunchTube) : Prop :=
  ∀ w, t.weapon = some w → w.tubeNumber = t.tubeNumber ∧ t.tubeNumber ∈ w.observers ∧
    ∀ m, t.engagementMgr = some m → m.launched = w.launched

/-- What `LaunchSynced` reads. -/
def launchView (t : LaunchTube) : ℕ × Option (ℕ × List ℕ × Bool) × Option Bool :=
  (t.tubeNumber, t.weapon.map fun w => (w.tubeNumber, w.observers, w.launched), t.plannerLaunched)

theorem LaunchSynced.of_launchView {t t' : LaunchTube} (h : t.LaunchSynced)
    (hv : t'.launchView = t.launchView) : t'.LaunchSynced := by
  intro w' hw'
  simp only [launchView, Prod.mk.injEq, hw', Option.map_some'] at hv
  obtain ⟨hn, hw, hp⟩ := hv
  obtain ⟨w, hwt, hww⟩ := Option.map_eq_some'.1 hw.symm
  simp only [Prod.mk.injEq] at hww
  obtain ⟨h1, h2, h3⟩ := h w hwt
  refine ⟨by rw [← hww.1, h1, hn], by rw [hn, ← hww.2.1]; exact h2, fun m' hm' => ?_⟩
  have hl : t.plannerLaunched = some m'.launched := by rw [← hp]; simp [plannerLaunched, hm']
  obtain ⟨m, hm, hml⟩ := Option.map_eq_some'.1 hl
  rw [← hml, h3 m hm, hww.2.2]

theorem launchView_withManager {t : LaunchTube} {m m' : EngagementManager} (hm : t.engagementMgr = some m)
    (hl : m'.launched = m.launched) : (t.withManager m').launchView = t.launchView := by
  simp [launchView, plannerLaunched, withManager, hm, hl]

@[simp] theorem updateOwnShipInfo_launchView (t : LaunchTube) (n : NavInfo) :
    (t.updateOwnShipInfo n).launchView = t.launchView := by
  simp [launchView, plannerLaunched, updateOwnShipInfo, Option.map_map, Function.comp_def,
    EngagementManager.updateOwnShipInfo]

@[simp] theorem setAxisCenter_launchView (t : LaunchTube) (c : GeoPoint2D) :
    (t.setAxisCenter c).launchView = t.launchView := by
  simp [launchView, plannerLaunched, setAxisCenter, Option.map_map, Function.comp_def,
    EngagementManager.setAxisCenter]

@[simp] theorem notifyEngagementPlanChange_launchView (t : LaunchTube) :
    t.notifyEngagementPlanChange.launchView = t.launchView := by
  unfold notifyEngagementPlanChange; split_ifs <;> rfl

section Planning

variable [SGeodeticToST3D]

@[simp] theorem updateTargetInfo_launchView (t : LaunchTube) (track : TargetTrack) :
    (t.updateTargetInfo track).launchView = t.launchView := by
  unfold updateTargetInfo
  split
  · exact launchView_withManager (missileManager_eq_some.1 ‹_›).1 (by simp)
  · rfl

@[simp] theorem updateWaypoints_launchView (t : LaunchTube) (wps : List WeaponWaypoint) :
    (t.updateWaypoints wps).2.launchView = t.launchView := by
  unfold updateWaypoints
  split_ifs
  · rfl
  · split
    · exact launchView_withManager (mineManager_eq_some.1 ‹_›).1 (by simp)
    · rfl
  · split
    · exact launchView_withManager (missileManager_eq_some.1 ‹_›).1 (by simp)
    · rfl

@[simp] theorem setupSpecificAssignment_launchView (t : LaunchTube) :
    t.setupSpecificAssignment.2.launchView = t.launchView := by
  unfold setupSpecificAssignment
  split_ifs
  · unfold setupMineSpecificAssignment
    split
    · rfl
    · rename_i m hm
      split_ifs
      · exact launchView_withManager (mineManager_eq_some.1 hm).1 rfl
      · rfl
  · unfold setupMissileSpecificAssignment
    split
    · rfl
    · rename_i m hm
      split_ifs
      · exact launchView_withManager (missileManager_eq_some.1 hm).1 rfl
      · exact launchView_withManager (missileManager_eq_some.1 hm).1 (by simp)

@[simp] theorem calculateEngagementPlan_launchView (t : LaunchTube) :
    t.calculateEngagementPlan.2.launchView = t.launchView := by
  rcases calculateEngagementPlan_cases t with ⟨w, m, hw, hm, ⟨-, he⟩ | ⟨-, he⟩⟩ | ⟨-, he⟩ <;> rw [he]
  · rw [notifyEngagementPlanChange_launchView]
    simp [launchView, plannerLaunched, hw, hm, Weapon.setFireSolutionReady]
  · exact launchView_withManager hm (by simp)

end Planning

/-! ### The calls that change a flag -/

/-- A weapon call, with its notifications delivered to the tube, keeps the
flags in step. -/
theorem LaunchSynced.requestWeaponStateChange {t : LaunchTube} (h : t.LaunchSynced) (s : WpnCtrlState)
    (c : Bool) : (t.requestWeaponStateChange s c).2.LaunchSynced := by
  unfold LaunchTube.requestWeaponStateChange
  split
  · exact h
  rename_i w hw
  obtain ⟨hn, ho, hl⟩ := h w hw
  obtain ⟨-, hn', ho', -⟩ := w.requestStateChange_frame s c
  have hL := w.requestStateChange_launched s c
  rcases hr : w.requestStateChange s c with ⟨r, w', ns⟩
  rw [hr] at hn' ho' hL
  dsimp only at hn' ho' hL ⊢
  have htn : ({ t with weapon := some w' }.deliver w' ns).tubeNumber = t.tubeNumber :=
    congrArg Prod.fst (deliver_shape _ _ _)
  have hp : (t.withWeapon w' ns).plannerLaunched =
      t.plannerLaunched.map (· || decide (Note.launchStatus true ∈ ns)) :=
    deliver_plannerLaunched w' ns { t with weapon := some w' } (hn'.trans hn) (ho' ▸ ho)
  intro w'' hw''
  simp only [withWeapon, deliver_weapon, Option.some.injEq] at hw''
  subst hw''
  refine ⟨by rw [withWeapon, htn, hn', hn], by rw [withWeapon, htn, ho']; exact ho, fun m' hm' => ?_⟩
  -- the planner's flag and the weapon's gain the same launch notification
  have hl' : t.plannerLaunched.map (· || decide (Note.launchStatus true ∈ ns)) = some m'.launched := by
    rw [← hp]; simp [plannerLaunched, hm']
  obtain ⟨m, hm, hml⟩ := Option.map_eq_some'.1 hl'
  obtain ⟨m₀, hm₀, rfl⟩ := Option.map_eq_some'.1 hm
  rw [← hml, hl m₀ hm₀, hL]

/-- The weapon's automatic transitions send no launch, and the planner's
`update()` keeps its flag. -/
theorem advance_launchView {t : LaunchTube} {w : Weapon} (hw : t.weapon = some w)
    (hn : w.tubeNumber = t.tubeNumber) (ho : t.tubeNumber ∈ w.observers) (now : ℚ) :
    (t.advance w now).launchView = t.launchView := by
  obtain ⟨-, hn', ho', -, hl'⟩ := w.update_frame
  have hp : (t.withWeapon w.update.1 w.update.2).plannerLaunched = t.plannerLaunched := by
    rw [withWeapon, deliver_plannerLaunched w.update.1 w.update.2 { t with weapon := some w.update.1 }
      (hn'.trans hn) (ho' ▸ ho)]
    simp [Weapon.update_launchStatus, plannerLaunched, Option.map_map, Function.comp_def]
  have htn : (t.withWeapon w.update.1 w.update.2).tubeNumber = t.tubeNumber :=
    congrArg Prod.fst (deliver_shape _ _ _)
  simp only [launchView, advance, Prod.mk.injEq]
  refine ⟨htn, by simp [withWeapon, hw, hn', ho', hl'], ?_⟩
  rw [← hp]
  simp [plannerLaunched, Option.map_map, Function.comp_def]

/-- The pair `assignWeapon` installs: the weapon initialized for the tube
with the tube registered as its observer, neither launched. -/
theorem install_launchSynced (t : LaunchTube) (kind : WpnKind) (d : ℚ) (cls : PlannerClass) (now : ℚ)
    (info : AssignmentInfo) :
    (t.install (Weapon.create kind d) (EngagementManager.create cls now) info).LaunchSynced := by
  intro w hw
  simp only [install, Option.some.injEq] at hw
  subst hw
  refine ⟨rfl, by simp [Weapon.addStateObserver, Weapon.init, install], fun m hm => ?_⟩
  simp only [install, Option.some.injEq] at hm
  subst hm
  rfl

section Planning

variable [SGeodeticToST3D]

theorem LaunchSynced.update {t : LaunchTube} (h : t.LaunchSynced) (now : ℚ) : (t.update now).LaunchSynced := by
  unfold LaunchTube.update
  split
  · exact h
  rename_i w hw
  obtain ⟨hn, ho, -⟩ := h w hw
  have ha := h.of_launchView (advance_launchView hw hn ho now)
  dsimp only
  split_ifs
  · exact ha
  · exact ha.of_launchView (calculateEngagementPlan_launchView _)

end Planning

theorem LaunchSynced.of_empty {t : LaunchTube} (hw : t.weapon = none) : t.LaunchSynced :=
  fun w h => by simp [hw] at h

end LaunchTube

namespace LaunchTubeManager

section Planning

variable [SGeodeticToST3D]

/-- Every tube call keeps a tube's flags in step, and a tube gets its pair
only from `assignWeapon`, in step. -/
theorem launchSynced_tubeInvariant : TubeInvariant LaunchTube.LaunchSynced where
  newTube _ := LaunchTube.LaunchSynced.of_empty rfl
  clearAssignment _ _ := LaunchTube.LaunchSynced.of_empty rfl
  install t kind d cls now info _ :=
    (LaunchTube.install_launchSynced t kind d cls now info).of_launchView
      (LaunchTube.setupSpecificAssignment_launchView _)
  requestWeaponStateChange _ s c ht := ht.requestWeaponStateChange s c
  updateOwnShipInfo t n ht := ht.of_launchView (LaunchTube.updateOwnShipInfo_launchView t n)
  updateTargetInfo t track ht := ht.of_launchView (LaunchTube.updateTargetInfo_launchView t track)
  setAxisCenter t c ht := ht.of_launchView (LaunchTube.setAxisCenter_launchView t c)
  updateWaypoints t wps ht := ht.of_launchView (LaunchTube.updateWaypoints_launchView t wps)
  calculateEngagementPlan t ht := ht.of_launchView (LaunchTube.calculateEngagementPlan_launchView t)
  update _ now ht := ht.update now

/-- **A tube's planner is launched exactly when its weapon is**, in every
state that `initialize()` and any sequence of operations reach; and the
weapon of every tube names the tube and has it among its observers, which is
what carries the launch from the one to the other. -/
theorem launch_flags_agree_of_run (maxTubes configMaxTubes : ℕ) (ops : List ManagerOp) :
    EveryTube LaunchTube.LaunchSynced ((create maxTubes configMaxTubes).init.2.run ops) :=
  ((create_everyTube maxTubes configMaxTubes).init launchSynced_tubeInvariant).run
    launchSynced_tubeInvariant ops

end Planning

end LaunchTubeManager

end WeaponControl
