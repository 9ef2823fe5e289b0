import WeaponControl.Tube.LaunchStatus
import WeaponControl.Tube.EmergencyStop

/-!
# Every notification reaches the tube's callbacks, once and in order

`WeaponBase::setState` notifies the observers of every change of state, and
`setLaunched(true)` of the first launch (`WeaponBase.cpp`, lines 109-118 and
277-301).  A tube passes each notification of its own weapon to
`m_stateChangeCallback` or `m_launchStatusCallback` (`LaunchTube::onStateChanged`,
`onLaunchStatusChanged`), both of which `LaunchTubeManager::initialize` sets for
every tube it creates.  When the calls come one at a time, the transitions a
call reports lead from the state it found to the state it leaves, each starting
where the one before ended, and it reports a launch exactly when it sets the
flag for the first time (`Weapon.requestStateChange_traced`,
`Weapon.update_traced`).

The weapon `assignWeapon` installs names the tube and has the tube as its only
observer, and no call changes either (`Observed`), so each notification is
passed on exactly once.  Hence between a reachable state and any later one that
operations reach without initializing, shutting down or unassigning, every tube
that held a weapon still holds one, and its callbacks received exactly a chain
of transitions from the weapon's state before to its state after, and one
launch report if the weapon launched in between, none otherwise (`Reports`,
`callbacks_report_of_run`): no notification is lost, repeated or reordered.
(Across threads this fails: `notifications_out_of_commit_order`.)
-/

namespace WeaponControl

/-- The transition a notification reports, if it reports one. -/
def Note.stateChange? : Note → Option (WpnCtrlState × WpnCtrlState)
  | .stateChanged o n => some (o, n)
  | .launchStatus _ => none

/-- The launch status a notification reports, if it reports one. -/
def Note.launchStatus? : Note → Option Bool
  | .stateChanged _ _ => none
  | .launchStatus b => some b

/-- The transitions lead from `a` to `b`, each starting where the one before
ended and changing the state. -/
def Chained : WpnCtrlState → List (WpnCtrlState × WpnCtrlState) → WpnCtrlState → Prop
  | a, [], b => a = b
  | a, (o, n) :: rest, b => o = a ∧ o ≠ n ∧ Chained n rest b

instance decChained : (a : WpnCtrlState) → (l : List (WpnCtrlState × WpnCtrlState)) → (b : WpnCtrlState) →
    Decidable (Chained a l b)
  | a, [], b => inferInstanceAs (Decidable (a = b))
  | a, (o, n) :: rest, b =>
    have := decChained n rest b
    inferInstanceAs (Decidable (o = a ∧ o ≠ n ∧ Chained n rest b))

theorem Chained.append {a b c : WpnCtrlState} :
    ∀ {l l' : List (WpnCtrlState × WpnCtrlState)}, Chained a l b → Chained b l' c → Chained a (l ++ l') c
  | [], _, h, h' => by cases h; exact h'
  | (_, _) :: _, _, ⟨ho, hn, h⟩, h' => ⟨ho, hn, h.append h'⟩

/-- The launch reports owed over calls that take the launch flag from `a` to
`b`: one when the flag is set for the first time, none otherwise. -/
def launchesBetween (a b : Bool) : List Bool := if !a && b then [true] else []

@[simp] theorem launchesBetween_self (a : Bool) : launchesBetween a a = [] := by
  cases a <;> rfl

/-- The flag is never cleared, so the reports of two stretches add up. -/
theorem launchesBetween_append {a b c : Bool} (hab : a = true → b = true) (hbc : b = true → c = true) :
    launchesBetween a b ++ launchesBetween b c = launchesBetween a c := by
  cases a <;> cases b <;> cases c <;> simp_all [launchesBetween]

namespace Weapon

/-- The notifications of a call that leaves `p.1` trace the state from `w`'s
to `p.1`'s, and report a launch exactly when the call first sets the flag. -/
structure Traced (w : Weapon) (p : Weapon × List Note) : Prop where
  states : Chained w.currentState (p.2.filterMap Note.stateChange?) p.1.currentState
  launches : p.2.filterMap Note.launchStatus? = launchesBetween w.launched p.1.launched
  launched_mono : w.launched = true → p.1.launched = true

theorem Traced.append {w w₁ w₂ : Weapon} {n₁ n₂ : List Note} (h₁ : w.Traced (w₁, n₁))
    (h₂ : w₁.Traced (w₂, n₂)) : w.Traced (w₂, n₁ ++ n₂) where
  states := by
    rw [List.filterMap_append]
    exact h₁.states.append h₂.states
  launches := by
    rw [List.filterMap_append, h₁.launches, h₂.launches]
    exact launchesBetween_append h₁.launched_mono h₂.launched_mono
  launched_mono h := h₂.launched_mono (h₁.launched_mono h)

theorem traced_self (w : Weapon) : w.Traced (w, []) := ⟨rfl, (launchesBetween_self _).symm, id⟩

theorem setState_traced (w : Weapon) (s : WpnCtrlState) : w.Traced (w.setState s) where
  states := by
    unfold setState
    split_ifs with h
    · exact h
    · exact ⟨rfl, h, rfl⟩
  launches := by unfold setState; split_ifs <;> simp [Note.launchStatus?]
  launched_mono := id

theorem setLaunchedTrue_traced (w : Weapon) : w.Traced w.setLaunchedTrue := by
  unfold setLaunchedTrue
  split_ifs with h
  · exact traced_self w
  · have hs := setState_traced { w with launched := true } .POST_LAUNCH
    refine ⟨hs.states, ?_, fun _ => rfl⟩
    simp only [List.filterMap_cons, Note.launchStatus?, hs.launches]
    simp [launchesBetween, h, setState]

theorem processTurnOn_traced (w : Weapon) (c : Bool) : w.Traced (w.processTurnOn c).2 := by
  unfold processTurnOn
  split_ifs
  · exact (setState_traced w .POC).append (setState_traced _ .OFF)
  · exact (setState_traced w .POC).append (setState_traced _ .ON)

theorem processLaunch_traced (w : Weapon) (c : Bool) : w.Traced (w.processLaunch c).2 := by
  unfold processLaunch
  split_ifs
  · exact (setState_traced w .LAUNCH).append (setState_traced _ .ABORT)
  · exact (setState_traced w .LAUNCH).append (setLaunchedTrue_traced _)

/-- **A call reports every transition it makes, in order, and a launch
once**: from any weapon, for any target and token, the state changes
`requestStateChange` notifies lead from the state it found to the state it
leaves, and it notifies a launch exactly when it sets `m_launched`. -/
theorem requestStateChange_traced (w : Weapon) (ns : WpnCtrlState) (c : Bool) :
    w.Traced (w.requestStateChange ns c).2 := by
  unfold requestStateChange
  split_ifs
  · exact setState_traced w .ABORT
  · exact traced_self w
  · split
    · exact setState_traced w .OFF
    · exact processTurnOn_traced w c
    · exact processLaunch_traced w c
    · exact setState_traced w _

theorem update_traced (w : Weapon) : w.Traced w.update := by
  unfold update
  split_ifs
  · exact setState_traced w .RTL
  · exact setState_traced w .ON
  · exact traced_self w

end Weapon

namespace LaunchTube

theorem receive_stateChangeCallback (t : LaunchTube) (src : ℕ) (n : Note) :
    (t.receive src n).stateChangeCallback = t.stateChangeCallback := by
  cases n <;> simp only [receive] <;> split_ifs <;> rfl

theorem receive_launchStatusCallback (t : LaunchTube) (src : ℕ) (n : Note) :
    (t.receive src n).launchStatusCallback = t.launchStatusCallback := by
  cases n <;> simp only [receive] <;> split_ifs <;> rfl

/-- The tube passes a transition of its own weapon's to the callback. -/
theorem receive_stateChanges {t : LaunchTube} (hc : t.stateChangeCallback = true) (n : Note) :
    (t.receive t.tubeNumber n).stateChanges =
      t.stateChanges ++ (n.stateChange?.map fun p => (t.tubeNumber, p)).toList := by
  cases n <;> simp [receive, hc, Note.stateChange?]; split_ifs <;> rfl

/-- The tube passes a launch status of its own weapon's to the callback. -/
theorem receive_launchStatusChanges {t : LaunchTube} (hc : t.launchStatusCallback = true) (n : Note) :
    (t.receive t.tubeNumber n).launchStatusChanges =
      t.launchStatusChanges ++ (n.launchStatus?.map fun b => (t.tubeNumber, b)).toList := by
  cases n <;> simp [receive, hc, Note.launchStatus?]; split_ifs <;> rfl

/-- **A weapon observed by its tube alone reaches the callbacks once per
notification**: delivering a call's notifications appends the transitions and
the launch statuses they report, in order. -/
theorem deliver_logs (w : Weapon) :
    ∀ (ns : List Note) (t : LaunchTube), w.tubeNumber = t.tubeNumber → w.observers = [t.tubeNumber] →
      t.stateChangeCallback = true → t.launchStatusCallback = true →
      (t.deliver w ns).stateChanges =
          t.stateChanges ++ (ns.filterMap Note.stateChange?).map (fun p => (t.tubeNumber, p)) ∧
        (t.deliver w ns).launchStatusChanges =
          t.launchStatusChanges ++ (ns.filterMap Note.launchStatus?).map fun b => (t.tubeNumber, b)
  | [], t, _, _, _, _ => by simp [deliver]
  | n :: ns, t, hn, ho, hc, hl => by
    have hstep : t.deliver w (n :: ns) = (t.receive t.tubeNumber n).deliver w ns := by
      show (w.observers.foldl (fun t o => if o = t.tubeNumber then t.receive w.tubeNumber n else t) t).deliver
        w ns = _
      simp [ho, hn]
    obtain ⟨ih₁, ih₂⟩ := deliver_logs w ns (t.receive t.tubeNumber n) (by simp [hn]) (by simp [ho])
      (by rw [receive_stateChangeCallback, hc]) (by rw [receive_launchStatusCallback, hl])
    rw [hstep, ih₁, ih₂, receive_stateChanges hc, receive_launchStatusChanges hl, receive_tubeNumber]
    cases n <;> simp [Note.stateChange?, Note.launchStatus?]

/-- What `Observed` and `Reports` read. -/
def logView (t : LaunchTube) :
    ℕ × Bool × Bool × List (ℕ × WpnCtrlState × WpnCtrlState) × List (ℕ × Bool) ×
      Option (ℕ × List ℕ × WpnCtrlState × Bool) :=
  (t.tubeNumber, t.stateChangeCallback, t.launchStatusCallback, t.stateChanges, t.launchStatusChanges,
    t.weapon.map fun w => (w.tubeNumber, w.observers, w.currentState, w.launched))

/-- Both callbacks are set, and the weapon, if any, names the tube and has it
as its only observer, so that each of its notifications reaches the callbacks
once. -/
structure Observed (t : LaunchTube) : Prop where
  stateCallback : t.stateChangeCallback = true
  launchCallback : t.launchStatusCallback = true
  weapon : ∀ w, t.weapon = some w → w.tubeNumber = t.tubeNumber ∧ w.observers = [t.tubeNumber]

/-- What the callbacks received between a tube holding `w` and a later state
of it holding `w'`: a chain of transitions naming the tube from `w`'s state to
`w'`'s, and one launch report if the weapon launched in between. -/
structure Reported (t t' : LaunchTube) (w w' : Weapon) : Prop where
  tubeNumber : t'.tubeNumber = t.tubeNumber
  states : ∃ L, t'.stateChanges = t.stateChanges ++ L.map (fun p => (t.tubeNumber, p)) ∧
    Chained w.currentState L w'.currentState
  launches : t'.launchStatusChanges =
    t.launchStatusChanges ++ (launchesBetween w.launched w'.launched).map fun b => (t.tubeNumber, b)
  launched_mono : w.launched = true → w'.launched = true

/-- If `t` holds a weapon, `t'` holds one, and the callbacks received in
between exactly what the weapon did. -/
def Reports (t t' : LaunchTube) : Prop :=
  ∀ w, t.weapon = some w → ∃ w', t'.weapon = some w' ∧ Reported t t' w w'

theorem Reported.refl (t : LaunchTube) (w : Weapon) : Reported t t w w :=
  ⟨rfl, ⟨[], by simp, rfl⟩, by simp, id⟩

theorem Reported.trans {t t' t'' : LaunchTube} {w w' w'' : Weapon} (h₁ : Reported t t' w w')
    (h₂ : Reported t' t'' w' w'') : Reported t t'' w w'' where
  tubeNumber := h₂.tubeNumber.trans h₁.tubeNumber
  states := by
    obtain ⟨L₁, e₁, c₁⟩ := h₁.states
    obtain ⟨L₂, e₂, c₂⟩ := h₂.states
    exact ⟨L₁ ++ L₂, by rw [e₂, e₁, h₁.tubeNumber]; simp, c₁.append c₂⟩
  launches := by
    rw [h₂.launches, h₁.launches, h₁.tubeNumber, List.append_assoc, ← List.map_append,
      launchesBetween_append h₁.launched_mono h₂.launched_mono]
  launched_mono h := h₂.launched_mono (h₁.launched_mono h)

theorem Reports.refl (t : LaunchTube) : t.Reports t := fun w hw => ⟨w, hw, .refl t w⟩

theorem Reports.trans {t t' t'' : LaunchTube} (h₁ : t.Reports t') (h₂ : t'.Reports t'') : t.Reports t'' :=
  fun w hw =>
    let ⟨w', hw', r₁⟩ := h₁ w hw
    let ⟨w'', hw'', r₂⟩ := h₂ w' hw'
    ⟨w'', hw'', r₁.trans r₂⟩

theorem Reports.of_empty {t : LaunchTube} (hw : t.weapon = none) (t' : LaunchTube) : t.Reports t' :=
  fun w h => by simp [hw] at h

theorem Reports.of_logView {t t' : LaunchTube} (hv : t'.logView = t.logView) : t.Reports t' := by
  intro w hw
  simp only [logView, Prod.mk.injEq, hw, Option.map_some'] at hv
  obtain ⟨hn, -, -, hs, hl, hw'⟩ := hv
  obtain ⟨w', hw', hww⟩ := Option.map_eq_some'.1 hw'
  simp only [Prod.mk.injEq] at hww
  refine ⟨w', hw', hn, ⟨[], by simp [hs], hww.2.2.1 ▸ rfl⟩, ?_, fun h => hww.2.2.2 ▸ h⟩
  rw [hl, hww.2.2.2]
  simp

theorem Observed.of_logView {t t' : LaunchTube} (h : t.Observed) (hv : t'.logView = t.logView) :
    t'.Observed := by
  simp only [logView, Prod.mk.injEq] at hv
  obtain ⟨hn, hc, hl, -, -, hw⟩ := hv
  refine ⟨hc ▸ h.stateCallback, hl ▸ h.launchCallback, fun w' hw' => ?_⟩
  rw [hw'] at hw
  obtain ⟨w, hwt, hww⟩ := Option.map_eq_some'.1 hw.symm
  simp only [Prod.mk.injEq] at hww
  obtain ⟨h1, h2⟩ := h.weapon w hwt
  exact ⟨by rw [← hww.1, h1, hn], by rw [← hww.2.1, h2, hn]⟩

theorem Observed.of_empty {t : LaunchTube} (hc : t.stateChangeCallback = true)
    (hl : t.launchStatusCallback = true) (hw : t.weapon = none) : t.Observed :=
  ⟨hc, hl, fun w h => by simp [hw] at h⟩

section WeaponCall

variable {t : LaunchTube} {w w' : Weapon} {ns : List Note}

theorem withWeapon_tubeNumber : (t.withWeapon w' ns).tubeNumber = t.tubeNumber :=
  deliver_eq_of_receive LaunchTube.tubeNumber receive_tubeNumber _ _ _

/-- A weapon call that keeps the weapon's number and observers keeps the
tube observed. -/
theorem Observed.withWeapon (h : t.Observed) (hw : t.weapon = some w) (hn : w'.tubeNumber = w.tubeNumber)
    (ho : w'.observers = w.observers) : (t.withWeapon w' ns).Observed := by
  obtain ⟨h1, h2⟩ := h.weapon w hw
  refine ⟨(deliver_eq_of_receive _ receive_stateChangeCallback _ _ _).trans h.stateCallback,
    (deliver_eq_of_receive _ receive_launchStatusCallback _ _ _).trans h.launchCallback, fun w'' hw'' => ?_⟩
  simp only [LaunchTube.withWeapon, deliver_weapon, Option.some.injEq] at hw''
  subst hw''
  exact ⟨by rw [withWeapon_tubeNumber, hn, h1], by rw [withWeapon_tubeNumber, ho, h2]⟩

/-- **A traced weapon call, its notifications delivered, reports to the
callbacks exactly what it did.** -/
theorem Observed.reports_withWeapon (h : t.Observed) (hw : t.weapon = some w)
    (hn : w'.tubeNumber = w.tubeNumber) (ho : w'.observers = w.observers) (htr : w.Traced (w', ns)) :
    t.Reports (t.withWeapon w' ns) := by
  intro w₀ hw₀
  obtain rfl : w₀ = w := Option.some.inj (hw₀.symm.trans hw)
  obtain ⟨h1, h2⟩ := h.weapon w₀ hw
  obtain ⟨hs, hl⟩ := deliver_logs w' ns { t with weapon := some w' } (hn.trans h1) (ho.trans h2)
    h.stateCallback h.launchCallback
  refine ⟨w', by simp [LaunchTube.withWeapon], withWeapon_tubeNumber,
    ⟨_, hs, htr.states⟩, ?_, htr.launched_mono⟩
  rw [LaunchTube.withWeapon, hl]
  exact congrArg (fun l => t.launchStatusChanges ++ l.map fun b => (t.tubeNumber, b)) htr.launches

end WeaponCall

theorem Observed.requestWeaponStateChange {t : LaunchTube} (h : t.Observed) (s : WpnCtrlState)
    (c : Bool) : (t.requestWeaponStateChange s c).2.Observed ∧ t.Reports (t.requestWeaponStateChange s c).2 := by
  unfold LaunchTube.requestWeaponStateChange
  split
  · exact ⟨h, .refl t⟩
  · rename_i w hw
    obtain ⟨-, hn, ho, -⟩ := w.requestStateChange_frame s c
    exact ⟨h.withWeapon hw hn ho, h.reports_withWeapon hw hn ho (w.requestStateChange_traced s c)⟩

@[simp] theorem withManager_logView (t : LaunchTube) (m : EngagementManager) :
    (t.withManager m).logView = t.logView := rfl

@[simp] theorem updateOwnShipInfo_logView (t : LaunchTube) (n : NavInfo) :
    (t.updateOwnShipInfo n).logView = t.logView := rfl

@[simp] theorem setAxisCenter_logView (t : LaunchTube) (c : GeoPoint2D) :
    (t.setAxisCenter c).logView = t.logView := rfl

@[simp] theorem notifyEngagementPlanChange_logView (t : LaunchTube) :
    t.notifyEngagementPlanChange.logView = t.logView := by
  unfold notifyEngagementPlanChange; split_ifs <;> rfl

section Planning

variable [SGeodeticToST3D]

@[simp] theorem updateTargetInfo_logView (t : LaunchTube) (track : TargetTrack) :
    (t.updateTargetInfo track).logView = t.logView := by
  unfold updateTargetInfo; split <;> rfl

@[simp] theorem updateWaypoints_logView (t : LaunchTube) (wps : List WeaponWaypoint) :
    (t.updateWaypoints wps).2.logView = t.logView := by
  unfold updateWaypoints
  split_ifs
  · rfl
  · split <;> rfl
  · split <;> rfl

@[simp] theorem setupSpecificAssignment_logView (t : LaunchTube) :
    t.setupSpecificAssignment.2.logView = t.logView := by
  obtain ⟨⟨m', he, -⟩, -⟩ := t.setupSpecificAssignment_spec
  rw [he]
  rfl

@[simp] theorem calculateEngagementPlan_logView (t : LaunchTube) :
    t.calculateEngagementPlan.2.logView = t.logView := by
  rcases calculateEngagementPlan_cases t with ⟨w, m, hw, -, ⟨-, he⟩ | ⟨-, he⟩⟩ | ⟨-, he⟩ <;> rw [he]
  · rw [notifyEngagementPlanChange_logView]
    simp [logView, hw, Weapon.setFireSolutionReady]
  · rfl

theorem Observed.update {t : LaunchTube} (h : t.Observed) (now : ℚ) :
    (t.update now).Observed ∧ t.Reports (t.update now) := by
  unfold LaunchTube.update
  split
  · exact ⟨h, .refl t⟩
  · rename_i w hw
    obtain ⟨-, hn, ho, -, -⟩ := w.update_frame
    have ho' : (t.advance w now).Observed := (h.withWeapon hw hn ho).of_logView rfl
    have hr : t.Reports (t.advance w now) :=
      (h.reports_withWeapon hw hn ho w.update_traced).trans (.of_logView rfl)
    dsimp only
    split_ifs
    · exact ⟨ho', hr⟩
    · exact ⟨ho'.of_logView (calculateEngagementPlan_logView _), hr.trans (.of_logView (by simp))⟩

end Planning

/-- The weapon `assignWeapon` installs names the tube and is observed by it
alone. -/
theorem Observed.install {t : LaunchTube} (h : t.Observed) (kind : WpnKind) (d : ℚ)
    (m : EngagementManager) (info : AssignmentInfo) : (t.install (Weapon.create kind d) m info).Observed := by
  refine ⟨h.stateCallback, h.launchCallback, fun w hw => ?_⟩
  simp only [LaunchTube.install, Option.some.injEq] at hw
  subst hw
  exact ⟨rfl, rfl⟩

end LaunchTube

/-- The operations of the manager that neither initialize, shut down nor
unassign, and so take no weapon out of a tube. -/
def ManagerOp.keepsWeapons : ManagerOp → Bool
  | .init | .shutdown | .unassignWeapon _ => false
  | _ => true

namespace LaunchTubeManager

section Planning

variable [SGeodeticToST3D]

/-- Every tube call keeps the tube observed, and a tube gets its weapon only
from `assignWeapon`. -/
theorem observed_tubeInvariant : TubeInvariant LaunchTube.Observed where
  newTube _ := LaunchTube.Observed.of_empty rfl rfl rfl
  clearAssignment _ ht := LaunchTube.Observed.of_empty ht.stateCallback ht.launchCallback rfl
  install _ kind d _ _ info ht :=
    (ht.install kind d _ info).of_logView (LaunchTube.setupSpecificAssignment_logView _)
  requestWeaponStateChange _ s c ht := (ht.requestWeaponStateChange s c).1
  updateOwnShipInfo t n ht := ht.of_logView (LaunchTube.updateOwnShipInfo_logView t n)
  updateTargetInfo t track ht := ht.of_logView (LaunchTube.updateTargetInfo_logView t track)
  setAxisCenter t c ht := ht.of_logView (LaunchTube.setAxisCenter_logView t c)
  updateWaypoints t wps ht := ht.of_logView (LaunchTube.updateWaypoints_logView t wps)
  calculateEngagementPlan t ht := ht.of_logView (LaunchTube.calculateEngagementPlan_logView t)
  update _ now ht := (ht.update now).1

end Planning

/-- Every tube of `mgr` is still there in `mgr'`, and its callbacks received
in between what its weapon did (`LaunchTube.Reports`). -/
def TubesReport (mgr mgr' : LaunchTubeManager) : Prop :=
  ∀ n t, mgr.launchTubes n = some t → ∃ t', mgr'.launchTubes n = some t' ∧ t.Reports t'

section Lifting

variable {mgr mgr' mgr'' : LaunchTubeManager}

theorem TubesReport.of_launchTubes (h : mgr'.launchTubes = mgr.launchTubes) : TubesReport mgr mgr' :=
  fun _ t ht => ⟨t, h ▸ ht, .refl t⟩

theorem TubesReport.trans (h₁ : TubesReport mgr mgr') (h₂ : TubesReport mgr' mgr'') : TubesReport mgr mgr'' :=
  fun n t ht =>
    let ⟨t', ht', r₁⟩ := h₁ n t ht
    let ⟨t'', ht'', r₂⟩ := h₂ n t' ht'
    ⟨t'', ht'', r₁.trans r₂⟩

theorem TubesReport.setTube {n : ℕ} {t t' : LaunchTube} (ht : mgr.launchTubes n = some t)
    (hr : t.Reports t') : TubesReport mgr (mgr.setTube n t') := fun j u hu => by
  rw [setTube_launchTubes]
  split_ifs with hj
  · subst hj
    exact ⟨t', rfl, Option.some.inj (ht.symm.trans hu) ▸ hr⟩
  · exact ⟨u, hu, .refl u⟩

theorem TubesReport.forAssigned (hobs : EveryTube LaunchTube.Observed mgr) {f : LaunchTube → LaunchTube}
    (hf : ∀ t : LaunchTube, t.Observed → t.Reports (f t)) : TubesReport mgr (mgr.forAssigned f) := fun j t ht => by
  rw [forAssigned_eq]
  dsimp only
  split_ifs
  · exact ⟨f t, by rw [ht]; rfl, hf t (hobs j t ht)⟩
  · exact ⟨t, ht, .refl t⟩

theorem TubesReport.onTube (hobs : EveryTube LaunchTube.Observed mgr) {n : ℕ}
    {call : LaunchTube → Result × LaunchTube} (hc : ∀ t : LaunchTube, t.Observed → t.Reports (call t).2) :
    TubesReport mgr (mgr.onTube n call).2 := by
  unfold LaunchTubeManager.onTube
  split
  · exact .of_launchTubes rfl
  · rename_i t ht
    have ht' := (getValidatedTube_eq_some.1 ht).2.2
    exact .setTube ht' (hc t (hobs n t ht'))

/-- `assignWeapon` writes only to a tube without a weapon. -/
theorem TubesReport.assignWeapon [SGeodeticToST3D] (req : WeaponAssignmentRequest) (d now : ℚ) :
    TubesReport mgr (mgr.assignWeapon req d now).2 := by
  rcases assignWeapon_outcome mgr req d now with
    ⟨-, he⟩ | ⟨tube, hv, hw, ⟨-, he⟩ | ⟨cls, tube', -, rfl, -, he⟩⟩ <;> rw [he]
  · exact .of_launchTubes rfl
  all_goals
    have ht := (getValidatedTube_eq_some.1 hv).2.2
    have hn : tube.weapon = none := by simpa [LaunchTube.hasWeapon] using hw
  · exact .setTube ht (.of_empty hn _)
  · exact (TubesReport.setTube ht (.of_empty hn _)).trans
      (.of_launchTubes (notifyAssignment_launchTubes _ _ _ _))

end Lifting

section Planning

variable [SGeodeticToST3D]

/-- **An operation that takes no weapon out reports every tube's weapon to its
callbacks.** -/
theorem TubesReport.apply {mgr : LaunchTubeManager} (hobs : EveryTube LaunchTube.Observed mgr)
    (op : ManagerOp) (hop : op.keepsWeapons = true) : TubesReport mgr (mgr.apply op) := by
  cases op with
  | init | shutdown | unassignWeapon n => cases hop
  | assignWeapon req d now => exact .assignWeapon req d now
  | requestWeaponStateChange n s c =>
    exact .onTube hobs fun t ht => (ht.requestWeaponStateChange s c).2
  | requestAllWeaponStateChange s =>
    show TubesReport mgr (mgr.requestAllWeaponStateChange s).2
    rw [requestAllWeaponStateChange_manager]
    exact .forAssigned hobs fun t ht => (ht.requestWeaponStateChange s false).2
  | emergencyStop =>
    show TubesReport mgr mgr.emergencyStop.2
    rw [emergencyStop_manager]
    exact .forAssigned hobs fun t ht => by
      unfold emergencyRequest; split_ifs <;> exact (ht.requestWeaponStateChange _ _).2
  | updateOwnShipInfo n =>
    exact @TubesReport.forAssigned { mgr with ownShipInfo := n } hobs _
      fun t _ => .of_logView (LaunchTube.updateOwnShipInfo_logView t n)
  | updateTargetInfo track =>
    exact @TubesReport.forAssigned { mgr with
      targetInfoMap := Function.update mgr.targetInfoMap track.unTargetSystemID (some track) } hobs _
      fun t _ => .of_logView (LaunchTube.updateTargetInfo_logView t track)
  | setAxisCenter c =>
    exact @TubesReport.forAssigned { mgr with axisCenter := c } hobs _
      fun t _ => .of_logView (LaunchTube.setAxisCenter_logView t c)
  | updateWaypoints n wps =>
    exact .onTube hobs fun t _ => .of_logView (LaunchTube.updateWaypoints_logView t wps)
  | calculateEngagementPlan n =>
    exact .onTube hobs fun t _ => .of_logView (LaunchTube.calculateEngagementPlan_logView t)
  | calculateAllEngagementPlans =>
    exact .forAssigned hobs fun t _ => .of_logView (LaunchTube.calculateEngagementPlan_logView t)
  | update now => exact .forAssigned hobs fun t ht => (ht.update now).2
  | setAssignmentChangeCallback b => exact .of_launchTubes rfl

theorem TubesReport.run {mgr : LaunchTubeManager} (hobs : EveryTube LaunchTube.Observed mgr) :
    ∀ ops : List ManagerOp, (∀ op ∈ ops, op.keepsWeapons = true) → TubesReport mgr (mgr.run ops)
  | [], _ => .of_launchTubes rfl
  | op :: ops, hops =>
    (TubesReport.apply hobs op (hops op (List.mem_cons_self _ _))).trans
      (TubesReport.run (hobs.apply observed_tubeInvariant op) ops fun o ho => hops o (List.mem_cons_of_mem _ ho))

/-- **No notification is lost, repeated or reordered**: from any state that
`initialize()` and a sequence of operations reach, through any further
operations that neither initialize, shut down nor unassign, every tube that
held a weapon holds one after, its state-change callback received exactly a
chain of transitions naming the tube from the weapon's state before to its
state after, and its launch-status callback one report naming the tube if the
weapon launched in between, none otherwise. -/
theorem callbacks_report_of_run (maxTubes configMaxTubes : ℕ) (ops₀ ops : List ManagerOp)
    (hops : ∀ op ∈ ops, op.keepsWeapons = true) :
    TubesReport ((create maxTubes configMaxTubes).init.2.run ops₀)
      (((create maxTubes configMaxTubes).init.2.run ops₀).run ops) :=
  TubesReport.run (((create_everyTube maxTubes configMaxTubes).init observed_tubeInvariant).run
    observed_tubeInvariant ops₀) ops hops

end Planning

/-- Tube 2 is assigned an ALM, then turned on, aborted and updated. -/
theorem callbacks_report_assign_on_abort :
    (∀ op ∈ [ManagerOp.requestWeaponStateChange 2 .ON false, .requestWeaponStateChange 2 .ABORT false,
        .update 1], op.keepsWeapons = true) ∧
      @TubesReport ((@LaunchTubeManager.run SGeodeticToST3D.byFields ((create 6 6).init.2)
          [.assignWeapon ⟨2, .ALM, { tubeNumber := 2, weaponKind := .ALM }⟩ 0 0]))
        (@LaunchTubeManager.run SGeodeticToST3D.byFields
          (@LaunchTubeManager.run SGeodeticToST3D.byFields ((create 6 6).init.2)
            [.assignWeapon ⟨2, .ALM, { tubeNumber := 2, weaponKind := .ALM }⟩ 0 0])
          [.requestWeaponStateChange 2 .ON false, .requestWeaponStateChange 2 .ABORT false, .update 1]) :=
  have hops : ∀ op ∈ [ManagerOp.requestWeaponStateChange 2 .ON false,
      .requestWeaponStateChange 2 .ABORT false, .update 1], op.keepsWeapons = true := by decide
  ⟨hops, @callbacks_report_of_run SGeodeticToST3D.byFields 6 6 _ _ hops⟩

end LaunchTubeManager

end WeaponControl
