import WeaponControl.Tube.Planners
import WeaponControl.Tube.EmergencyStop

/-!
# Where a weapon rests between calls

`requestStateChange` passes through two states it does not stay in: the
power-on check (`processTurnOn`, `WeaponBase.cpp` lines 187-207) ends in `ON`
or `OFF` within the call, and a launch (`processLaunch`, lines 220-249) ends in
`ABORT` or in `setLaunched(true)`, which moves a weapon launched for the first
time to `POST_LAUNCH` (lines 109-118).  No entry of the transition table
(lines 12-19) leads to `POC` or `POST_LAUNCH`, and `LAUNCH` is left in the
state only by a weapon whose `m_launched` was already set (the relaunch of
`second_launch_stays_in_LAUNCH`).  So between calls a weapon is never in
`POC`, and it is in `LAUNCH` or `POST_LAUNCH` only once launched (`RestState`).

A property of weapons that the factory's weapon has and the three weapon calls
a tube makes keep (`WeaponInvariant`) holds of the weapon of every tube of
every reachable tube manager (`WeaponInvariant.tubeInvariant`, then
`EveryTube.run`); and `getTubeStatus` reports the state and flag of the tube's
weapon, so the status report shows only rest states (`tubes_at_rest_of_run`).

The interlock works the same way.  `update` moves a weapon from `ON` to `RTL`
only when `checkInterlockConditions` holds, that is with its fire solution
ready (lines 147-166), and the table admits `LAUNCH` from `RTL` alone; a tube
sets the fire solution only after a successful recomputation, which always
leaves a valid plan, so it never withdraws it.  Hence every weapon in `RTL`,
`LAUNCH` or `POST_LAUNCH`, and every launched one, has its fire solution ready
(`Weapon.Interlocked`, `armed_only_with_fire_solution_of_run`), and the
automatic return from `RTL` to `ON` is never taken.
-/

namespace WeaponControl

namespace EngagementManager

variable [SGeodeticToST3D]

/-- **A successful recomputation leaves a valid plan**: only a missile planner
without a valid target fails, and every trajectory is valid otherwise. -/
theorem calculateEngagementPlan_valid_of_success (m : EngagementManager)
    (h : m.calculateEngagementPlan.1 = .success) : m.calculateEngagementPlan.2.isEngagementPlanValid = true := by
  unfold calculateEngagementPlan at h ⊢
  split_ifs at h ⊢ with hm ht
  · simp [calculateTrajectory, hm, mineTrajectory, isEngagementPlanValid]
  · cases hc : m.cls <;> simp [calculateTrajectory, hc, almCalculateTrajectory, asmCalculateTrajectory,
      aamCalculateTrajectory, missileTrajectory, mineTrajectory, isEngagementPlanValid, ht]

end EngagementManager

/-- The state and launch flag a weapon can rest in between calls: never the
power-on check, and `LAUNCH` or `POST_LAUNCH` only once launched. -/
def RestState (state : WpnCtrlState) (launched : Bool) : Prop :=
  state ≠ .POC ∧ (state = .LAUNCH ∨ state = .POST_LAUNCH → launched = true)

instance (state : WpnCtrlState) (launched : Bool) : Decidable (RestState state launched) :=
  inferInstanceAs (Decidable (_ ∧ _))

/-- The states a call can end in without launching. -/
theorem restState_of_quiet {state : WpnCtrlState} (h : state = .OFF ∨ state = .ON ∨ state = .RTL ∨ state = .ABORT)
    (launched : Bool) : RestState state launched := by
  rcases h with rfl | rfl | rfl | rfl <;> simp [RestState]

namespace Weapon

/-- **A call other than a launch arms nothing**: it ends in `ABORT`, `OFF` or
`ON`, or leaves the weapon as it was. -/
theorem requestStateChange_quiet (w : Weapon) {ns : WpnCtrlState} (c : Bool) (hL : ns ≠ .LAUNCH) :
    (w.requestStateChange ns c).2.1 = w ∨ (w.requestStateChange ns c).2.1.currentState = .ABORT ∨
      (w.requestStateChange ns c).2.1.currentState = .OFF ∨ (w.requestStateChange ns c).2.1.currentState = .ON := by
  obtain ⟨hA, hI, hOff, hOn, -⟩ := w.requestStateChange_outcome ns c
  by_cases ha : ns = .ABORT
  · exact .inr (.inl (hA ha).2)
  cases hv : isValidTransition w.currentState ns
  · exact .inl (hI ha hv).2
  rcases isValidTransition_target hv with rfl | rfl | rfl | rfl
  · exact (hOn rfl hv).elim (fun h => .inr (.inr (.inr h.2))) fun h => .inr (.inr (.inl h.2))
  · exact .inr (.inr (.inl (hOff rfl hv).2))
  · exact absurd rfl hL
  · exact absurd rfl ha

/-- **A call rests where a weapon can rest**: whatever the target and the
token, `requestStateChange` leaves `POC` within the call and ends a launch in
`ABORT` or with `m_launched` set. -/
theorem restState_requestStateChange (w : Weapon) (ns : WpnCtrlState) (c : Bool)
    (h : RestState w.currentState w.launched) :
    RestState (w.requestStateChange ns c).2.1.currentState (w.requestStateChange ns c).2.1.launched := by
  by_cases hL : ns = .LAUNCH
  · subst hL
    obtain ⟨-, hI, -, -, hLa⟩ := w.requestStateChange_outcome .LAUNCH c
    cases hv : isValidTransition w.currentState .LAUNCH
    · rw [(hI (by decide) hv).2]
      exact h
    rcases hLa rfl hv with ⟨-, hl, -⟩ | ⟨-, he, -⟩
    · rw [hl]
      exact ⟨requestStateChange_not_POC w _ c h.1, fun _ => rfl⟩
    · rw [he]
      exact restState_of_quiet (by simp) _
  rcases w.requestStateChange_quiet c hL with he | he | he | he
  · rw [he]
    exact h
  all_goals
    rw [he]
    exact restState_of_quiet (by simp) _

/-- The automatic transitions move between `ON` and `RTL` only. -/
theorem restState_update (w : Weapon) (h : RestState w.currentState w.launched) :
    RestState w.update.1.currentState w.update.1.launched := by
  unfold update
  split_ifs
  · exact restState_of_quiet (by simp) _
  · exact restState_of_quiet (by simp) _
  · exact h

/-- The interlock: a weapon that is ready to launch, launching, post-launch or
launched has its fire solution ready. -/
def Interlocked (w : Weapon) : Prop :=
  w.currentState = .RTL ∨ w.currentState = .LAUNCH ∨ w.currentState = .POST_LAUNCH ∨ w.launched = true →
    w.fireSolutionReady = true

/-- Only a launch sets `m_launched`. -/
theorem launched_requestStateChange_of_ne (w : Weapon) {ns : WpnCtrlState} (c : Bool) (h : ns ≠ .LAUNCH) :
    (w.requestStateChange ns c).2.1.launched = w.launched := by
  unfold requestStateChange
  split_ifs
  · rfl
  · rfl
  · split
    · rfl
    · unfold processTurnOn; split_ifs <;> rfl
    · exact absurd rfl h
    · rfl

/-- **A call arms a weapon only through `RTL`**: a launch starts from `RTL`
alone, and the other calls end in `ABORT`, `OFF`, `ON` or where they began. -/
theorem interlocked_requestStateChange (w : Weapon) (ns : WpnCtrlState) (c : Bool) (h : w.Interlocked) :
    (w.requestStateChange ns c).2.1.Interlocked := by
  intro harm
  rw [(w.requestStateChange_frame ns c).2.2.2]
  by_cases hL : ns = .LAUNCH
  · subst hL
    cases hv : isValidTransition w.currentState .LAUNCH
    · exact h (by rwa [((w.requestStateChange_outcome .LAUNCH c).2.1 (by decide) hv).2] at harm)
    · -- the table admits a launch from `RTL` alone
      exact h (.inl (by revert hv; cases w.currentState <;> decide))
  rw [launched_requestStateChange_of_ne w c hL] at harm
  rcases w.requestStateChange_quiet c hL with he | hs | hs | hs
  · rw [he] at harm
    exact h harm
  all_goals
    rw [hs] at harm
    exact h (.inr (.inr (.inr (by simpa using harm))))

/-- `update` enters `RTL` on the interlock, and leaves it only for `ON`. -/
theorem interlocked_update (w : Weapon) (h : w.Interlocked) : w.update.1.Interlocked := by
  unfold update
  split_ifs with hon hrtl
  · exact fun _ => hon.2
  · exact fun _ => h (.inl hrtl.1)
  · exact h

/-- An interlocked weapon in `RTL` stays where it is on `update`. -/
theorem update_of_interlocked_RTL {w : Weapon} (h : w.Interlocked) (hs : w.currentState = .RTL) :
    w.update = (w, []) := by
  have hr : w.checkInterlockConditions = true := h (.inl hs)
  simp [update, hs, hr]

end Weapon

/-- What a property of weapons must survive to hold of the weapon of every
tube: the factory's weapon as `assignWeapon` initializes it and registers the
tube, and the three weapon calls the tubes make.  A tube sets the fire solution
only after a successful recomputation, which always leaves a valid plan
(`EngagementManager.calculateEngagementPlan_valid_of_success`), so it only
ever sets it ready. -/
structure WeaponInvariant (Q : Weapon → Prop) : Prop where
  install : ∀ kind d n, Q (((Weapon.create kind d).init n).addStateObserver n)
  requestStateChange : ∀ w s c, Q w → Q (w.requestStateChange s c).2.1
  update : ∀ w, Q w → Q w.update.1
  setFireSolutionReady : ∀ w, Q w → Q (w.setFireSolutionReady true)

/-- Every weapon call rests where a weapon can rest, and the factory's weapon
starts `OFF`, not launched. -/
theorem restState_weaponInvariant : WeaponInvariant fun w => RestState w.currentState w.launched where
  install _ _ _ := restState_of_quiet (by simp [Weapon.addStateObserver, Weapon.init]) _
  requestStateChange w s c h := w.restState_requestStateChange s c h
  update w h := w.restState_update h
  setFireSolutionReady _ h := h

/-- The factory's weapon starts `OFF`, unlaunched; the calls keep the
interlock, and the tubes only set the fire solution ready. -/
theorem interlocked_weaponInvariant : WeaponInvariant Weapon.Interlocked where
  install _ _ _ h := by simp [Weapon.addStateObserver, Weapon.init, Weapon.reset, Weapon.create] at h
  requestStateChange w s c h := w.interlocked_requestStateChange s c h
  update w h := w.interlocked_update h
  setFireSolutionReady _ _ _ := rfl

namespace LaunchTube

/-- The weapon of the tube, if it holds one, has `Q`. -/
def WeaponHas (Q : Weapon → Prop) (t : LaunchTube) : Prop := ∀ w, t.weapon = some w → Q w

variable {Q : Weapon → Prop}

theorem WeaponHas.of_weapon {t t' : LaunchTube} (h : t.WeaponHas Q) (hw : t'.weapon = t.weapon) :
    t'.WeaponHas Q := fun w hw' => h w (hw ▸ hw')

theorem WeaponHas.of_empty {t : LaunchTube} (hw : t.weapon = none) : t.WeaponHas Q :=
  fun w h => by simp [hw] at h

/-- The tube's call to its weapon, the notifications delivered. -/
theorem WeaponHas.withWeapon {t : LaunchTube} {w : Weapon} (hw : Q w) (ns : List Note) :
    (t.withWeapon w ns).WeaponHas Q := fun w' hw' => by
  simp only [LaunchTube.withWeapon, deliver_weapon, Option.some.injEq] at hw'
  exact hw' ▸ hw

theorem WeaponHas.requestWeaponStateChange (hQ : WeaponInvariant Q) {t : LaunchTube} (h : t.WeaponHas Q)
    (s : WpnCtrlState) (c : Bool) : (t.requestWeaponStateChange s c).2.WeaponHas Q := by
  unfold LaunchTube.requestWeaponStateChange
  split
  · exact h
  · rename_i w hw
    exact WeaponHas.withWeapon (hQ.requestStateChange w s c (h w hw)) _

section Planning

variable [SGeodeticToST3D]

theorem WeaponHas.calculateEngagementPlan (hQ : WeaponInvariant Q) {t : LaunchTube} (h : t.WeaponHas Q) :
    t.calculateEngagementPlan.2.WeaponHas Q := by
  rcases calculateEngagementPlan_cases t with ⟨w, m, hw, -, ⟨hs, he⟩ | ⟨-, he⟩⟩ | ⟨-, he⟩ <;>
    rw [he]
  · intro w' hw'
    simp only [notifyEngagementPlanChange_weapon, Option.some.injEq,
      EngagementManager.calculateEngagementPlan_valid_of_success m hs] at hw'
    exact hw' ▸ hQ.setFireSolutionReady w (h w hw)
  · exact h.of_weapon rfl
  · exact h

theorem WeaponHas.update (hQ : WeaponInvariant Q) {t : LaunchTube} (h : t.WeaponHas Q) (now : ℚ) :
    (t.update now).WeaponHas Q := by
  unfold LaunchTube.update
  split
  · exact h
  · rename_i w hw
    have ha : (t.advance w now).WeaponHas Q :=
      (WeaponHas.withWeapon (hQ.update w (h w hw)) w.update.2).of_weapon rfl
    dsimp only
    split_ifs
    · exact ha
    · exact ha.calculateEngagementPlan hQ

/-- The pair `assignWeapon` installs, after the kind-specific setup, which
leaves the weapon alone. -/
theorem install_weaponHas (hQ : WeaponInvariant Q) (t : LaunchTube) (kind : WpnKind) (d : ℚ)
    (m : EngagementManager) (info : AssignmentInfo) :
    (t.install (Weapon.create kind d) m info).setupSpecificAssignment.2.WeaponHas Q := by
  obtain ⟨⟨m', he, -⟩, -⟩ := (t.install (Weapon.create kind d) m info).setupSpecificAssignment_spec
  intro w hw
  rw [he] at hw
  simp only [install, Option.some.injEq] at hw
  exact hw ▸ hQ.install kind d t.tubeNumber

end Planning

end LaunchTube

section Planning

variable [SGeodeticToST3D] {Q : Weapon → Prop}

/-- **A property of weapons that the weapon calls keep holds of every tube's
weapon through every tube call.** -/
theorem WeaponInvariant.tubeInvariant (hQ : WeaponInvariant Q) :
    LaunchTubeManager.TubeInvariant (LaunchTube.WeaponHas Q) where
  newTube _ := LaunchTube.WeaponHas.of_empty rfl
  clearAssignment _ _ := LaunchTube.WeaponHas.of_empty rfl
  install t kind d _ _ info _ := LaunchTube.install_weaponHas hQ t kind d _ info
  requestWeaponStateChange _ s c ht := ht.requestWeaponStateChange hQ s c
  updateOwnShipInfo t n ht := ht.of_weapon (LaunchTube.updateOwnShipInfo_weapon t n)
  updateTargetInfo t track ht := ht.of_weapon (LaunchTube.updateTargetInfo_weapon t track)
  setAxisCenter t c ht := ht.of_weapon (LaunchTube.setAxisCenter_weapon t c)
  updateWaypoints t wps ht := ht.of_weapon (LaunchTube.updateWaypoints_weapon t wps)
  calculateEngagementPlan _ ht := ht.calculateEngagementPlan hQ
  update _ now ht := ht.update hQ now

end Planning

namespace LaunchTubeManager

section Planning

variable [SGeodeticToST3D]

/-- **No tube rests in the power-on check, and none in `LAUNCH` or
`POST_LAUNCH` before its weapon has launched**, in every state that
`initialize()` and any sequence of operations reach: the weapon of every tube
rests in such a state, and so does every status `getTubeStatus` reports. -/
theorem tubes_at_rest_of_run (maxTubes configMaxTubes : ℕ) (ops : List ManagerOp) :
    EveryTube (LaunchTube.WeaponHas fun w => RestState w.currentState w.launched)
        ((create maxTubes configMaxTubes).init.2.run ops) ∧
      ∀ n s, ((create maxTubes configMaxTubes).init.2.run ops).getTubeStatus n = some s →
        RestState s.weaponState s.launched := by
  have hQ := restState_weaponInvariant.tubeInvariant
  have h := ((create_everyTube maxTubes configMaxTubes).init hQ).run hQ ops
  refine ⟨h, fun n s hs => ?_⟩
  unfold getTubeStatus at hs
  split at hs
  · rename_i t ht
    unfold LaunchTube.getStatus at hs
    split at hs
    · cases hs
      exact restState_of_quiet (.inl rfl) _
    · rename_i w hw
      obtain ⟨m, -, rfl⟩ := Option.map_eq_some'.1 hs
      exact h _ t (getValidatedTube_eq_some.1 ht).2.2 w hw
  · cases hs
    exact restState_of_quiet (.inl rfl) _

/-- **No weapon is armed without a fire solution**: in every state that
`initialize()` and any sequence of operations reach, every tube's weapon that
is in `RTL`, `LAUNCH` or `POST_LAUNCH`, or launched, has its fire solution
ready; so `update` never takes a weapon in `RTL` back to `ON`. -/
theorem armed_only_with_fire_solution_of_run (maxTubes configMaxTubes : ℕ) (ops : List ManagerOp) :
    EveryTube (LaunchTube.WeaponHas Weapon.Interlocked) ((create maxTubes configMaxTubes).init.2.run ops) ∧
      ∀ n t w, ((create maxTubes configMaxTubes).init.2.run ops).launchTubes n = some t →
        t.weapon = some w → w.currentState = .RTL → w.update = (w, []) := by
  have hQ := interlocked_weaponInvariant.tubeInvariant
  have h := ((create_everyTube maxTubes configMaxTubes).init hQ).run hQ ops
  exact ⟨h, fun n t w ht hw hs => Weapon.update_of_interlocked_RTL (h n t ht w hw) hs⟩

end Planning

end LaunchTubeManager

end WeaponControl
