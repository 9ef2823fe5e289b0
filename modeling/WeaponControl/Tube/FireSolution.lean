import WeaponControl.Tube.Manager

/-!
# The fire solution a tube pushes: `LaunchTube::calculateEngagementPlan`

The weapon's interlock (`checkInterlockConditions`, the `ON → RTL` gate of
`WeaponBase::update`) reads `m_fireSolutionReady`, and only the tube writes it:
after a recomputation that *succeeded*, `calculateEngagementPlan` (lines
277-293) pushes the plan's validity and notifies the plan callback.

So right after a successful recomputation the fire solution is the plan's
validity, and a set plan callback has last received a result that agrees with
the plan on the three fields `notifyEngagementPlanChange` compares
(`calculateEngagementPlan_pushes`); `update()` on a tube that is not launched
ends with such a recomputation (`update_pushes`).  A failed recomputation
(a missile planner without a valid target) marks the plan invalid and pushes
nothing: the fire solution and the last delivered result stay what they were
(`calculateEngagementPlan_keeps_of_failure`), and a tube whose assignment is
switched to a system target keeps a ready fire solution for an invalid plan
(`retargeted_fireSolution_outlives_plan`).

A mine planner's recomputation always succeeds and always yields a valid
plan, whatever the drop plan numbers (`MineEngagementManager::calculateTrajectory`,
`unnamed/part_001` lines 317-344), and `setupMineSpecificAssignment` accepts
zero plan numbers: a mine without a drop plan reaches `RTL`
(`mine_reaches_RTL_without_drop_plan`).
-/

namespace WeaponControl

namespace LaunchTube

section Planning

variable [SGeodeticToST3D]

/-- What a successful `calculateEngagementPlan` establishes: the weapon's fire
solution is the plan's validity, and with a plan callback set,
`m_lastEngagementResult` agrees with the plan on validity, total time and
trajectory length. -/
def PlanPushed (t : LaunchTube) : Prop :=
  ∀ w m, t.weapon = some w → t.engagementMgr = some m →
    w.fireSolutionReady = m.isEngagementPlanValid ∧
      (t.engagementPlanCallback = true → SameSummary t.lastEngagementResult m.engagementResult)

/-- **After a successful recomputation the fire solution is the plan's
validity**, and a set plan callback has the plan's summary. -/
theorem calculateEngagementPlan_pushes (t : LaunchTube) (h : t.calculateEngagementPlan.1 = .success) :
    PlanPushed t.calculateEngagementPlan.2 := by
  rcases calculateEngagementPlan_cases t with ⟨w, m, -, -, ⟨-, he⟩ | ⟨hf, he⟩⟩ | ⟨-, he⟩ <;>
    rw [he] at h ⊢
  · intro w' m' hw hm
    simp only [notifyEngagementPlanChange_weapon, notifyEngagementPlanChange_engagementMgr,
      Option.some.injEq] at hw hm
    subst hw hm
    refine ⟨rfl, fun hcb => ?_⟩
    simpa [getEngagementResult] using notifyEngagementPlanChange_summary _ (by simpa using hcb)
  · exact absurd h hf
  · simp [noWeaponAssigned] at h

/-- **A failed recomputation pushes nothing**: the weapon and the last
delivered result stay, and the plan is invalid. -/
theorem calculateEngagementPlan_keeps_of_failure (t : LaunchTube)
    (h : t.calculateEngagementPlan.1 ≠ .success) :
    t.calculateEngagementPlan.2.weapon = t.weapon ∧
      t.calculateEngagementPlan.2.lastEngagementResult = t.lastEngagementResult ∧
      t.calculateEngagementPlan.2.isEngagementPlanValid = false := by
  rcases calculateEngagementPlan_cases t with ⟨w, m, hw, -, ⟨hs, he⟩ | ⟨hf, he⟩⟩ | ⟨hn, he⟩ <;>
    rw [he] at h ⊢
  · exact absurd rfl h
  · simp [withManager, isEngagementPlanValid, hw, m.calculateEngagementPlan_invalid_of_failure hf]
  · refine ⟨rfl, rfl, ?_⟩
    unfold isEngagementPlanValid
    split <;> simp_all

/-- A recomputation on a tube whose planner can plan pushes. -/
theorem calculateEngagementPlan_pushes_of_ready (t : LaunchTube)
    (hr : ∀ m, t.engagementMgr = some m → m.cls = .mine ∨ m.hasValidTarget = true) :
    PlanPushed t.calculateEngagementPlan.2 := by
  rcases calculateEngagementPlan_cases t with ⟨w, m, -, hm, ⟨-, he⟩ | ⟨hf, -⟩⟩ | ⟨hn, he⟩
  · exact calculateEngagementPlan_pushes t (by rw [he])
  · exact absurd (m.calculateEngagementPlan_success_iff.2 (hr m hm)) hf
  · rw [he]
    intro w m hw hm
    rcases hn with hn | hn <;> simp_all

/-- **`update()` on a tube that stays unlaunched ends with a successful
recomputation**, when the planner can plan. -/
theorem update_pushes (t : LaunchTube) (now : ℚ) (hl : (t.update now).isLaunched = false)
    (hr : ∀ m, t.engagementMgr = some m → m.cls = .mine ∨ m.hasValidTarget = true) :
    PlanPushed (t.update now) := by
  rcases hw : t.weapon with _ | w
  · intro w' _ hw'
    simp [update, hw] at hw'
  · simp only [update, hw] at hl ⊢
    split_ifs at hl ⊢ with hlaunch
    · simp [hlaunch] at hl
    · refine calculateEngagementPlan_pushes_of_ready _ fun m₂ hm₂ => ?_
      have h := advance_plannerReadiness t w now
      rw [plannerReadiness, plannerReadiness, hm₂, Option.map_some', eq_comm,
        Option.map_eq_some'] at h
      obtain ⟨m, hm, hmm⟩ := h
      simp only [Prod.mk.injEq] at hmm
      rw [← hmm.1, ← hmm.2]
      exact hr m hm

/-- The fire solution follows the plan after every successful recomputation,
alone or at the end of `update()` on an unlaunched tube whose planner can plan;
a failed recomputation changes neither the fire solution nor the last
delivered result, and leaves the plan invalid. -/
theorem fireSolution_follows_successful_plan (t : LaunchTube) (now : ℚ) :
    (t.calculateEngagementPlan.1 = .success → PlanPushed t.calculateEngagementPlan.2) ∧
      (t.calculateEngagementPlan.1 ≠ .success →
        t.calculateEngagementPlan.2.weapon = t.weapon ∧
          t.calculateEngagementPlan.2.lastEngagementResult = t.lastEngagementResult ∧
          t.calculateEngagementPlan.2.isEngagementPlanValid = false) ∧
      ((t.update now).isLaunched = false →
        (∀ m, t.engagementMgr = some m → m.cls = .mine ∨ m.hasValidTarget = true) →
        PlanPushed (t.update now)) :=
  ⟨calculateEngagementPlan_pushes t, calculateEngagementPlan_keeps_of_failure t, update_pushes t now⟩

/-- Tube 1, with the manager's callbacks, is given an ALM with a direct
target and plans; its assignment then names system target 7, of which no
track has arrived, and it plans again. -/
def retargetedTube : LaunchTube :=
  (create 1).run
    [.setCallbacks true true true,
     .assignWeapon (createWeapon .ALM 3) (createEngagementManager .ALM 0)
       { tubeNumber := 1, weaponKind := .ALM },
     .calculateEngagementPlan,
     .updateAssignmentInfo { tubeNumber := 1, weaponKind := .ALM, systemTargetId := 7 },
     .calculateEngagementPlan]

/-- Whatever the conversion, the second recomputation fails: the plan is
invalid, the fire solution is still ready, and the plan callback last received
a valid plan. -/
theorem retargetedTube_keeps_fireSolution :
    retargetedTube.weapon.map Weapon.fireSolutionReady = some true ∧
      retargetedTube.isEngagementPlanValid = false ∧
      retargetedTube.lastEngagementResult.isValid = true :=
  ⟨rfl, rfl, rfl⟩

end Planning

/-- The run above with the field-by-field conversion. -/
theorem retargeted_fireSolution_outlives_plan :
    (@retargetedTube SGeodeticToST3D.byFields).weapon.map Weapon.fireSolutionReady = some true ∧
      (@retargetedTube SGeodeticToST3D.byFields).isEngagementPlanValid = false ∧
      (@retargetedTube SGeodeticToST3D.byFields).lastEngagementResult.isValid = true :=
  @retargetedTube_keeps_fireSolution SGeodeticToST3D.byFields

section Planning

variable [SGeodeticToST3D]

/-- Tube 1, with the manager's callbacks, is given a mine whose assignment
names no drop plan (list and plan number 0), plans, is turned on, and ticks. -/
def undeclaredMineTube : LaunchTube :=
  (create 1).run
    [.setCallbacks true true true,
     .assignWeapon (createWeapon .M_MINE 3) (createEngagementManager .M_MINE 0)
       { tubeNumber := 1, weaponKind := .M_MINE },
     .calculateEngagementPlan,
     .requestWeaponStateChange .ON false,
     .update 0]

/-- Whatever the conversion, the mine's plan is valid with both drop plan
numbers 0, its fire solution is ready, and the tick takes it to `RTL`. -/
theorem undeclaredMineTube_in_RTL :
    undeclaredMineTube.isEngagementPlanValid = true ∧
      undeclaredMineTube.engagementMgr.map EngagementManager.dropPlanListNumber = some 0 ∧
      undeclaredMineTube.engagementMgr.map EngagementManager.dropPlanNumber = some 0 ∧
      undeclaredMineTube.weapon.map Weapon.fireSolutionReady = some true ∧
      undeclaredMineTube.getWeaponState = .RTL := by
  simp [undeclaredMineTube, run, LaunchTube.apply, create, setCallbacks, assignWeapon, createWeapon,
    createEngagementManager, plannerClassOf, hasWeapon, setupSpecificAssignment,
    setupMineSpecificAssignment, mineManager, Option.filter, EngagementManager.create,
    EngagementManager.init, EngagementManager.isMine, calculateEngagementPlan,
    EngagementManager.calculateEngagementPlan, EngagementManager.calculateTrajectory,
    EngagementManager.mineTrajectory, notifyEngagementPlanChange, getEngagementResult, SameSummary,
    requestWeaponStateChange, Weapon.requestStateChange, isValidTransition, sDefaultTransitionMap,
    Weapon.processTurnOn, Weapon.setState, withWeapon, deliver, receive, update, advance,
    Weapon.update, Weapon.checkInterlockConditions, EngagementManager.update, isLaunched,
    isEngagementPlanValid, EngagementManager.isEngagementPlanValid, getWeaponState, Weapon.create,
    Weapon.init, Weapon.reset, Weapon.addStateObserver, Weapon.setFireSolutionReady, withManager,
    PlannerClass.kind, install]

end Planning

/-- The run above with the field-by-field conversion. -/
theorem mine_reaches_RTL_without_drop_plan :
    (@undeclaredMineTube SGeodeticToST3D.byFields).isEngagementPlanValid = true ∧
      (@undeclaredMineTube SGeodeticToST3D.byFields).engagementMgr.map
          EngagementManager.dropPlanListNumber = some 0 ∧
      (@undeclaredMineTube SGeodeticToST3D.byFields).engagementMgr.map
          EngagementManager.dropPlanNumber = some 0 ∧
      (@undeclaredMineTube SGeodeticToST3D.byFields).weapon.map Weapon.fireSolutionReady = some true ∧
      (@undeclaredMineTube SGeodeticToST3D.byFields).getWeaponState = .RTL :=
  @undeclaredMineTube_in_RTL SGeodeticToST3D.byFields

end LaunchTube

end WeaponControl
