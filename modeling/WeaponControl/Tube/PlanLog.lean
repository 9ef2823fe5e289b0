import Mathlib.Data.List.Chain
import WeaponControl.Tube.Planners

/-!
# The plan callback hears of changes only

`LaunchTube::notifyEngagementPlanChange` (lines 433-445) calls
`m_engagementPlanCallback` only when the current result differs from
`m_lastEngagementResult` in validity, total time or trajectory size, and then
remembers it.  No other code writes `m_lastEngagementResult`; in particular
`clearAssignment` keeps it, so the comparison spans assignments.

So in every reachable state the calls the plan callback of a tube has received
name the tube, no two consecutive ones agree on the three compared fields (the
first differs from a default result), and the last is the remembered result
(`PlansLogged`, `plan_reports_deduped_of_run`).  Together with
`calculateEngagementPlan_pushes`, after which the remembered result agrees with
the plan, the callback hears of each change of the summary and of nothing else.
Because the memory outlives the assignment, the first plan of a new weapon is
not reported when it agrees with the last one reported for the tube.
-/

namespace WeaponControl

namespace LaunchTube

/-- The results the plan callback received, in order. -/
def planResults (t : LaunchTube) : List EngagementPlanResult := t.planUpdates.map Prod.snd

/-- The plan callback's calls name the tube; each result differs from the one
before on the fields `notifyEngagementPlanChange` compares, the first from a
default result; and the last is `m_lastEngagementResult`. -/
structure PlansLogged (t : LaunchTube) : Prop where
  named : ∀ p ∈ t.planUpdates, p.1 = t.tubeNumber
  changes : List.Chain' (fun r r' => ¬ SameSummary r' r) ({} :: t.planResults)
  last : ({} :: t.planResults).getLast? = some t.lastEngagementResult

/-- What `PlansLogged` reads. -/
def planView (t : LaunchTube) : ℕ × List (ℕ × EngagementPlanResult) × EngagementPlanResult :=
  (t.tubeNumber, t.planUpdates, t.lastEngagementResult)

theorem PlansLogged.of_planView {t t' : LaunchTube} (h : t.PlansLogged) (hv : t'.planView = t.planView) :
    t'.PlansLogged := by
  simp only [planView, Prod.mk.injEq] at hv
  obtain ⟨hn, hp, hl⟩ := hv
  have hr : t'.planResults = t.planResults := by rw [planResults, planResults, hp]
  exact ⟨hn ▸ hp ▸ h.named, hr ▸ h.changes, hr ▸ hl ▸ h.last⟩

/-- A tube as `LaunchTube`'s constructor leaves it: no call yet, and a
default remembered result. -/
theorem plansLogged_of_fresh {t : LaunchTube} (hp : t.planUpdates = []) (hl : t.lastEngagementResult = {}) :
    t.PlansLogged :=
  ⟨by simp [hp], by simp [planResults, hp], by simp [planResults, hp, hl]⟩

/-- **The one writer keeps the log**: a call is made only on a change from the
remembered result, and the result is then remembered. -/
theorem PlansLogged.notifyEngagementPlanChange {t : LaunchTube} (h : t.PlansLogged) :
    t.notifyEngagementPlanChange.PlansLogged := by
  unfold LaunchTube.notifyEngagementPlanChange
  split_ifs with hc
  · have hr : ({} :: (t.planUpdates ++ [(t.tubeNumber, t.getEngagementResult)]).map Prod.snd) =
        ({} :: t.planResults) ++ [t.getEngagementResult] := by simp [planResults]
    refine ⟨fun p hp => ?_, ?_, ?_⟩
    · rcases List.mem_append.1 hp with hp | hp
      · exact h.named p hp
      · rw [List.mem_singleton.1 hp]
    · rw [planResults, hr]
      refine h.changes.append (List.chain'_singleton _) fun x hx y hy => ?_
      rw [h.last, Option.mem_some_iff] at hx
      rw [List.head?_cons, Option.mem_some_iff] at hy
      subst hx hy
      exact hc.1
    · rw [planResults, hr, List.getLast?_concat]
  · exact h

theorem receive_planView (t : LaunchTube) (src : ℕ) (n : Note) : (t.receive src n).planView = t.planView := by
  cases n <;> simp only [receive] <;> split_ifs <;> rfl

@[simp] theorem withWeapon_planView (t : LaunchTube) (w : Weapon) (ns : List Note) :
    (t.withWeapon w ns).planView = t.planView :=
  deliver_eq_of_receive planView receive_planView _ _ _

@[simp] theorem requestWeaponStateChange_planView (t : LaunchTube) (s : WpnCtrlState) (c : Bool) :
    (t.requestWeaponStateChange s c).2.planView = t.planView := by
  unfold requestWeaponStateChange
  split
  · rfl
  · exact withWeapon_planView _ _ _

section Planning

variable [SGeodeticToST3D]

@[simp] theorem updateTargetInfo_planView (t : LaunchTube) (track : TargetTrack) :
    (t.updateTargetInfo track).planView = t.planView := by
  unfold updateTargetInfo; split <;> rfl

@[simp] theorem updateWaypoints_planView (t : LaunchTube) (wps : List WeaponWaypoint) :
    (t.updateWaypoints wps).2.planView = t.planView := by
  unfold updateWaypoints
  split_ifs
  · rfl
  · split <;> rfl
  · split <;> rfl

@[simp] theorem setupSpecificAssignment_planView (t : LaunchTube) :
    t.setupSpecificAssignment.2.planView = t.planView := by
  obtain ⟨⟨m', he, -⟩, -⟩ := t.setupSpecificAssignment_spec
  rw [he]
  rfl

/-- A recomputation either notifies or leaves the log alone. -/
theorem PlansLogged.calculateEngagementPlan {t : LaunchTube} (h : t.PlansLogged) :
    t.calculateEngagementPlan.2.PlansLogged := by
  rcases calculateEngagementPlan_cases t with ⟨w, m, -, -, ⟨-, he⟩ | ⟨-, he⟩⟩ | ⟨-, he⟩ <;> rw [he]
  · exact PlansLogged.notifyEngagementPlanChange (h.of_planView rfl)
  · exact h.of_planView rfl
  · exact h

theorem PlansLogged.update {t : LaunchTube} (h : t.PlansLogged) (now : ℚ) : (t.update now).PlansLogged := by
  unfold LaunchTube.update
  split
  · exact h
  · rename_i w hw
    have ha : (t.advance w now).PlansLogged := h.of_planView (withWeapon_planView _ _ _)
    dsimp only
    split_ifs
    · exact ha
    · exact ha.calculateEngagementPlan

end Planning

end LaunchTube

namespace LaunchTubeManager

section Planning

variable [SGeodeticToST3D]

/-- Only `notifyEngagementPlanChange` writes the log or the remembered result,
and a new tube starts with neither. -/
theorem plansLogged_tubeInvariant : TubeInvariant LaunchTube.PlansLogged where
  newTube _ := LaunchTube.plansLogged_of_fresh rfl rfl
  clearAssignment _ ht := ht.of_planView rfl
  install _ _ _ _ _ _ ht := ht.of_planView (LaunchTube.setupSpecificAssignment_planView _)
  requestWeaponStateChange t s c ht := ht.of_planView (LaunchTube.requestWeaponStateChange_planView t s c)
  updateOwnShipInfo _ _ ht := ht.of_planView rfl
  updateTargetInfo t track ht := ht.of_planView (LaunchTube.updateTargetInfo_planView t track)
  setAxisCenter _ _ ht := ht.of_planView rfl
  updateWaypoints t wps ht := ht.of_planView (LaunchTube.updateWaypoints_planView t wps)
  calculateEngagementPlan _ ht := ht.calculateEngagementPlan
  update _ now ht := ht.update now

/-- **The plan callback is told of changes only**: in every state that
`initialize()` and any sequence of operations reach, the calls each tube's
plan callback has received name the tube, no two consecutive ones agree in
validity, total time and trajectory size, the first differs from a default
result, and the last is the tube's `m_lastEngagementResult`. -/
theorem plan_reports_deduped_of_run (maxTubes configMaxTubes : ℕ) (ops : List ManagerOp) :
    EveryTube LaunchTube.PlansLogged ((create maxTubes configMaxTubes).init.2.run ops) :=
  ((create_everyTube maxTubes configMaxTubes).init plansLogged_tubeInvariant).run
    plansLogged_tubeInvariant ops

end Planning

end LaunchTubeManager

end WeaponControl
