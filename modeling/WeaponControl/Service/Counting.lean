import Mathlib.Data.BitVec
import WeaponControl.Tube.Manager
import WeaponControl.Service.MineDropPlan

/-!
# The counting loops, with the counter's own width

The tube manager walks its tubes with
`for (uint16_t i = m_minTubeNumber; i <= m_maxTubeNumber; ++i)` in
`initialize`, `shutdown`, `getAllTubeStatus` and `getAssignedTubes`
(`WeaponControlService.h`, lines 138, 172, 419, 473), and the drop-plan
service walks its lists with `for (uint32_t i = 1; i <= m_maxPlanLists; ++i)`
in `initialize` and `getAvailablePlanListNumbers` (`part_003`, lines 99, 230).
The rest of the model reads each of these loops as the range of numbers from
the first to the last (`LaunchTubeManager.init`, `assignedTubes`,
`MineDropPlanService.init`).  Here the loop runs as the code runs it: the
counter is a `BitVec` of the counter's width, the guard compares values, and
`++i` wraps.

Below the top of the counter's range the loop is that range, each number
once (`countUp_toNat`, `tubeLoop_visits_tubes`, `planListLoop_visits_lists`).
At the top, every counter passes the guard and `++i` wraps to 0: the loop never
exits, however many iterations it is given (`countUp_allOnes`).  Both counts
are admitted, 65535 tubes by the constructor or by `System.MaxLaunchTubes`
and 4294967295 plan lists by `MineDropPlan.MaxPlanLists`
(`counting_loops_never_exit_at_the_top`).
-/

namespace WeaponControl

/-- `for (uintW_t i = lo; i <= hi; ++i)` given `fuel` evaluations of the guard:
the counters the body runs with, in order, or `none` when the guard still
holds after the last of them. -/
def countUp {w : ℕ} (hi : BitVec w) : ℕ → BitVec w → Option (List (BitVec w))
  | 0, _ => none
  | fuel + 1, i => if i ≤ hi then (countUp hi fuel (i + 1)).map (i :: ·) else some []

/-- A number below `2 ^ w` is the value of its counter. -/
theorem toNat_ofNat_of_lt {w n : ℕ} (h : n < 2 ^ w) : (BitVec.ofNat w n).toNat = n := by
  rw [BitVec.toNat_ofNat]; exact Nat.mod_eq_of_lt h

/-- **At the top of the counter's range the loop never exits.** -/
theorem countUp_allOnes {w : ℕ} : ∀ (fuel : ℕ) (i : BitVec w), countUp (BitVec.allOnes w) fuel i = none
  | 0, _ => rfl
  | fuel + 1, i => by
    have hle : i ≤ BitVec.allOnes w := BitVec.le_def.2 (by simp only [BitVec.toNat_allOnes]; omega)
    rw [countUp, if_pos hle, countUp_allOnes fuel]
    rfl

/-- Below the top of the range, from `lo ≤ hi + 1` and with more guard
evaluations than iterations, the body runs with `lo, …, hi`, once each. -/
theorem countUp_of_lt_top {w : ℕ} (hi : BitVec w) (htop : hi.toNat + 1 < 2 ^ w) :
    ∀ (fuel : ℕ) (lo : BitVec w), lo.toNat ≤ hi.toNat + 1 → hi.toNat + 1 - lo.toNat < fuel →
      countUp hi fuel lo = some ((List.range' lo.toNat (hi.toNat + 1 - lo.toNat)).map (BitVec.ofNat w))
  | 0, _, _, h => absurd h (Nat.not_lt_zero _)
  | fuel + 1, lo, hlo, hfuel => by
    rw [countUp]
    by_cases hle : lo.toNat ≤ hi.toNat
    · -- `++lo` does not wrap
      have hsucc : (lo + 1).toNat = lo.toNat + 1 := by
        rw [BitVec.toNat_add]
        simpa using Nat.mod_eq_of_lt (show lo.toNat + 1 < 2 ^ w by omega)
      rw [if_pos (BitVec.le_def.2 hle), countUp_of_lt_top hi htop fuel (lo + 1) (by omega) (by omega),
        hsucc, show hi.toNat + 1 - lo.toNat = hi.toNat + 1 - (lo.toNat + 1) + 1 by omega, List.range'_succ]
      simp
    · rw [if_neg (by rwa [BitVec.le_def]), show hi.toNat + 1 - lo.toNat = 0 by omega]
      rfl

/-- The counters as numbers: the range from `lo` to `hi`. -/
theorem countUp_toNat {w : ℕ} {hi lo : BitVec w} {fuel : ℕ} (htop : hi.toNat + 1 < 2 ^ w)
    (hlo : lo.toNat ≤ hi.toNat + 1) (hfuel : hi.toNat + 1 - lo.toNat < fuel) :
    (countUp hi fuel lo).map (·.map BitVec.toNat) = some (List.range' lo.toNat (hi.toNat + 1 - lo.toNat)) := by
  rw [countUp_of_lt_top hi htop fuel lo hlo hfuel, Option.map_some', List.map_map]
  refine congrArg some (List.map_congr_left fun k hk => ?_) |>.trans (by rw [List.map_id])
  rw [List.mem_range'_1] at hk
  exact toNat_ofNat_of_lt (by omega)

/-- The tube loops of `initialize`, `shutdown`, `getAllTubeStatus` and
`getAssignedTubes`, the counter a `uint16_t`. -/
def tubeLoop (mgr : LaunchTubeManager) (fuel : ℕ) : Option (List (BitVec 16)) :=
  countUp (BitVec.ofNat 16 mgr.maxTubeNumber) fuel (BitVec.ofNat 16 mgr.minTubeNumber)

/-- The plan-list loops of `initialize` and `getAvailablePlanListNumbers`, the
counter a `uint32_t`. -/
def planListLoop (s : MineDropPlanService) (fuel : ℕ) : Option (List (BitVec 32)) :=
  countUp (BitVec.ofNat 32 s.maxPlanLists) fuel 1

/-- **Below 65535 tubes, the tube loops are the model's range**: with one
more guard evaluation than tubes, the body runs once with each number from
`m_minTubeNumber` to `m_maxTubeNumber`, the range `assignedTubes` filters. -/
theorem tubeLoop_visits_tubes (mgr : LaunchTubeManager) (fuel : ℕ)
    (hmin : mgr.minTubeNumber ≤ mgr.maxTubeNumber + 1) (hmax : mgr.maxTubeNumber < 65535)
    (hfuel : mgr.maxTubeNumber + 1 - mgr.minTubeNumber < fuel) :
    (tubeLoop mgr fuel).map (·.map BitVec.toNat) =
      some (List.range' mgr.minTubeNumber (mgr.maxTubeNumber + 1 - mgr.minTubeNumber)) := by
  have hhi : (BitVec.ofNat 16 mgr.maxTubeNumber).toNat = mgr.maxTubeNumber := toNat_ofNat_of_lt (by omega)
  have hlo : (BitVec.ofNat 16 mgr.minTubeNumber).toNat = mgr.minTubeNumber := toNat_ofNat_of_lt (by omega)
  have h := @countUp_toNat 16 (BitVec.ofNat 16 mgr.maxTubeNumber) (BitVec.ofNat 16 mgr.minTubeNumber) fuel
    (by omega) (by omega) (by omega)
  rwa [hhi, hlo] at h

/-- Tubes 1 to 6, the configured default: seven guard evaluations run the
body with each. -/
theorem tubeLoop_visits_six_tubes :
    (LaunchTubeManager.create 0 6).minTubeNumber ≤ (LaunchTubeManager.create 0 6).maxTubeNumber + 1 ∧
      (LaunchTubeManager.create 0 6).maxTubeNumber < 65535 ∧
      (LaunchTubeManager.create 0 6).maxTubeNumber + 1 - (LaunchTubeManager.create 0 6).minTubeNumber < 7 ∧
      (tubeLoop (LaunchTubeManager.create 0 6) 7).map (·.map BitVec.toNat) = some [1, 2, 3, 4, 5, 6] :=
  ⟨by decide, by decide, by decide,
    tubeLoop_visits_tubes (LaunchTubeManager.create 0 6) 7 (by decide) (by decide) (by decide)⟩

/-- **Below 4294967295 lists, the plan-list loops are the model's range**:
with one more guard evaluation than lists, the body runs once with each number
from 1 to `m_maxPlanLists`, the range `MineDropPlanService.init` walks. -/
theorem planListLoop_visits_lists (s : MineDropPlanService) (fuel : ℕ)
    (hmax : s.maxPlanLists < 4294967295) (hfuel : s.maxPlanLists < fuel) :
    (planListLoop s fuel).map (·.map BitVec.toNat) = some (List.range' 1 s.maxPlanLists) := by
  have hhi : (BitVec.ofNat 32 s.maxPlanLists).toNat = s.maxPlanLists := toNat_ofNat_of_lt (by omega)
  have h := @countUp_toNat 32 (BitVec.ofNat 32 s.maxPlanLists) 1 fuel (by omega) (by simp) (by simp; omega)
  rwa [hhi, show (1 : BitVec 32).toNat = 1 from rfl, Nat.add_sub_cancel] at h

/-- Fifteen lists, the configured default: sixteen guard evaluations run the
body with each. -/
theorem planListLoop_visits_fifteen_lists :
    (MineDropPlanService.create 15 15).maxPlanLists < 4294967295 ∧
      (MineDropPlanService.create 15 15).maxPlanLists < 16 ∧
      (planListLoop (MineDropPlanService.create 15 15) 16).map (·.map BitVec.toNat) =
        some (List.range' 1 15) :=
  ⟨by decide, by decide, planListLoop_visits_lists (MineDropPlanService.create 15 15) 16 (by decide) (by decide)⟩

/-- With 65535 tubes, given to the constructor or read from
`System.MaxLaunchTubes`, the tube loops never exit, however many iterations
run; with 4294967295 plan lists, neither do the plan-list loops. -/
theorem counting_loops_never_exit_at_the_top :
    (∀ configMaxTubes fuel, tubeLoop (LaunchTubeManager.create 65535 configMaxTubes) fuel = none) ∧
      (∀ fuel, tubeLoop (LaunchTubeManager.create 0 65535) fuel = none) ∧
      (∀ maxPlansPerList fuel,
        planListLoop (MineDropPlanService.create 4294967295 maxPlansPerList) fuel = none) :=
  ⟨fun _ fuel => countUp_allOnes fuel _, fun fuel => countUp_allOnes fuel _,
    fun _ fuel => countUp_allOnes fuel _⟩

end WeaponControl
