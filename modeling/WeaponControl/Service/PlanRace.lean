import WeaponControl.Service.MineDropPlan

/-!
# Two edits of one plan list: `addPlan`, `updatePlan`, `removePlan`, step by step

`MineDropPlanService::addPlan` (`unnamed/part_003`, lines 261-284) copies the
list with `getPlanList` (lines 198-210, under a shared lock of
`m_plansMutex`), edits the copy, and hands it to `savePlanList` (lines
136-164), which checks it, writes the file with no lock held, and only then
takes `m_plansMutex` exclusively to store the copy in `m_cachedPlans`.
`updatePlan` (lines 240-259) and `removePlan` (lines 286-299) do the same.  No
lock spans the copy and the store.

This file cuts the three calls into their atomic steps and lets any schedule
interleave them.

* The memory `Shared` is the service and the plan files, each file the list
  last written to it.
* Each lock of `m_plansMutex` is held for one step (the copy, the store), so
  the lock needs no state.  The validation of the plan, the edit of the copy
  and the checks of `savePlanList` read only the thread's own copy and the
  service's bounds, which nothing changes; each is part of the step after it.
* A call carries the outcome of its file write, as in `Service.MineDropPlan`.

Run alone, a call does what the sequential model says (`run_alone`); in every
schedule every cached list passes the checks of `savePlanList` and keeps its
plan numbers distinct (`cache_invariant_of_any_schedule`); and two `addPlan`
calls whose copies are both taken before either stores both succeed, while the
list keeps only the second plan (`concurrent_adds_lose_a_plan`).
-/

namespace WeaponControl

namespace PlanRace

open MineDropPlanService

/-- What the calling threads share. -/
structure Shared where
  svc : MineDropPlanService
  /-- `plan_list_N.json`, as the list last written to it. -/
  files : ℕ → Option (List MinePlanInfo)

/-- The list-editing calls, each with the outcome of its file write. -/
inductive Call where
  | addPlan (planListNumber : ℕ) (plan : MinePlanInfo) (write : Result)
  | updatePlan (planListNumber : ℕ) (plan : MinePlanInfo) (write : Result)
  | removePlan (planListNumber planNumber : ℕ) (write : Result)

/-- The list a call edits. -/
def Call.planListNumber : Call → ℕ
  | .addPlan l _ _ => l
  | .updatePlan l _ _ => l
  | .removePlan l _ _ => l

/-- The outcome of a call's file write. -/
def Call.write : Call → Result
  | .addPlan _ _ w => w
  | .updatePlan _ _ w => w
  | .removePlan _ _ w => w

/-- What a call does between its copy and `savePlanList`: the failure it
returns, or the edited list.  The plan is validated first, before the copy
(lines 241 and 262), which reads nothing shared. -/
def Call.edit (maxPlansPerList : ℕ) : Call → List MinePlanInfo → Except String (List MinePlanInfo)
  | .addPlan _ plan _, plans =>
    if !validatePlan plan then .error "Invalid plan"
    else if plans.length ≥ maxPlansPerList then .error "Plan list is full"
    else if plans.any (hasNumber plan.usDroppingPlanNumber) then .error "Plan number already exists"
    else .ok (plans ++ [plan])
  | .updatePlan _ plan _, plans =>
    if !validatePlan plan then .error "Invalid plan" else .ok (upsert plan plans)
  | .removePlan _ n _, plans =>
    if !plans.any (hasNumber n) then .error "Plan not found" else .ok (plans.eraseP (hasNumber n))

/-- Where a thread stands inside a call. -/
inductive Pc where
  | idle
  /-- `getPlanList(planListNumber)`: the copy, under the shared lock. -/
  | copy (c : Call)
  /-- `savePlanList`'s checks, then `savePlanListToFile`. -/
  | writeFile (planListNumber : ℕ) (plans : List MinePlanInfo) (write : Result)
  /-- `m_cachedPlans[planListNumber] = plans`, under the exclusive lock. -/
  | store (planListNumber : ℕ) (plans : List MinePlanInfo)
  | done (r : Result)

/-- One atomic step; `none` outside a call. -/
def step (s : Shared) : Pc → Option (Shared × Pc)
  | .idle => none
  | .done _ => none
  | .copy c =>
    match c.edit s.svc.maxPlansPerList (s.svc.getPlanList c.planListNumber) with
    | .error e => some (s, .done (.failure e))
    | .ok plans => some (s, .writeFile c.planListNumber plans c.write)
  | .writeFile l plans w =>
    match (s.svc.savePlanList l plans w).1 with
    | .success => some ({ s with files := Function.update s.files l (some plans) }, .store l plans)
    | r => some (s, .done r)
  | .store l plans => some ({ s with svc := s.svc.setCached l (some plans) }, .done .success)

/-- The memory and every thread's position. -/
structure Config where
  mem : Shared
  pc : ℕ → Pc

/-- One scheduling decision: thread `th` takes a step, or issues a call. -/
inductive Event where
  | step (th : ℕ)
  | call (th : ℕ) (c : Call)

/-- A thread between calls. -/
def Pc.isFree : Pc → Bool
  | .idle => true
  | .done _ => true
  | _ => false

/-- Apply one event; a step that cannot be taken and a call on a busy thread
leave the configuration as it is. -/
def Config.next (c : Config) : Event → Config
  | .step th =>
    match step c.mem (c.pc th) with
    | some (m, p) => { mem := m, pc := Function.update c.pc th p }
    | none => c
  | .call th k => if (c.pc th).isFree then { c with pc := Function.update c.pc th (.copy k) } else c

/-- Run a schedule. -/
def Config.run (c : Config) (es : List Event) : Config := es.foldl Config.next c

@[simp] theorem Config.run_nil (c : Config) : c.run [] = c := rfl
@[simp] theorem Config.run_cons (c : Config) (e : Event) (es : List Event) :
    c.run (e :: es) = (c.next e).run es := rfl
theorem Config.run_append (c : Config) (es es' : List Event) :
    c.run (es ++ es') = (c.run es).run es' := List.foldl_append _ _ _ _

/-! ## Run alone, a call is the sequential call -/

/-- The sequential call. -/
def Call.toOp : Call → PlanOp
  | .addPlan l plan w => .addPlan l plan w
  | .updatePlan l plan w => .updatePlan l plan w
  | .removePlan l n w => .removePlan l n w

/-- What the sequential call returns. -/
def Call.result (s : MineDropPlanService) : Call → Result
  | .addPlan l plan w => (s.addPlan l plan w).1
  | .updatePlan l plan w => (s.updatePlan l plan w).1
  | .removePlan l n w => (s.removePlan l n w).1

/-- Thread `th` issues `k` and takes the three steps that run it to its end. -/
def alone (th : ℕ) (k : Call) : List Event := [.call th k, .step th, .step th, .step th]

/-- Every call is its edit, then `savePlanList`. -/
theorem apply_toOp (s : MineDropPlanService) (k : Call) :
    s.apply k.toOp =
      match k.edit s.maxPlansPerList (s.getPlanList k.planListNumber) with
      | .error _ => s
      | .ok plans => (s.savePlanList k.planListNumber plans k.write).2 := by
  cases k <;> simp only [Call.toOp, MineDropPlanService.apply, Call.edit, Call.planListNumber,
    Call.write, MineDropPlanService.addPlan, MineDropPlanService.updatePlan,
    MineDropPlanService.removePlan] <;> split_ifs <;> rfl

theorem result_eq (s : MineDropPlanService) (k : Call) :
    k.result s =
      match k.edit s.maxPlansPerList (s.getPlanList k.planListNumber) with
      | .error e => .failure e
      | .ok plans => (s.savePlanList k.planListNumber plans k.write).1 := by
  cases k <;> simp only [Call.result, Call.edit, Call.planListNumber, Call.write,
    MineDropPlanService.addPlan, MineDropPlanService.updatePlan,
    MineDropPlanService.removePlan] <;> split_ifs <;> rfl

/-- The file-write step and the store together are `savePlanList`. -/
theorem writeFile_store (s : Shared) (pc : ℕ → Pc) (th l : ℕ) (plans : List MinePlanInfo) (w : Result) :
    ((Config.mk s (Function.update pc th (.writeFile l plans w))).run [.step th, .step th]).mem.svc =
        (s.svc.savePlanList l plans w).2 ∧
      ((Config.mk s (Function.update pc th (.writeFile l plans w))).run [.step th, .step th]).pc th =
        .done (s.svc.savePlanList l plans w).1 := by
  rw [savePlanList_snd]
  rcases hs : (s.svc.savePlanList l plans w).1 with _ | e
  · obtain ⟨hsv, rfl⟩ := savePlanList_success_iff.1 hs
    simp [Config.next, step, hs, hsv]
  · have h : ¬ (s.svc.Savable l plans ∧ w = .success) := fun h =>
      by rw [savePlanList_success_iff.2 h] at hs; cases hs
    simp [Config.next, step, hs, h]

/-- **A call that runs alone does what the sequential model says**: the
service it leaves and the result it returns. -/
theorem run_alone (c : Config) (th : ℕ) (k : Call) (hfree : (c.pc th).isFree = true) :
    (c.run (alone th k)).mem.svc = c.mem.svc.apply k.toOp ∧
      (c.run (alone th k)).pc th = .done (k.result c.mem.svc) := by
  rw [apply_toOp, result_eq]
  rcases he : k.edit c.mem.svc.maxPlansPerList (c.mem.svc.getPlanList k.planListNumber) with e | plans
  · simp [alone, Config.next, hfree, step, he]
  · have hw : c.run [.call th k, .step th] =
        ⟨c.mem, Function.update c.pc th (.writeFile k.planListNumber plans k.write)⟩ := by
      simp [Config.next, hfree, step, he]
    rw [show alone th k = [.call th k, .step th] ++ [.step th, .step th] from rfl, Config.run_append, hw]
    exact writeFile_store _ _ _ _ _ _

/-! ## Every schedule keeps the cache checked -/

/-- An edit of a list with distinct plan numbers keeps them distinct. -/
theorem Call.edit_nodup {n : ℕ} {k : Call} {plans plans' : List MinePlanInfo}
    (hd : (plans.map MinePlanInfo.usDroppingPlanNumber).Nodup) (he : k.edit n plans = .ok plans') :
    (plans'.map MinePlanInfo.usDroppingPlanNumber).Nodup := by
  cases k with
  | addPlan l plan w =>
    simp only [Call.edit] at he
    split_ifs at he with _ _ hnew
    cases he
    have hnew : ∀ q ∈ plans, q.usDroppingPlanNumber ≠ plan.usDroppingPlanNumber := by
      simpa [hasNumber] using hnew
    simpa [List.nodup_append, hasNumber] using ⟨hd, hnew⟩
  | updatePlan l plan w =>
    simp only [Call.edit] at he
    split_ifs at he
    cases he
    rw [map_number_upsert]
    split_ifs with hany
    · exact hd
    · have hnew : ∀ q ∈ plans, q.usDroppingPlanNumber ≠ plan.usDroppingPlanNumber := by
        simpa [hasNumber] using hany
      simpa [List.nodup_append, hasNumber] using ⟨hd, hnew⟩
  | removePlan l m w =>
    simp only [Call.edit] at he
    split_ifs at he
    cases he
    exact ((List.eraseP_sublist _).map _).nodup hd

/-- The cache is well formed with distinct numbers, and every list a thread
is about to write or store has distinct numbers, and passed the checks once
it is about to be stored. -/
structure StoreInv (c : Config) : Prop where
  wellFormed : c.mem.svc.WellFormed
  distinct : c.mem.svc.Distinct
  writing : ∀ th l plans w, c.pc th = .writeFile l plans w →
    (plans.map MinePlanInfo.usDroppingPlanNumber).Nodup
  storing : ∀ th l plans, c.pc th = .store l plans →
    c.mem.svc.Savable l plans ∧ (plans.map MinePlanInfo.usDroppingPlanNumber).Nodup

/-- The invariant after thread `th` moves to `p` over memory `m`: what `m`
and `p` must give; the other threads keep what they carry. -/
theorem StoreInv.update {c : Config} (h : StoreInv c) (th : ℕ) {m : Shared} {p : Pc}
    (hw : m.svc.WellFormed) (hd : m.svc.Distinct) (hsav : m.svc.Savable = c.mem.svc.Savable)
    (hwrite : ∀ l plans w, p = .writeFile l plans w → (plans.map MinePlanInfo.usDroppingPlanNumber).Nodup)
    (hstore : ∀ l plans, p = .store l plans →
      c.mem.svc.Savable l plans ∧ (plans.map MinePlanInfo.usDroppingPlanNumber).Nodup) :
    StoreInv ⟨m, Function.update c.pc th p⟩ := by
  refine ⟨hw, hd, fun th' l plans w hp => ?_, fun th' l plans hp => ?_⟩ <;>
    rcases eq_or_ne th' th with rfl | hne
  · exact hwrite l plans w (by simpa using hp)
  · exact h.writing th' l plans w (by simpa [hne] using hp)
  · simpa [hsav] using hstore l plans (by simpa using hp)
  · simpa [hsav] using h.storing th' l plans (by simpa [hne] using hp)

/-- **One step keeps the invariant**: a copy hands on an edit of a list with
distinct numbers, a file write hands on a list that passed the checks, and a
store caches it. -/
theorem StoreInv.step {c : Config} (h : StoreInv c) {th : ℕ} {m : Shared} {p : Pc}
    (hs : step c.mem (c.pc th) = some (m, p)) : StoreInv ⟨m, Function.update c.pc th p⟩ := by
  rcases hpc : c.pc th with _ | k | ⟨l, plans, w⟩ | ⟨l, plans⟩ | r <;> rw [hpc] at hs <;>
    simp only [PlanRace.step] at hs
  · cases hs
  · split at hs <;> cases hs
    · exact h.update th h.wellFormed h.distinct rfl (by simp) (by simp)
    · rename_i plans' he
      exact h.update th h.wellFormed h.distinct rfl
        (fun _ _ _ hp => by cases hp; exact Call.edit_nodup (h.distinct.getPlanList _) he) (by simp)
  · split at hs <;> cases hs
    · rename_i hok
      exact h.update th h.wellFormed h.distinct rfl (by simp) fun _ _ hp => by
        cases hp; exact ⟨(savePlanList_success_iff.1 hok).1, h.writing th _ _ _ hpc⟩
    · exact h.update th h.wellFormed h.distinct rfl (by simp) (by simp)
  · cases hs
    obtain ⟨hsv, hnd⟩ := h.storing th l plans hpc
    exact h.update th (h.wellFormed.setCached fun _ he => Option.some_injective _ he ▸ hsv)
      (h.distinct.setCached fun _ he => Option.some_injective _ he ▸ hnd) (savable_setCached _ _ _)
      (by simp) (by simp)
  · cases hs

/-- A call only moves a free thread to its copy. -/
theorem StoreInv.next {c : Config} (h : StoreInv c) : ∀ e, StoreInv (c.next e)
  | .step th => by
    simp only [Config.next]
    split
    · exact h.step ‹_›
    · exact h
  | .call th k => by
    simp only [Config.next]
    split_ifs
    · exact h.update th h.wellFormed h.distinct rfl (by simp) (by simp)
    · exact h

theorem StoreInv.run {c : Config} (h : StoreInv c) (es : List Event) : StoreInv (c.run es) := by
  induction es generalizing c with
  | nil => exact h
  | cons e es ih => exact ih (h.next e)

/-- **In every schedule the cache stays checked**: from a well-formed cache
with distinct numbers and no call under way, every cached list passes the
checks of `savePlanList` and keeps its plan numbers distinct, however the
copies, file writes and stores of the calls interleave. -/
theorem cache_invariant_of_any_schedule (c : Config) (hidle : ∀ th, (c.pc th).isFree = true)
    (hw : c.mem.svc.WellFormed) (hd : c.mem.svc.Distinct) (es : List Event) :
    (c.run es).mem.svc.WellFormed ∧ (c.run es).mem.svc.Distinct := by
  have h0 : StoreInv c := ⟨hw, hd, fun th _ _ _ hp => by simpa [hp, Pc.isFree] using hidle th,
    fun th _ _ hp => by simpa [hp, Pc.isFree] using hidle th⟩
  exact ⟨(h0.run es).wellFormed, (h0.run es).distinct⟩

/-! ## A lost plan -/

/-- A fresh store of one list of up to four plans, with no call under way. -/
def freshConfig : Config := ⟨⟨create 1 4, fun _ => none⟩, fun _ => .idle⟩

/-- Plan 2, every position at the origin, no waypoints. -/
def secondPlan : MinePlanInfo := { usDroppingPlanNumber := 2 }

/-- Threads 0 and 1 add plans 1 and 2 to list 1: both copy the empty list,
then thread 0 writes and stores, then thread 1. -/
def lostAdd : Config :=
  freshConfig.run
    [.call 0 (.addPlan 1 firstPlan .success), .call 1 (.addPlan 1 secondPlan .success),
      .step 0, .step 1, .step 0, .step 0, .step 1, .step 1]

/-- The store stays checked through that schedule. -/
theorem cache_invariant_through_lostAdd :
    (∀ th, (freshConfig.pc th).isFree = true) ∧ freshConfig.mem.svc.WellFormed ∧
      freshConfig.mem.svc.Distinct ∧ lostAdd.mem.svc.WellFormed ∧ lostAdd.mem.svc.Distinct :=
  have hw : freshConfig.mem.svc.WellFormed := fun _ _ h => by simp [freshConfig, create] at h
  have hd : freshConfig.mem.svc.Distinct := fun _ _ h => by simp [freshConfig, create] at h
  ⟨fun _ => rfl, hw, hd, cache_invariant_of_any_schedule freshConfig (fun _ => rfl) hw hd _⟩

/-- Both calls succeed, and the list and its file hold plan 2 alone, while
either order of the two calls one at a time keeps both plans. -/
theorem concurrent_adds_lose_a_plan :
    lostAdd.pc 0 = .done .success ∧ lostAdd.pc 1 = .done .success ∧
      lostAdd.mem.svc.cachedPlans 1 = some [secondPlan] ∧ lostAdd.mem.files 1 = some [secondPlan] ∧
      ((create 1 4).run [.addPlan 1 firstPlan .success, .addPlan 1 secondPlan .success]).cachedPlans 1 =
        some [firstPlan, secondPlan] ∧
      ((create 1 4).run [.addPlan 1 secondPlan .success, .addPlan 1 firstPlan .success]).cachedPlans 1 =
        some [secondPlan, firstPlan] :=
  ⟨rfl, rfl, rfl, rfl, rfl, rfl⟩

end PlanRace

end WeaponControl
