import Mathlib.Data.List.Nodup
import Mathlib.Data.List.FinRange
import Mathlib.Tactic.NormNum
import Mathlib.Tactic.Linarith
import WeaponControl.Types

/-!
# The mine drop plan store: `MineDropPlanService` (`unnamed/part_003`, lines 76-468)

A bounded catalog of drop plans: `m_maxPlanLists` lists, numbered from 1, of
at most `m_maxPlansPerList` plans each, one JSON file per list, and a cache
`m_cachedPlans` that every mutator writes after the file.

* The file system is the environment: each operation takes the outcome of the
  file access it makes (`create_directories`, the read of `readJsonFromFile`,
  the write of `writeJsonToFile`, `std::filesystem::remove`) as a `Result`,
  so a run covers every success and failure of every access.  A read that
  succeeds yields the empty list: `readJsonFromFile` does not parse the file
  (lines 428-431).
* `m_planDataPath` only names the files, which the outcomes stand for; it is
  left out.  `m_plansMutex` makes each cache access atomic, and the model runs
  one call at a time.
* Coordinates are doubles in the source and rationals here: a NaN
  coordinate, which passes every comparison of `validatePosition` in the
  source, is not modelled, and neither are infinities.

Every cached list passes the checks `savePlanList` makes before it writes
(`cache_wellFormed_of_reachable`); those checks do not include distinct plan
numbers, so one `savePlanList` call caches two plans of one number
(`savePlanList_caches_duplicate_numbers`), while every other call keeps
numbers distinct, one call at a time (`Distinct.preserved`) and so along
every run (`distinct_numbers_of_run`).

`validatePlan` bounds the positions and only the waypoints in the first
`min(usWaypointCnt, 8)` slots: its loop stops at the eighth slot (line 347),
so a plan that claims nine waypoints passes
(`validatePlan_accepts_nine_waypoints`).
-/

namespace WeaponControl

/-- The service object. -/
structure MineDropPlanService where
  maxPlanLists : ℕ
  maxPlansPerList : ℕ
  /-- `m_cachedPlans`, a `std::map` from list number to plans. -/
  cachedPlans : ℕ → Option (List MinePlanInfo)
  initialized : Bool

namespace MineDropPlanService

/-- The constructor: the two bounds from `SystemConfig`, an empty cache. -/
def create (maxPlanLists maxPlansPerList : ℕ) : MineDropPlanService :=
  { maxPlanLists := maxPlanLists, maxPlansPerList := maxPlansPerList,
    cachedPlans := fun _ => none, initialized := false }

/-- `validatePosition`: latitude in `[-90, 90]`, longitude in `[-180, 180]`,
depth in `[-1000, 10000]`. -/
def validatePosition (p : WeaponWaypoint) : Bool :=
  if p.dLatitude < -90 ∨ p.dLatitude > 90 then false
  else if p.dLongitude < -180 ∨ p.dLongitude > 180 then false
  else if p.fDepth < -1000 ∨ p.fDepth > 10000 then false
  else true

/-- `validatePlan`: a nonzero number, valid launch and drop positions, and
valid waypoints among the first `min(usWaypointCnt, 8)`. -/
def validatePlan (plan : MinePlanInfo) : Bool :=
  if plan.usDroppingPlanNumber = 0 then false
  else if !validatePosition plan.stLaunchPos || !validatePosition plan.stDropPos then false
  else (List.finRange 8).all fun i => plan.usWaypointCnt ≤ i.val || validatePosition (plan.stWaypoint i)

/-- `m_cachedPlans[planListNumber] = plans`, or its `erase` for `none`. -/
def setCached (s : MineDropPlanService) (planListNumber : ℕ) (plans : Option (List MinePlanInfo)) :
    MineDropPlanService :=
  { s with cachedPlans := Function.update s.cachedPlans planListNumber plans }

/-- `isValidPlanListNumber`. -/
def isValidPlanListNumber (s : MineDropPlanService) (planListNumber : ℕ) : Bool :=
  1 ≤ planListNumber ∧ planListNumber ≤ s.maxPlanLists

/-- `getPlanList`: the cached list, or empty for an invalid or uncached number. -/
def getPlanList (s : MineDropPlanService) (planListNumber : ℕ) : List MinePlanInfo :=
  if !s.isValidPlanListNumber planListNumber then [] else (s.cachedPlans planListNumber).getD []

/-- The `find_if` on the plan number that `getPlan`, `updatePlan`, `addPlan`
and `removePlan` use. -/
def hasNumber (planNumber : ℕ) (plan : MinePlanInfo) : Bool := plan.usDroppingPlanNumber = planNumber

/-- `getPlan`: the first plan of the list with the number. -/
def getPlan (s : MineDropPlanService) (planListNumber planNumber : ℕ) : Except String MinePlanInfo :=
  match (s.getPlanList planListNumber).find? (hasNumber planNumber) with
  | some plan => .ok plan
  | none => .error "Plan not found"

/-- `isValidPlanNumber`. -/
def isValidPlanNumber (s : MineDropPlanService) (planListNumber planNumber : ℕ) : Bool :=
  (s.getPlanList planListNumber).any (hasNumber planNumber)

/-- `savePlanList(planListNumber, plans)`: the number, the size and every plan
are checked, the file written (`write` is its outcome), then the cache. -/
def savePlanList (s : MineDropPlanService) (planListNumber : ℕ) (plans : List MinePlanInfo)
    (write : Result) : Result × MineDropPlanService :=
  if !s.isValidPlanListNumber planListNumber then (.failure "Invalid plan list number", s)
  else if plans.length > s.maxPlansPerList then (.failure "Too many plans in list", s)
  else if !plans.all validatePlan then (.failure "Invalid plan in list", s)
  else
    match write with
    | .failure e => (.failure e, s)
    | .success => (.success, s.setCached planListNumber (some plans))

/-- `loadPlanList(planListNumber)`: `read` is the outcome of
`readJsonFromFile`, whose success carries no plans. -/
def loadPlanList (s : MineDropPlanService) (planListNumber : ℕ) (read : Result) :
    Result × MineDropPlanService :=
  if !s.isValidPlanListNumber planListNumber then (.failure "Invalid plan list number", s)
  else
    match read with
    | .failure e => (.failure ("Failed to load plan list: " ++ e), s)
    | .success => (.success, s.setCached planListNumber (some []))

/-- `createNewPlanList(planListNumber)`: save an empty list. -/
def createNewPlanList (s : MineDropPlanService) (planListNumber : ℕ) (write : Result) :
    Result × MineDropPlanService :=
  if !s.isValidPlanListNumber planListNumber then (.failure "Invalid plan list number", s)
  else s.savePlanList planListNumber [] write

/-- `deletePlanList(planListNumber)`: `remove` is the outcome of
`std::filesystem::remove`; the cache entry goes after it. -/
def deletePlanList (s : MineDropPlanService) (planListNumber : ℕ) (remove : Result) :
    Result × MineDropPlanService :=
  if !s.isValidPlanListNumber planListNumber then (.failure "Invalid plan list number", s)
  else
    match remove with
    | .failure e => (.failure ("Failed to delete plan list: " ++ e), s)
    | .success => (.success, s.setCached planListNumber none)

/-- `initialize()` (a keyword of Lean, hence the name): `dirs` is the outcome
of `create_directories`; then every list is loaded, or created when its load
fails (the creation's result is dropped). -/
def init (s : MineDropPlanService) (dirs : Result) (read write : ℕ → Result) :
    Result × MineDropPlanService :=
  match dirs with
  | .failure e => (.failure ("Failed to initialize MineDropPlanService: " ++ e), s)
  | .success =>
    let s' := (List.range' 1 s.maxPlanLists).foldl
      (fun s i =>
        match s.loadPlanList i (read i) with
        | (.success, s₁) => s₁
        | (_, s₁) => (s₁.createNewPlanList i (write i)).2)
      s
    (.success, { s' with initialized := true })

/-- The edit of `updatePlan`: the first plan with the number replaced, or the
plan appended. -/
def upsert (plan : MinePlanInfo) : List MinePlanInfo → List MinePlanInfo
  | [] => [plan]
  | p :: ps => if hasNumber plan.usDroppingPlanNumber p then plan :: ps else p :: upsert plan ps

/-- `updatePlan(planListNumber, plan)`. -/
def updatePlan (s : MineDropPlanService) (planListNumber : ℕ) (plan : MinePlanInfo) (write : Result) :
    Result × MineDropPlanService :=
  if !validatePlan plan then (.failure "Invalid plan", s)
  else s.savePlanList planListNumber (upsert plan (s.getPlanList planListNumber)) write

/-- `addPlan(planListNumber, plan)`. -/
def addPlan (s : MineDropPlanService) (planListNumber : ℕ) (plan : MinePlanInfo) (write : Result) :
    Result × MineDropPlanService :=
  if !validatePlan plan then (.failure "Invalid plan", s)
  else
    let plans := s.getPlanList planListNumber
    if plans.length ≥ s.maxPlansPerList then (.failure "Plan list is full", s)
    else if plans.any (hasNumber plan.usDroppingPlanNumber) then (.failure "Plan number already exists", s)
    else s.savePlanList planListNumber (plans ++ [plan]) write

/-- `removePlan(planListNumber, planNumber)`: the first plan with the number
erased. -/
def removePlan (s : MineDropPlanService) (planListNumber planNumber : ℕ) (write : Result) :
    Result × MineDropPlanService :=
  let plans := s.getPlanList planListNumber
  if !plans.any (hasNumber planNumber) then (.failure "Plan not found", s)
  else s.savePlanList planListNumber (plans.eraseP (hasNumber planNumber)) write

/-- `updateFromEditedPlanList`: the message is not decoded yet, and list 1 is
saved empty. -/
def updateFromEditedPlanList (s : MineDropPlanService) (write : Result) : Result × MineDropPlanService :=
  s.savePlanList 1 [] write

end MineDropPlanService

/-- The mutators of the service, each with the outcomes of the file accesses
it makes. -/
inductive PlanOp where
  | init (dirs : Result) (read write : ℕ → Result)
  | loadPlanList (planListNumber : ℕ) (read : Result)
  | savePlanList (planListNumber : ℕ) (plans : List MinePlanInfo) (write : Result)
  | createNewPlanList (planListNumber : ℕ) (write : Result)
  | deletePlanList (planListNumber : ℕ) (remove : Result)
  | addPlan (planListNumber : ℕ) (plan : MinePlanInfo) (write : Result)
  | updatePlan (planListNumber : ℕ) (plan : MinePlanInfo) (write : Result)
  | removePlan (planListNumber planNumber : ℕ) (write : Result)
  | updateFromEditedPlanList (write : Result)

/-- A call that caches no list with a repeated plan number: every call but a
`savePlanList` given such a list. -/
def PlanOp.SavesDistinct : PlanOp → Prop
  | .savePlanList _ plans _ => (plans.map MinePlanInfo.usDroppingPlanNumber).Nodup
  | _ => True

instance : DecidablePred PlanOp.SavesDistinct
  | .init .. | .loadPlanList .. | .createNewPlanList .. | .deletePlanList .. | .addPlan ..
  | .updatePlan .. | .removePlan .. | .updateFromEditedPlanList .. => isTrue trivial
  | .savePlanList _ plans _ => inferInstanceAs (Decidable (plans.map MinePlanInfo.usDroppingPlanNumber).Nodup)

namespace MineDropPlanService

/-- The service after one call. -/
def apply (s : MineDropPlanService) : PlanOp → MineDropPlanService
  | .init dirs read write => (s.init dirs read write).2
  | .loadPlanList l read => (s.loadPlanList l read).2
  | .savePlanList l plans write => (s.savePlanList l plans write).2
  | .createNewPlanList l write => (s.createNewPlanList l write).2
  | .deletePlanList l remove => (s.deletePlanList l remove).2
  | .addPlan l plan write => (s.addPlan l plan write).2
  | .updatePlan l plan write => (s.updatePlan l plan write).2
  | .removePlan l n write => (s.removePlan l n write).2
  | .updateFromEditedPlanList write => (s.updateFromEditedPlanList write).2

/-- The service after a sequence of calls. -/
def run (s : MineDropPlanService) (ops : List PlanOp) : MineDropPlanService := ops.foldl apply s

/-- A state some run of calls reaches from a freshly constructed service. -/
def Reachable (s : MineDropPlanService) : Prop :=
  ∃ maxPlanLists maxPlansPerList ops, s = (create maxPlanLists maxPlansPerList).run ops

/-! ## What `savePlanList` accepts -/

/-- What `savePlanList` checks of a list before it writes: a valid list
number, at most `m_maxPlansPerList` plans, every plan valid. -/
def Savable (s : MineDropPlanService) (planListNumber : ℕ) (plans : List MinePlanInfo) : Prop :=
  s.isValidPlanListNumber planListNumber = true ∧ plans.length ≤ s.maxPlansPerList ∧
    plans.all validatePlan = true

instance (s : MineDropPlanService) (l : ℕ) (plans : List MinePlanInfo) : Decidable (s.Savable l plans) :=
  inferInstanceAs (Decidable (_ ∧ _ ∧ _))

variable {s : MineDropPlanService} {l : ℕ} {plans : List MinePlanInfo} {write : Result}

@[simp] theorem setCached_cachedPlans (s : MineDropPlanService) (l : ℕ) (v : Option (List MinePlanInfo)) :
    (s.setCached l v).cachedPlans = Function.update s.cachedPlans l v := rfl
@[simp] theorem isValidPlanListNumber_setCached (s : MineDropPlanService) (l : ℕ)
    (v : Option (List MinePlanInfo)) :
    (s.setCached l v).isValidPlanListNumber = s.isValidPlanListNumber := rfl
@[simp] theorem savable_setCached (s : MineDropPlanService) (l : ℕ) (v : Option (List MinePlanInfo)) :
    (s.setCached l v).Savable = s.Savable := rfl

/-- **`savePlanList` succeeds exactly on the lists it checks, when the write
succeeds.** -/
theorem savePlanList_success_iff :
    (s.savePlanList l plans write).1 = .success ↔ s.Savable l plans ∧ write = .success := by
  unfold savePlanList Savable
  by_cases h1 : s.isValidPlanListNumber l
  · by_cases h2 : s.maxPlansPerList < plans.length
    · simp [h1, h2, not_le.2 h2]
    · by_cases h3 : plans.all validatePlan = true
      · cases write <;> simp [h1, h2, h3, not_lt.1 h2]
      · simp [h1, h2, h3]
  · simp [h1]

/-- A successful `savePlanList` caches the list; a failed one changes nothing. -/
theorem savePlanList_snd :
    (s.savePlanList l plans write).2 =
      if s.Savable l plans ∧ write = .success then s.setCached l (some plans) else s := by
  unfold savePlanList Savable
  by_cases h1 : s.isValidPlanListNumber l
  · by_cases h2 : s.maxPlansPerList < plans.length
    · simp [h1, h2, not_le.2 h2]
    · by_cases h3 : plans.all validatePlan = true
      · cases write <;> simp [h1, h2, h3, not_lt.1 h2]
      · simp [h1, h2, h3]
  · simp [h1]

/-! ## The invariant: every cached list passes those checks -/

/-- Every cached list is one `savePlanList` accepts. -/
def WellFormed (s : MineDropPlanService) : Prop :=
  ∀ l plans, s.cachedPlans l = some plans → s.Savable l plans

theorem WellFormed.setCached (h : s.WellFormed) {v : Option (List MinePlanInfo)}
    (hv : ∀ plans, v = some plans → s.Savable l plans) : (s.setCached l v).WellFormed := by
  intro l' plans' hl'
  rw [savable_setCached]
  by_cases e : l' = l
  · subst e
    exact hv plans' (by simpa using hl')
  · exact h l' plans' (by simpa [e] using hl')

theorem WellFormed.savePlanList (h : s.WellFormed) : (s.savePlanList l plans write).2.WellFormed := by
  rw [savePlanList_snd]
  split_ifs with hs
  · exact h.setCached fun _ he => Option.some_injective _ he ▸ hs.1
  · exact h

theorem WellFormed.loadPlanList (h : s.WellFormed) (read : Result) :
    (s.loadPlanList l read).2.WellFormed := by
  unfold MineDropPlanService.loadPlanList
  split_ifs with hl
  · exact h
  · cases read
    · exact h.setCached fun _ he => Option.some_injective _ he ▸ ⟨by simpa using hl, by simp, rfl⟩
    · exact h

theorem WellFormed.createNewPlanList (h : s.WellFormed) : (s.createNewPlanList l write).2.WellFormed := by
  unfold MineDropPlanService.createNewPlanList
  split_ifs
  · exact h
  · exact h.savePlanList

theorem WellFormed.deletePlanList (h : s.WellFormed) (remove : Result) :
    (s.deletePlanList l remove).2.WellFormed := by
  unfold MineDropPlanService.deletePlanList
  split_ifs
  · exact h
  · cases remove
    · exact h.setCached fun _ he => nomatch he
    · exact h

/-- What the loop of `initialize()` keeps: a property of the service that
every load and every creation keeps. -/
theorem init_induction (P : MineDropPlanService → Prop)
    (hload : ∀ s i r, P s → P (s.loadPlanList i r).2)
    (hcreate : ∀ s i w, P s → P (s.createNewPlanList i w).2)
    (hflag : ∀ s b, P s → P { s with initialized := b }) (dirs : Result) (read write : ℕ → Result)
    (hs : P s) : P (s.init dirs read write).2 := by
  unfold init
  cases dirs with
  | failure e => exact hs
  | success =>
    refine hflag _ _ ?_
    induction List.range' 1 s.maxPlanLists generalizing s with
    | nil => exact hs
    | cons i is ih =>
      refine ih ?_
      dsimp only
      have hl := hload s i (read i) hs
      split
      · rename_i s₁ he
        rwa [he] at hl
      · rename_i s₁ _ he
        rw [he] at hl
        exact hcreate s₁ i (write i) hl

theorem WellFormed.addPlan (h : s.WellFormed) (plan : MinePlanInfo) :
    (s.addPlan l plan write).2.WellFormed := by
  unfold MineDropPlanService.addPlan
  dsimp only
  split_ifs
  all_goals first | exact h | exact h.savePlanList

theorem WellFormed.updatePlan (h : s.WellFormed) (plan : MinePlanInfo) :
    (s.updatePlan l plan write).2.WellFormed := by
  unfold MineDropPlanService.updatePlan
  split_ifs
  · exact h
  · exact h.savePlanList

theorem WellFormed.removePlan (h : s.WellFormed) (n : ℕ) : (s.removePlan l n write).2.WellFormed := by
  unfold MineDropPlanService.removePlan
  dsimp only
  split_ifs
  · exact h
  · exact h.savePlanList

theorem WellFormed.apply (h : s.WellFormed) : ∀ op, (s.apply op).WellFormed
  | .init dirs read write =>
    init_induction WellFormed (fun _ _ r h => h.loadPlanList r) (fun _ _ _ h => h.createNewPlanList)
      (fun _ _ h => h) dirs read write h
  | .loadPlanList _ read => h.loadPlanList read
  | .savePlanList _ _ _ => h.savePlanList
  | .createNewPlanList _ _ => h.createNewPlanList
  | .deletePlanList _ remove => h.deletePlanList remove
  | .addPlan _ plan _ => h.addPlan plan
  | .updatePlan _ plan _ => h.updatePlan plan
  | .removePlan _ n _ => h.removePlan n
  | .updateFromEditedPlanList _ => h.savePlanList

theorem WellFormed.run (h : s.WellFormed) (ops : List PlanOp) : (s.run ops).WellFormed := by
  induction ops generalizing s with
  | nil => exact h
  | cons op ops ih => exact ih (h.apply op)

theorem Reachable.wellFormed (h : s.Reachable) : s.WellFormed := by
  obtain ⟨_, _, ops, rfl⟩ := h
  exact WellFormed.run (fun _ _ he => by simp [create] at he) ops

/-- **Every reachable store caches only lists `savePlanList` accepts**: list
numbers in `[1, m_maxPlanLists]`, at most `m_maxPlansPerList` plans each,
every plan valid. -/
theorem cache_wellFormed_of_reachable (h : s.Reachable) : s.WellFormed :=
  h.wellFormed

/-- A store of two lists of three plans after one `addPlan`. -/
theorem cache_wellFormed_of_reachable_addPlan :
    ((create 2 3).run [.addPlan 1 { usDroppingPlanNumber := 1 } .success]).Reachable ∧
      ((create 2 3).run [.addPlan 1 { usDroppingPlanNumber := 1 } .success]).WellFormed :=
  ⟨⟨2, 3, _, rfl⟩, cache_wellFormed_of_reachable ⟨2, 3, _, rfl⟩⟩

/-! ## Distinct plan numbers -/

/-- Within each cached list the plan numbers are pairwise distinct. -/
def Distinct (s : MineDropPlanService) : Prop :=
  ∀ l plans, s.cachedPlans l = some plans → (plans.map MinePlanInfo.usDroppingPlanNumber).Nodup

theorem Distinct.setCached (h : s.Distinct) {v : Option (List MinePlanInfo)}
    (hv : ∀ plans, v = some plans → (plans.map MinePlanInfo.usDroppingPlanNumber).Nodup) :
    (s.setCached l v).Distinct := by
  intro l' plans' hl'
  by_cases e : l' = l
  · subst e
    exact hv plans' (by simpa using hl')
  · exact h l' plans' (by simpa [e] using hl')

theorem Distinct.getPlanList (h : s.Distinct) (l : ℕ) :
    ((s.getPlanList l).map MinePlanInfo.usDroppingPlanNumber).Nodup := by
  unfold MineDropPlanService.getPlanList
  split_ifs
  · simp
  · rcases hc : s.cachedPlans l with _ | ps
    · simp
    · simpa using h l ps hc

theorem Distinct.savePlanList (h : s.Distinct) (hn : (plans.map MinePlanInfo.usDroppingPlanNumber).Nodup) :
    (s.savePlanList l plans write).2.Distinct := by
  rw [savePlanList_snd]
  split_ifs
  · exact h.setCached fun _ he => Option.some_injective _ he ▸ hn
  · exact h

theorem Distinct.loadPlanList (h : s.Distinct) (read : Result) : (s.loadPlanList l read).2.Distinct := by
  unfold MineDropPlanService.loadPlanList
  split_ifs
  · exact h
  · cases read
    · exact h.setCached fun _ he => Option.some_injective _ he ▸ List.nodup_nil
    · exact h

theorem Distinct.createNewPlanList (h : s.Distinct) : (s.createNewPlanList l write).2.Distinct := by
  unfold MineDropPlanService.createNewPlanList
  split_ifs
  · exact h
  · exact h.savePlanList List.nodup_nil

theorem Distinct.deletePlanList (h : s.Distinct) (remove : Result) : (s.deletePlanList l remove).2.Distinct := by
  unfold MineDropPlanService.deletePlanList
  split_ifs
  · exact h
  · cases remove
    · exact h.setCached fun _ he => nomatch he
    · exact h

/-- The numbers after an `upsert`: the same when the number was there, one
more at the end when it was not. -/
theorem map_number_upsert (plan : MinePlanInfo) (ps : List MinePlanInfo) :
    (upsert plan ps).map MinePlanInfo.usDroppingPlanNumber =
      if ps.any (hasNumber plan.usDroppingPlanNumber) then ps.map MinePlanInfo.usDroppingPlanNumber
      else ps.map MinePlanInfo.usDroppingPlanNumber ++ [plan.usDroppingPlanNumber] := by
  induction ps with
  | nil => simp [upsert]
  | cons q qs ih =>
    cases hq : hasNumber plan.usDroppingPlanNumber q
    · simp only [upsert, hq, Bool.false_eq_true, ↓reduceIte, List.map_cons, ih, List.any_cons,
        Bool.false_or]
      split_ifs <;> simp
    · simp only [hasNumber, decide_eq_true_eq] at hq
      simp [upsert, hasNumber, hq]

theorem Distinct.addPlan (h : s.Distinct) (plan : MinePlanInfo) : (s.addPlan l plan write).2.Distinct := by
  unfold MineDropPlanService.addPlan
  dsimp only
  split_ifs with _ _ hnew
  · exact h
  · exact h
  · exact h
  · have hnew : ∀ q ∈ s.getPlanList l, q.usDroppingPlanNumber ≠ plan.usDroppingPlanNumber := by
      simpa [hasNumber] using hnew
    refine h.savePlanList ?_
    simpa [List.nodup_append, hasNumber] using ⟨h.getPlanList l, hnew⟩

theorem Distinct.updatePlan (h : s.Distinct) (plan : MinePlanInfo) :
    (s.updatePlan l plan write).2.Distinct := by
  unfold MineDropPlanService.updatePlan
  split_ifs
  · exact h
  · refine h.savePlanList ?_
    rw [map_number_upsert]
    split_ifs with hany
    · exact h.getPlanList l
    · have hnew : ∀ q ∈ s.getPlanList l, q.usDroppingPlanNumber ≠ plan.usDroppingPlanNumber := by
        simpa [hasNumber] using hany
      simpa [List.nodup_append, hasNumber] using ⟨h.getPlanList l, hnew⟩

theorem Distinct.removePlan (h : s.Distinct) (n : ℕ) : (s.removePlan l n write).2.Distinct := by
  unfold MineDropPlanService.removePlan
  dsimp only
  split_ifs
  · exact h
  · exact h.savePlanList (((List.eraseP_sublist _).map _).nodup (h.getPlanList l))

theorem create_distinct (maxPlanLists maxPlansPerList : ℕ) :
    (create maxPlanLists maxPlansPerList).Distinct :=
  fun _ _ he => Option.noConfusion he

/-- **Every call but a `savePlanList` of a list with a repeated number keeps
plan numbers distinct.** -/
theorem Distinct.preserved (h : s.Distinct) (op : PlanOp) (hop : op.SavesDistinct) :
    (s.apply op).Distinct := by
  cases op with
  | init dirs read write =>
    exact init_induction Distinct (fun _ _ r h => h.loadPlanList r) (fun _ _ _ h => h.createNewPlanList)
      (fun _ _ h => h) dirs read write h
  | loadPlanList _ read => exact h.loadPlanList read
  | savePlanList l plans w => exact h.savePlanList hop
  | createNewPlanList _ _ => exact h.createNewPlanList
  | deletePlanList _ remove => exact h.deletePlanList remove
  | addPlan _ plan _ => exact h.addPlan plan
  | updatePlan _ plan _ => exact h.updatePlan plan
  | removePlan _ n _ => exact h.removePlan n
  | updateFromEditedPlanList _ => exact h.savePlanList List.nodup_nil

theorem Distinct.run {s : MineDropPlanService} (h : s.Distinct) :
    ∀ ops : List PlanOp, (∀ op ∈ ops, op.SavesDistinct) → (s.run ops).Distinct
  | [], _ => h
  | op :: ops, hops =>
    (h.preserved op (hops op (List.mem_cons_self _ _))).run ops fun o ho => hops o (List.mem_cons_of_mem _ ho)

/-- Plan 1, every position at the origin, no waypoints. -/
def firstPlan : MinePlanInfo := { usDroppingPlanNumber := 1 }

theorem validatePlan_firstPlan : validatePlan firstPlan = true := by
  norm_num [validatePlan, validatePosition, firstPlan]

/-- Plan 2, every position at the origin, no waypoints. -/
def secondPlan : MinePlanInfo := { usDroppingPlanNumber := 2 }

/-- **Along every run from the constructor that saves no list with a repeated
plan number, every cached list keeps its numbers distinct**, whatever the
outcome of each file access: `initialize`, `loadPlanList`,
`createNewPlanList`, `deletePlanList`, `addPlan`, `updatePlan`, `removePlan`
and `updateFromEditedPlanList` never introduce a repeat. -/
theorem distinct_numbers_of_run (maxPlanLists maxPlansPerList : ℕ) (ops : List PlanOp)
    (hops : ∀ op ∈ ops, op.SavesDistinct) : ((create maxPlanLists maxPlansPerList).run ops).Distinct :=
  (create_distinct maxPlanLists maxPlansPerList).run ops hops

/-- Plans 1 and 2 added to list 1, plan 1 updated, a second add of plan 1
refused, both saved as list 2, then plan 1 removed from list 1. -/
def planEdits : List PlanOp :=
  [.addPlan 1 firstPlan .success, .addPlan 1 secondPlan .success, .updatePlan 1 firstPlan .success,
    .addPlan 1 firstPlan .success, .savePlanList 2 [firstPlan, secondPlan] .success,
    .removePlan 1 1 .success]

theorem distinct_numbers_through_edits :
    (∀ op ∈ planEdits, op.SavesDistinct) ∧ ((create 2 3).run planEdits).Distinct ∧
      (((create 2 3).run planEdits).getPlanList 1).map MinePlanInfo.usDroppingPlanNumber = [2] ∧
      (((create 2 3).run planEdits).getPlanList 2).map MinePlanInfo.usDroppingPlanNumber = [1, 2] :=
  ⟨by decide, distinct_numbers_of_run 2 3 planEdits (by decide), by decide, by decide⟩

/-- On a fresh store of one list of up to two plans, saving plan 1 twice
succeeds and caches two plans numbered 1. -/
theorem savePlanList_caches_duplicate_numbers :
    validatePlan firstPlan = true ∧
      ((create 1 2).savePlanList 1 [firstPlan, firstPlan] .success).1 = .success ∧
      (((create 1 2).savePlanList 1 [firstPlan, firstPlan] .success).2.cachedPlans 1).map
          (·.map MinePlanInfo.usDroppingPlanNumber) = some [1, 1] := by
  have hs : (create 1 2).Savable 1 [firstPlan, firstPlan] :=
    ⟨rfl, le_refl 2, by simp [validatePlan_firstPlan]⟩
  refine ⟨validatePlan_firstPlan, savePlanList_success_iff.2 ⟨hs, rfl⟩, ?_⟩
  rw [savePlanList_snd, if_pos ⟨hs, rfl⟩]
  rfl

/-! ## What `validatePlan` checks -/

/-- Plan 1 at the origin, claiming nine waypoints in its eight slots. -/
def nineWaypointPlan : MinePlanInfo := { firstPlan with usWaypointCnt := 9 }

theorem validatePlan_accepts_nine_waypoints :
    validatePlan nineWaypointPlan = true ∧ ¬ nineWaypointPlan.usWaypointCnt ≤ 8 := by
  norm_num [validatePlan, validatePosition, nineWaypointPlan, firstPlan, List.all_eq_true]

end MineDropPlanService

end WeaponControl
