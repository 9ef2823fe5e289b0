import WeaponControl.Service.MineDropPlan

/-!
# The drop plan cache as a finite map

The design describes the store as a catalog keyed by `(list number, plan
number)`.  A cache *represents* a catalog `M` when `M L n` is the plan of list
`L` numbered `n` (`Represents`); with distinct numbers in every list, each
state represents exactly the catalog `catalog s` of first matches.

On a reachable state with distinct numbers, `getPlan` and `isValidPlanNumber`
are the catalog's lookup and membership, and `addPlan`, `updatePlan` and
`removePlan` succeed exactly when their checks and the file write do, then
update the catalog at one key; a failed call leaves the store as it was
(`planCache_refines_catalog`).  Every list lemma below needs distinct numbers
only where the source's `find_if` would otherwise pick another plan: the
first of two plans of one number is the one `getPlan` returns, `updatePlan`
replaces and `removePlan` erases.
-/

namespace WeaponControl

namespace MineDropPlanService

/-! ## Lists of plans with distinct numbers -/

/-- Two plans of one list with one number are one plan. -/
theorem eq_of_number_eq {ps : List MinePlanInfo} (hnd : (ps.map MinePlanInfo.usDroppingPlanNumber).Nodup)
    {p q : MinePlanInfo} (hp : p ∈ ps) (hq : q ∈ ps) (h : p.usDroppingPlanNumber = q.usDroppingPlanNumber) :
    p = q :=
  List.inj_on_of_nodup_map hnd hp hq h

/-- The first plan with a number is the plan with that number. -/
theorem find?_hasNumber_eq_some {ps : List MinePlanInfo}
    (hnd : (ps.map MinePlanInfo.usDroppingPlanNumber).Nodup) {n : ℕ} {p : MinePlanInfo} :
    ps.find? (hasNumber n) = some p ↔ p ∈ ps ∧ p.usDroppingPlanNumber = n := by
  constructor
  · intro h
    exact ⟨List.mem_of_find?_eq_some h, by simpa [hasNumber] using List.find?_some h⟩
  · rintro ⟨hp, rfl⟩
    have hsome : (ps.find? (hasNumber p.usDroppingPlanNumber)).isSome :=
      List.find?_isSome.2 ⟨p, hp, by simp [hasNumber]⟩
    obtain ⟨q, hq⟩ := Option.isSome_iff_exists.1 hsome
    have hqn : q.usDroppingPlanNumber = p.usDroppingPlanNumber := by
      simpa [hasNumber] using List.find?_some hq
    rw [hq, eq_of_number_eq hnd (List.mem_of_find?_eq_some hq) hp hqn]

/-- After `upsert`: the new plan, and the old plans of other numbers. -/
theorem mem_upsert {ps : List MinePlanInfo} (hnd : (ps.map MinePlanInfo.usDroppingPlanNumber).Nodup)
    (plan q : MinePlanInfo) :
    q ∈ upsert plan ps ↔ q = plan ∨ (q ∈ ps ∧ q.usDroppingPlanNumber ≠ plan.usDroppingPlanNumber) := by
  induction ps with
  | nil => simp [upsert]
  | cons r rs ih =>
    rw [List.map_cons, List.nodup_cons] at hnd
    have hr : ∀ q ∈ rs, q.usDroppingPlanNumber ≠ r.usDroppingPlanNumber := fun q hq he =>
      hnd.1 (he ▸ List.mem_map_of_mem _ hq)
    by_cases hm : r.usDroppingPlanNumber = plan.usDroppingPlanNumber
    · rw [show upsert plan (r :: rs) = plan :: rs by simp [upsert, hasNumber, hm], List.mem_cons,
        List.mem_cons]
      constructor
      · rintro (h | h)
        · exact .inl h
        · exact .inr ⟨.inr h, hm ▸ hr q h⟩
      · rintro (h | ⟨h | h, hn⟩)
        · exact .inl h
        · exact absurd (h ▸ hm) hn
        · exact .inr h
    · rw [show upsert plan (r :: rs) = r :: upsert plan rs by simp [upsert, hasNumber, hm],
        List.mem_cons, ih hnd.2, List.mem_cons]
      constructor
      · rintro (h | h | h)
        · exact .inr ⟨.inl h, h ▸ hm⟩
        · exact .inl h
        · exact .inr ⟨.inr h.1, h.2⟩
      · rintro (h | ⟨h | h, hn⟩)
        · exact .inr (.inl h)
        · exact .inl h
        · exact .inr (.inr ⟨h, hn⟩)

/-- After erasing the first plan with number `n`: the plans of other numbers. -/
theorem mem_eraseP_hasNumber {ps : List MinePlanInfo}
    (hnd : (ps.map MinePlanInfo.usDroppingPlanNumber).Nodup) (n : ℕ) (q : MinePlanInfo) :
    q ∈ ps.eraseP (hasNumber n) ↔ q ∈ ps ∧ q.usDroppingPlanNumber ≠ n := by
  induction ps with
  | nil => simp
  | cons r rs ih =>
    rw [List.map_cons, List.nodup_cons] at hnd
    have hr : ∀ q ∈ rs, q.usDroppingPlanNumber ≠ r.usDroppingPlanNumber := fun q hq he =>
      hnd.1 (he ▸ List.mem_map_of_mem _ hq)
    by_cases hm : r.usDroppingPlanNumber = n
    · rw [show (r :: rs).eraseP (hasNumber n) = rs by simp [List.eraseP_cons, hasNumber, hm],
        List.mem_cons]
      constructor
      · exact fun h => ⟨.inr h, hm ▸ hr q h⟩
      · rintro ⟨h | h, hn⟩
        · exact absurd (h ▸ hm) hn
        · exact h
    · rw [show (r :: rs).eraseP (hasNumber n) = r :: rs.eraseP (hasNumber n) by
          simp [List.eraseP_cons, hasNumber, hm],
        List.mem_cons, ih hnd.2, List.mem_cons]
      constructor
      · rintro (h | h)
        · exact ⟨.inl h, h ▸ hm⟩
        · exact ⟨.inr h.1, h.2⟩
      · rintro ⟨h | h, hn⟩
        · exact .inl h
        · exact .inr ⟨h, hn⟩

/-! ## The catalog a cache represents -/

/-- `M L n = some p` exactly when `p` is a plan of list `L` numbered `n`. -/
def Represents (s : MineDropPlanService) (M : ℕ → ℕ → Option MinePlanInfo) : Prop :=
  ∀ l n p, M l n = some p ↔ p ∈ s.getPlanList l ∧ p.usDroppingPlanNumber = n

/-- The catalog of first matches, as `getPlan` reads it. -/
def catalog (s : MineDropPlanService) : ℕ → ℕ → Option MinePlanInfo :=
  fun l n => (s.getPlanList l).find? (hasNumber n)

/-- The catalog `M` with the entry `(l, n)` set to `v`. -/
def setEntry (M : ℕ → ℕ → Option MinePlanInfo) (l n : ℕ) (v : Option MinePlanInfo) :
    ℕ → ℕ → Option MinePlanInfo :=
  Function.update M l (Function.update (M l) n v)

variable {s : MineDropPlanService} {M : ℕ → ℕ → Option MinePlanInfo} {l n : ℕ} {write : Result}

/-- With distinct numbers, a state represents the catalog of its first
matches. -/
theorem represents_catalog (hd : s.Distinct) : s.Represents (catalog s) :=
  fun l _ _ => find?_hasNumber_eq_some (hd.getPlanList l)

theorem WellFormed.getPlanList (hw : s.WellFormed) (l : ℕ) :
    (s.getPlanList l).length ≤ s.maxPlansPerList ∧ (s.getPlanList l).all validatePlan = true := by
  unfold MineDropPlanService.getPlanList
  split_ifs
  · simp
  · rcases hc : s.cachedPlans l with _ | ps
    · simp
    · exact (hw l ps hc).2

theorem getPlanList_of_invalid (hl : s.isValidPlanListNumber l = false) : s.getPlanList l = [] := by
  simp [getPlanList, hl]

theorem getPlanList_setCached (hl : s.isValidPlanListNumber l = true) (ps : List MinePlanInfo) (l' : ℕ) :
    (s.setCached l (some ps)).getPlanList l' = if l' = l then ps else s.getPlanList l' := by
  by_cases e : l' = l
  · subst e
    simp [getPlanList, hl]
  · simp [getPlanList, e]

/-- **`isValidPlanNumber` is membership in the catalog.** -/
theorem isValidPlanNumber_eq (hr : s.Represents M) (l n : ℕ) :
    s.isValidPlanNumber l n = (M l n).isSome := by
  rw [Bool.eq_iff_iff, isValidPlanNumber, List.any_eq_true, Option.isSome_iff_exists]
  simp only [hr l n, hasNumber, decide_eq_true_eq]

/-- **`getPlan` is lookup in the catalog.** -/
theorem getPlan_eq_ok_iff (hd : s.Distinct) (hr : s.Represents M) (l n : ℕ) (p : MinePlanInfo) :
    s.getPlan l n = .ok p ↔ M l n = some p := by
  rw [hr, ← find?_hasNumber_eq_some (hd.getPlanList l), getPlan]
  cases h : (s.getPlanList l).find? (hasNumber n) <;> simp

/-- A list that differs from list `l` of `s` at number `k` alone, where it
holds `v`. -/
def ChangesAt (s : MineDropPlanService) (l k : ℕ) (v : Option MinePlanInfo) (ps : List MinePlanInfo) :
    Prop :=
  ∀ q n, q ∈ ps ∧ q.usDroppingPlanNumber = n ↔
    if n = k then v = some q else q ∈ s.getPlanList l ∧ q.usDroppingPlanNumber = n

/-- Caching such a list sets one entry of the catalog. -/
theorem Represents.setCached (hr : s.Represents M) (hl : s.isValidPlanListNumber l = true)
    {k : ℕ} {v : Option MinePlanInfo} {ps : List MinePlanInfo} (hps : s.ChangesAt l k v ps) :
    (s.setCached l (some ps)).Represents (setEntry M l k v) := by
  intro l' n q
  rw [getPlanList_setCached hl]
  by_cases e : l' = l
  · subst e
    rw [if_pos rfl, hps, setEntry, Function.update_same]
    by_cases hn : n = k
    · subst hn
      simp
    · simp [hn, hr l' n q]
  · simp [setEntry, e, hr l' n q]

/-! ## The three mutators -/

theorem addPlan_changesAt (hr : s.Represents M) (plan : MinePlanInfo)
    (hnone : M l plan.usDroppingPlanNumber = none) :
    s.ChangesAt l plan.usDroppingPlanNumber (some plan) (s.getPlanList l ++ [plan]) := by
  intro q n
  by_cases hn : n = plan.usDroppingPlanNumber
  · subst hn
    have : q ∈ s.getPlanList l → q.usDroppingPlanNumber ≠ plan.usDroppingPlanNumber := fun hq he =>
      by simpa [hnone] using (hr l _ q).2 ⟨hq, he⟩
    simp only [List.mem_append, List.mem_singleton, if_pos rfl, Option.some.injEq]
    constructor
    · rintro ⟨hq | rfl, he⟩
      · exact absurd he (this hq)
      · rfl
    · rintro rfl
      exact ⟨.inr rfl, rfl⟩
  · simp only [List.mem_append, List.mem_singleton, if_neg hn]
    constructor
    · rintro ⟨hq | rfl, he⟩
      · exact ⟨hq, he⟩
      · exact absurd he.symm hn
    · exact fun h => ⟨.inl h.1, h.2⟩

/-- **`addPlan` succeeds exactly when the plan is valid, the list number in
range, the list not full, the number new and the write succeeds.** -/
theorem addPlan_success_iff (hw : s.WellFormed) (hr : s.Represents M) (plan : MinePlanInfo) :
    (s.addPlan l plan write).1 = .success ↔
      validatePlan plan = true ∧ s.isValidPlanListNumber l = true ∧
        (s.getPlanList l).length < s.maxPlansPerList ∧ M l plan.usDroppingPlanNumber = none ∧
        write = .success := by
  have hany : (s.getPlanList l).any (hasNumber plan.usDroppingPlanNumber) = true ↔
      (M l plan.usDroppingPlanNumber).isSome := by
    rw [← isValidPlanNumber_eq hr]; rfl
  unfold addPlan
  dsimp only
  by_cases hv : validatePlan plan
  · by_cases hfull : (s.getPlanList l).length ≥ s.maxPlansPerList
    · simp [hv, hfull, not_lt.2 hfull]
    · by_cases hdup : (s.getPlanList l).any (hasNumber plan.usDroppingPlanNumber) = true
      · simp only [hv, hfull, hdup, if_true, if_false, Bool.not_true]
        simp [Option.isSome_iff_ne_none.1 (hany.1 hdup)]
      · rw [hany, Option.not_isSome_iff_eq_none] at hdup
        simp only [hv, hfull, Bool.not_true, Bool.false_eq_true, ↓reduceIte, hany, hdup,
          Option.isSome_none, savePlanList_success_iff, Savable]
        have := hw.getPlanList l
        simp [this.2, hv, not_le.1 hfull, Nat.succ_le_of_lt (not_le.1 hfull)]
  · simp [hv]

/-- A failed `addPlan` leaves the store as it was. -/
theorem addPlan_of_failure (plan : MinePlanInfo) (h : (s.addPlan l plan write).1 ≠ .success) :
    (s.addPlan l plan write).2 = s := by
  unfold addPlan at h ⊢
  dsimp only at h ⊢
  split_ifs at h ⊢ with h₁ h₂ h₃
  · rfl
  · rfl
  · rfl
  · rw [savePlanList_snd, if_neg (mt savePlanList_success_iff.2 h)]

/-- A successful `addPlan` inserts the plan into the catalog. -/
theorem addPlan_represents (hw : s.WellFormed) (hr : s.Represents M) (plan : MinePlanInfo)
    (h : (s.addPlan l plan write).1 = .success) :
    (s.addPlan l plan write).2.Represents (setEntry M l plan.usDroppingPlanNumber (some plan)) := by
  obtain ⟨hv, hl, -, hnone, rfl⟩ := (addPlan_success_iff hw hr plan).1 h
  have hdup : (s.getPlanList l).any (hasNumber plan.usDroppingPlanNumber) = false := by
    have := isValidPlanNumber_eq hr l plan.usDroppingPlanNumber
    rw [hnone] at this
    exact this
  have hfull := ((addPlan_success_iff hw hr plan).1 h).2.2.1
  unfold addPlan at h ⊢
  simp only [hv, Bool.not_true, Bool.false_eq_true, ↓reduceIte, not_le.2 hfull, hdup] at h ⊢
  rw [savePlanList_snd, if_pos (savePlanList_success_iff.1 h)]
  exact hr.setCached hl (addPlan_changesAt hr plan hnone)

theorem upsert_changesAt (hd : s.Distinct) (plan : MinePlanInfo) :
    s.ChangesAt l plan.usDroppingPlanNumber (some plan) (upsert plan (s.getPlanList l)) := by
  intro q n
  rw [mem_upsert (hd.getPlanList l)]
  by_cases hn : n = plan.usDroppingPlanNumber
  · subst hn
    simp only [if_pos rfl, Option.some.injEq]
    constructor
    · rintro ⟨rfl | ⟨-, hne⟩, he⟩
      · rfl
      · exact absurd he hne
    · rintro rfl
      exact ⟨.inl rfl, rfl⟩
  · simp only [if_neg hn]
    constructor
    · rintro ⟨rfl | ⟨hq, -⟩, he⟩
      · exact absurd he.symm hn
      · exact ⟨hq, he⟩
    · rintro ⟨hq, rfl⟩
      exact ⟨.inr ⟨hq, hn⟩, rfl⟩

/-- **`updatePlan` succeeds exactly when the plan is valid, the list number in
range, an insertion finds room, and the write succeeds.** -/
theorem updatePlan_success_iff (hw : s.WellFormed) (hd : s.Distinct) (hr : s.Represents M)
    (plan : MinePlanInfo) :
    (s.updatePlan l plan write).1 = .success ↔
      validatePlan plan = true ∧ s.isValidPlanListNumber l = true ∧
        (M l plan.usDroppingPlanNumber = none → (s.getPlanList l).length < s.maxPlansPerList) ∧
        write = .success := by
  unfold updatePlan
  by_cases hv : validatePlan plan
  swap
  · simp [hv]
  have hlen : (upsert plan (s.getPlanList l)).length =
      if (M l plan.usDroppingPlanNumber).isSome then (s.getPlanList l).length
      else (s.getPlanList l).length + 1 := by
    rw [← List.length_map _ MinePlanInfo.usDroppingPlanNumber, map_number_upsert,
      ← isValidPlanNumber, isValidPlanNumber_eq hr]
    split_ifs <;> simp
  have hall : (upsert plan (s.getPlanList l)).all validatePlan = true := by
    rw [List.all_eq_true]
    intro q hq
    rcases (mem_upsert (hd.getPlanList l) plan q).1 hq with rfl | ⟨hq, -⟩
    · exact hv
    · exact List.all_eq_true.1 (hw.getPlanList l).2 q hq
  simp only [hv, Bool.not_true, Bool.false_eq_true, ↓reduceIte, savePlanList_success_iff, Savable, hlen,
    hall, and_true, true_and, and_assoc]
  have := (hw.getPlanList l).1
  cases M l plan.usDroppingPlanNumber <;> simp [this, Nat.lt_iff_add_one_le]

theorem updatePlan_of_failure (plan : MinePlanInfo) (h : (s.updatePlan l plan write).1 ≠ .success) :
    (s.updatePlan l plan write).2 = s := by
  unfold updatePlan at h ⊢
  split_ifs at h ⊢
  · rfl
  · rw [savePlanList_snd, if_neg (mt savePlanList_success_iff.2 h)]

/-- A successful `updatePlan` sets the plan's entry of the catalog. -/
theorem updatePlan_represents (hw : s.WellFormed) (hd : s.Distinct) (hr : s.Represents M)
    (plan : MinePlanInfo) (h : (s.updatePlan l plan write).1 = .success) :
    (s.updatePlan l plan write).2.Represents (setEntry M l plan.usDroppingPlanNumber (some plan)) := by
  obtain ⟨hv, hl, -, -⟩ := (updatePlan_success_iff hw hd hr plan).1 h
  unfold updatePlan at h ⊢
  simp only [hv, Bool.not_true, Bool.false_eq_true, ↓reduceIte] at h ⊢
  rw [savePlanList_snd, if_pos (savePlanList_success_iff.1 h)]
  exact hr.setCached hl (upsert_changesAt hd plan)

theorem eraseP_changesAt (hd : s.Distinct) (n : ℕ) :
    s.ChangesAt l n none ((s.getPlanList l).eraseP (hasNumber n)) := by
  intro q n'
  rw [mem_eraseP_hasNumber (hd.getPlanList l)]
  by_cases hn : n' = n
  · subst hn
    simp
  · simp only [if_neg hn]
    constructor
    · exact fun h => ⟨h.1.1, h.2⟩
    · rintro ⟨hq, rfl⟩
      exact ⟨⟨hq, hn⟩, rfl⟩

/-- **`removePlan` succeeds exactly when the catalog has the entry and the
write succeeds.** -/
theorem removePlan_success_iff (hw : s.WellFormed) (hr : s.Represents M) (n : ℕ) :
    (s.removePlan l n write).1 = .success ↔ (M l n).isSome ∧ write = .success := by
  have hany := isValidPlanNumber_eq hr l n
  unfold isValidPlanNumber at hany
  unfold removePlan
  dsimp only
  by_cases hs : (M l n).isSome
  · rw [hany, hs]
    simp only [Bool.not_true, Bool.false_eq_true, ↓reduceIte, savePlanList_success_iff, Savable, true_and]
    have hl : s.isValidPlanListNumber l = true := by
      by_contra hl
      rw [getPlanList_of_invalid (by simpa using hl)] at hany
      simp [hs] at hany
    have hsub : ((s.getPlanList l).eraseP (hasNumber n)).Sublist (s.getPlanList l) :=
      List.eraseP_sublist _
    have := hw.getPlanList l
    simp only [hl, true_and, and_iff_right_iff_imp]
    exact fun _ => ⟨hsub.length_le.trans this.1,
      List.all_eq_true.2 fun q hq => List.all_eq_true.1 this.2 q (hsub.subset hq)⟩
  · rw [hany]
    simp [hs]

theorem removePlan_of_failure (n : ℕ) (h : (s.removePlan l n write).1 ≠ .success) :
    (s.removePlan l n write).2 = s := by
  unfold removePlan at h ⊢
  dsimp only at h ⊢
  split_ifs at h ⊢
  · rfl
  · rw [savePlanList_snd, if_neg (mt savePlanList_success_iff.2 h)]

/-- A successful `removePlan` erases the entry from the catalog. -/
theorem removePlan_represents (hw : s.WellFormed) (hd : s.Distinct) (hr : s.Represents M) (n : ℕ)
    (h : (s.removePlan l n write).1 = .success) :
    (s.removePlan l n write).2.Represents (setEntry M l n none) := by
  have hs := ((removePlan_success_iff hw hr n).1 h).1
  have hany := isValidPlanNumber_eq hr l n
  unfold isValidPlanNumber at hany
  rw [hs] at hany
  have hl : s.isValidPlanListNumber l = true := by
    by_contra hl
    rw [getPlanList_of_invalid (by simpa using hl)] at hany
    simp at hany
  unfold removePlan at h ⊢
  simp only [hany, Bool.not_true, Bool.false_eq_true, ↓reduceIte] at h ⊢
  rw [savePlanList_snd, if_pos (savePlanList_success_iff.1 h)]
  exact hr.setCached hl (eraseP_changesAt hd n)

/-! ## The refinement -/

/-- What the store does, read on the catalog `M` it represents: `getPlan` and
`isValidPlanNumber` are lookup and membership; `addPlan`, `updatePlan` and
`removePlan` succeed exactly under their conditions, then set one entry, and
leave the store as it was when they fail. -/
def RefinesCatalog (s : MineDropPlanService) (M : ℕ → ℕ → Option MinePlanInfo) : Prop :=
  ∀ (l n : ℕ) (plan p : MinePlanInfo) (write : Result),
    (s.getPlan l n = .ok p ↔ M l n = some p) ∧
    s.isValidPlanNumber l n = (M l n).isSome ∧
    ((s.addPlan l plan write).1 = .success ↔
      validatePlan plan = true ∧ s.isValidPlanListNumber l = true ∧
        (s.getPlanList l).length < s.maxPlansPerList ∧ M l plan.usDroppingPlanNumber = none ∧
        write = .success) ∧
    ((s.addPlan l plan write).1 = .success →
      (s.addPlan l plan write).2.Represents (setEntry M l plan.usDroppingPlanNumber (some plan))) ∧
    ((s.updatePlan l plan write).1 = .success ↔
      validatePlan plan = true ∧ s.isValidPlanListNumber l = true ∧
        (M l plan.usDroppingPlanNumber = none → (s.getPlanList l).length < s.maxPlansPerList) ∧
        write = .success) ∧
    ((s.updatePlan l plan write).1 = .success →
      (s.updatePlan l plan write).2.Represents (setEntry M l plan.usDroppingPlanNumber (some plan))) ∧
    ((s.removePlan l n write).1 = .success ↔ (M l n).isSome ∧ write = .success) ∧
    ((s.removePlan l n write).1 = .success → (s.removePlan l n write).2.Represents (setEntry M l n none)) ∧
    ((s.addPlan l plan write).1 ≠ .success → (s.addPlan l plan write).2 = s) ∧
    ((s.updatePlan l plan write).1 ≠ .success → (s.updatePlan l plan write).2 = s) ∧
    ((s.removePlan l n write).1 ≠ .success → (s.removePlan l n write).2 = s)

/-- **On every reachable store with distinct plan numbers, the cache refines
the catalog it represents.** -/
theorem planCache_refines_catalog (hreach : s.Reachable) (hd : s.Distinct) (hr : s.Represents M) :
    s.RefinesCatalog M := by
  have hw := hreach.wellFormed
  intro l n plan p write
  exact ⟨getPlan_eq_ok_iff hd hr l n p, isValidPlanNumber_eq hr l n, addPlan_success_iff hw hr plan,
    addPlan_represents hw hr plan, updatePlan_success_iff hw hd hr plan,
    updatePlan_represents hw hd hr plan, removePlan_success_iff hw hr n,
    removePlan_represents hw hd hr n, addPlan_of_failure plan, updatePlan_of_failure plan,
    removePlan_of_failure n⟩

/-- Two lists of up to three plans, list 1 holding plans 1 and 2. -/
def twoPlanStore : MineDropPlanService :=
  (create 2 3).run [.addPlan 1 firstPlan .success, .addPlan 1 secondPlan .success]

/-- The catalog of that store finds plan 2 and lets plan 1 be removed. -/
theorem planCache_refines_catalog_twoPlans :
    twoPlanStore.Reachable ∧ twoPlanStore.Distinct ∧ twoPlanStore.Represents (catalog twoPlanStore) ∧
      twoPlanStore.RefinesCatalog (catalog twoPlanStore) ∧
      twoPlanStore.getPlan 1 2 = .ok secondPlan ∧ (twoPlanStore.removePlan 1 1 .success).1 = .success :=
  have hreach : twoPlanStore.Reachable := ⟨2, 3, _, rfl⟩
  have hd : twoPlanStore.Distinct := (create_distinct 2 3).run _ (by decide)
  have hR := planCache_refines_catalog hreach hd (represents_catalog hd)
  ⟨hreach, hd, represents_catalog hd, hR, (hR 1 2 firstPlan secondPlan .success).1.2 rfl,
    (hR 1 1 firstPlan firstPlan .success).2.2.2.2.2.2.1.2 ⟨rfl, rfl⟩⟩

end MineDropPlanService

end WeaponControl
