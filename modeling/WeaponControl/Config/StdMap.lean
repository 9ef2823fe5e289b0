import Mathlib.Data.List.Sigma
import Mathlib.Data.List.Sort
import Mathlib.Data.List.Lex
import Mathlib.Data.Char

/-!
# `std::map<std::string, V>`

The configuration (`SystemConfig::m_config`, `SystemConfig.h` line 20) and the
sections `saveToFile` groups it into (line 206) are `std::map`s keyed by
strings.  A string is its list of characters, ordered as `std::string`
compares them: character by character, a prefix first.  A map is its entries
in increasing key order, each key once (`StrMap`), so that iterating it is
reading the list, and `m[k] = v` is one pass that inserts or replaces
(`StrMap.set`).

What the configuration code needs of a map: `set` changes the lookup of its
key and nothing else (`StrMap.dlookup_set`), and two maps with the same
lookups are equal (`StrMap.ext_dlookup`).  A loop that writes one entry per
element of a list ends with the written value at every key all of whose writes
agree, and with the old value at every key it never writes
(`foldl_writes_agree`, `foldl_get_of_not_mem`); so writing the entries of a
list that holds exactly the entries of `m` over a map gives the values of `m`
at its keys and leaves the other keys (`StrMap.dlookup_setAll_of_mem_iff`).
-/

namespace WeaponControl

/-- `std::map<std::string, V>`: the entries in increasing key order. -/
structure StrMap (V : Type) where
  entries : List ((_ : List Char) × V)
  sorted : entries.Pairwise fun a b => a.1 < b.1

namespace StrMap

variable {V : Type}

/-- An empty map. -/
def empty : StrMap V := ⟨[], .nil⟩

/-- `m[k] = v` on the entries: one pass, inserting or replacing. -/
def setEntry (k : List Char) (v : V) : List ((_ : List Char) × V) → List ((_ : List Char) × V)
  | [] => [⟨k, v⟩]
  | e :: es => if k < e.1 then ⟨k, v⟩ :: e :: es else if k = e.1 then ⟨k, v⟩ :: es else e :: setEntry k v es

theorem mem_setEntry {k : List Char} {v : V} {a : (_ : List Char) × V} :
    ∀ {es : List ((_ : List Char) × V)}, a ∈ setEntry k v es → a = ⟨k, v⟩ ∨ a ∈ es
  | [], h => by simpa [setEntry] using h
  | e :: es, h => by
    rw [setEntry] at h
    split_ifs at h
    · simpa using h
    · simp only [List.mem_cons] at h ⊢; tauto
    · simp only [List.mem_cons] at h ⊢
      rcases h with h | h
      · exact .inr (.inl h)
      · rcases mem_setEntry h with h | h <;> simp [h]

theorem setEntry_sorted (k : List Char) (v : V) :
    ∀ {es : List ((_ : List Char) × V)}, es.Pairwise (fun a b => a.1 < b.1) →
      (setEntry k v es).Pairwise fun a b => a.1 < b.1
  | [], _ => by simp [setEntry]
  | e :: es, h => by
    rw [setEntry]
    split_ifs with h1 h2
    · exact h.cons fun a ha => (List.mem_cons.1 ha).elim (fun he => he ▸ h1)
        fun hm => h1.trans (List.rel_of_pairwise_cons h hm)
    · subst h2
      exact h.of_cons.cons fun a ha => List.rel_of_pairwise_cons h ha
    · exact (setEntry_sorted k v h.of_cons).cons fun a ha => (mem_setEntry ha).elim
        (fun he => he ▸ lt_of_le_of_ne (not_lt.1 h1) (Ne.symm h2))
        fun hm => List.rel_of_pairwise_cons h hm

/-- `m[k] = v`. -/
def set (m : StrMap V) (k : List Char) (v : V) : StrMap V :=
  ⟨setEntry k v m.entries, setEntry_sorted k v m.sorted⟩

/-- `m.find(k)`: the value at `k`, if any. -/
def dlookup (m : StrMap V) (k : List Char) : Option V := m.entries.dlookup k

@[simp] theorem dlookup_empty (k : List Char) : (empty : StrMap V).dlookup k = none := rfl

theorem dlookup_cons (k' : List Char) (e : (_ : List Char) × V) (es : List ((_ : List Char) × V)) :
    (e :: es).dlookup k' = if k' = e.1 then some e.2 else es.dlookup k' := by
  obtain ⟨k, v⟩ := e
  by_cases h : k' = k
  · subst h; simp
  · simp [h]

theorem dlookup_setEntry (k : List Char) (v : V) (k' : List Char) :
    ∀ es : List ((_ : List Char) × V),
      (setEntry k v es).dlookup k' = if k' = k then some v else es.dlookup k'
  | [] => by simp [setEntry, dlookup_cons]
  | e :: es => by
    rw [setEntry]
    by_cases h1 : k < e.1
    · rw [if_pos h1]; simp only [dlookup_cons]
    rw [if_neg h1]
    by_cases h2 : k = e.1
    · -- the entry of `k` is replaced
      rw [if_pos h2]; subst h2; simp only [dlookup_cons]; split_ifs <;> rfl
    · rw [if_neg h2]; simp only [dlookup_cons, dlookup_setEntry k v k' es]
      split_ifs <;> first | rfl | (subst_vars; contradiction)

/-- **`m[k] = v` changes the lookup of `k` and nothing else.** -/
theorem dlookup_set (m : StrMap V) (k : List Char) (v : V) (k' : List Char) :
    (m.set k v).dlookup k' = if k' = k then some v else m.dlookup k' :=
  dlookup_setEntry k v k' m.entries

theorem nodupKeys (m : StrMap V) : m.entries.NodupKeys :=
  List.nodupKeys_iff_pairwise.2 (m.sorted.imp ne_of_lt)

/-- An entry is a key with its lookup. -/
theorem mem_entries_iff (m : StrMap V) {k : List Char} {v : V} :
    ⟨k, v⟩ ∈ m.entries ↔ m.dlookup k = some v :=
  (List.mem_dlookup_iff m.nodupKeys).symm

/-- **Two maps with the same lookups are equal.** -/
theorem ext_dlookup {m m' : StrMap V} (h : ∀ k, m.dlookup k = m'.dlookup k) : m = m' := by
  have : IsAntisymm ((_ : List Char) × V) (fun a b => a.1 < b.1) :=
    ⟨fun _ _ hab hba => absurd (hab.trans hba) (lt_irrefl _)⟩
  have he : m.entries = m'.entries :=
    List.eq_of_perm_of_sorted (List.lookup_ext m.nodupKeys m'.nodupKeys fun k v => by
      have hk := h k
      simp only [dlookup] at hk
      rw [hk]) m.sorted m'.sorted
  cases m; cases m'; cases he; rfl

end StrMap

section Writes

variable {M E K W : Type} (get : M → K → Option W) (step : M → E → M) (key : E → K)

/-- A loop whose steps each change one key at most leaves every other key as
it was. -/
theorem foldl_get_of_not_mem (hstep : ∀ m e k, k ≠ key e → get (step m e) k = get m k) (k : K) :
    ∀ (L : List E) (m : M), k ∉ L.map key → get (L.foldl step m) k = get m k
  | [], _, _ => rfl
  | e :: L, m, hk => by
    simp only [List.map_cons, List.mem_cons, not_or] at hk
    rw [List.foldl_cons, foldl_get_of_not_mem hstep k L _ hk.2, hstep m e k hk.1]

variable [DecidableEq K] (val : E → W)

/-- **A loop of writes**: if each step writes `val e` at `key e` and nothing
else, then at a key all of whose writes agree the loop leaves the written
value, and at a key it never writes the old one. -/
theorem foldl_writes_agree (hstep : ∀ m e k, get (step m e) k = if k = key e then some (val e) else get m k)
    (k : K) (w : W) : ∀ (L : List E) (m : M), (∀ e ∈ L, key e = k → val e = w) →
      get (L.foldl step m) k = if k ∈ L.map key then some w else get m k
  | [], m, _ => by simp
  | e :: L, m, hw => by
    rw [List.foldl_cons, foldl_writes_agree hstep k w L _ fun e' he' => hw e' (List.mem_cons_of_mem _ he'),
      hstep]
    by_cases hL : k ∈ L.map key
    · simp [hL]
    · by_cases he : k = key e
      · simp [hL, he, hw e (List.mem_cons_self _ _) he.symm]
      · simp [hL, he, Ne.symm he]

end Writes

namespace StrMap

variable {V : Type}

/-- `m[k] = v` for each entry `⟨k, v⟩` in turn. -/
def setAll (m : StrMap V) (es : List ((_ : List Char) × V)) : StrMap V :=
  es.foldl (fun c e => c.set e.1 e.2) m

theorem setAll_append (m : StrMap V) (es es' : List ((_ : List Char) × V)) :
    m.setAll (es ++ es') = (m.setAll es).setAll es' :=
  List.foldl_append _ _ _ _

/-- **Writing the entries of a list with the entries of `m` over a map `c`**:
the keys of `m` take their values in `m`, and every other key keeps its value
in `c`, in whatever order and however often each entry is written. -/
theorem dlookup_setAll_of_mem_iff (m : StrMap V) (es : List ((_ : List Char) × V))
    (h : ∀ e, e ∈ es ↔ e ∈ m.entries) (c : StrMap V) (k : List Char) :
    (c.setAll es).dlookup k = (m.dlookup k).or (c.dlookup k) := by
  cases hk : m.dlookup k with
  | none =>
    refine foldl_get_of_not_mem dlookup _ Sigma.fst (fun c e k hk => by rw [dlookup_set, if_neg hk]) k es
      c fun hm => ?_
    obtain ⟨e, he, rfl⟩ := List.mem_map.1 hm
    rw [(m.mem_entries_iff).1 ((h e).1 he)] at hk
    cases hk
  | some w =>
    have hw : ⟨k, w⟩ ∈ es := (h _).2 ((m.mem_entries_iff).2 hk)
    rw [setAll, foldl_writes_agree dlookup _ Sigma.fst Sigma.snd (fun c e k => dlookup_set c e.1 e.2 k) k w es
      c (fun e he hek => ?_), if_pos (List.mem_map.2 ⟨_, hw, rfl⟩)]
    · rfl
    subst hek
    exact Option.some.inj (((m.mem_entries_iff).1 ((h e).1 he)).symm.trans hk)

/-- From an empty map, writing the entries of a list with the entries of `m`
gives `m`. -/
theorem empty_setAll_of_mem_iff (m : StrMap V) (es : List ((_ : List Char) × V))
    (h : ∀ e, e ∈ es ↔ e ∈ m.entries) : empty.setAll es = m :=
  ext_dlookup fun k => by rw [dlookup_setAll_of_mem_iff m es h, dlookup_empty, Option.or_none]

end StrMap

end WeaponControl
