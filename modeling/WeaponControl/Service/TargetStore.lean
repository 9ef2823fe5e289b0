import Mathlib.Logic.Function.Basic
import WeaponControl.Service.TargetTracking

/-!
# What the target store holds: `m_targets` (`unnamed/part_003`, lines 15-74)

`m_targets` is a `std::map` from system target id to the latest track of that
target and the time it arrived.  Read as a map, the calls do three things to
it (`TrackOp.applyTracks`): `updateTargetInfo` replaces the track of its id
(`m_targets[id] = data`, line 20), `clearOldTargets(maxAge)` erases every track
older than `maxAge` (lines 60-73), and the three reads leave it as it is.

The model keeps the entries as a list in key order; insertion keeps the keys
strictly increasing (`keysSorted_insertTarget`) and reads them as the map does
(`lookup_insertTarget_self`, `lookup_insertTarget_of_ne`), and erasure keeps both (`lookup_filter_of_sorted`).
So along every sequence of calls from program start that returns (every one
but an `updateTargetInfo` due to sweep, which never does), the store holds,
for each id, exactly the track `applyTracks` says, and the reads report it:
`getTarget` the id's track, `getAllTargetIds` the ids holding one, each once
and in increasing order, and `getTargetCount` their number
(`reads_of_run`).
-/

namespace WeaponControl

namespace TargetTrackingService

/-- The keys of `m_targets` strictly increase, as a `std::map` keeps them. -/
def KeysSorted (targets : List (ℕ × TargetData)) : Prop := targets.Pairwise fun a b => a.1 < b.1

/-- The track the store holds for each id. -/
def tracks (s : TargetTrackingService) (id : ℕ) : Option TargetData := s.targets.lookup id

theorem lookup_cons_of_ne {k k' : ℕ} (h : k ≠ k') (x : TargetData) (l : List (ℕ × TargetData)) :
    ((k', x) :: l).lookup k = l.lookup k := by
  rw [List.lookup_cons, beq_false_of_ne h]

@[simp] theorem lookup_insertTarget_self (id : ℕ) (d : TargetData) :
    ∀ l : List (ℕ × TargetData), (insertTarget id d l).lookup id = some d
  | [] => by simp [insertTarget]
  | (k', e) :: rest => by
    unfold insertTarget
    split_ifs with h₁ h₂
    · simp
    · simp
    · rw [lookup_cons_of_ne h₂]
      exact lookup_insertTarget_self id d rest

theorem lookup_insertTarget_of_ne {k id : ℕ} (h : k ≠ id) (d : TargetData) :
    ∀ l : List (ℕ × TargetData), (insertTarget id d l).lookup k = l.lookup k
  | [] => by simp [insertTarget, lookup_cons_of_ne h]
  | (k', e) :: rest => by
    unfold insertTarget
    split_ifs with h₁ h₂
    · rw [lookup_cons_of_ne h]
    · subst h₂
      rw [lookup_cons_of_ne h, lookup_cons_of_ne h]
    · by_cases hk : k = k'
      · subst hk
        simp
      · rw [lookup_cons_of_ne hk, lookup_cons_of_ne hk, lookup_insertTarget_of_ne h d rest]

/-- Every key after insertion is the new one or an old one. -/
theorem lt_of_mem_insertTarget {id b : ℕ} {d : TargetData} (hb : b < id) :
    ∀ {l : List (ℕ × TargetData)}, (∀ e ∈ l, b < e.1) → ∀ e ∈ insertTarget id d l, b < e.1
  | [], _, e, he => by simp_all [insertTarget]
  | (k, x) :: rest, hl, e, he => by
    unfold insertTarget at he
    split_ifs at he
    · exact List.mem_cons.1 he |>.elim (fun h => h ▸ hb) (hl e)
    · rcases List.mem_cons.1 he with rfl | he
      · exact hb
      · exact hl e (List.mem_cons_of_mem _ he)
    · rcases List.mem_cons.1 he with rfl | he
      · exact hl _ (List.mem_cons_self _ _)
      · exact lt_of_mem_insertTarget hb (fun e' he' => hl e' (List.mem_cons_of_mem _ he')) e he

theorem keysSorted_insertTarget (id : ℕ) (d : TargetData) :
    ∀ {l : List (ℕ × TargetData)}, KeysSorted l → KeysSorted (insertTarget id d l)
  | [], _ => List.pairwise_singleton _ _
  | (k, x) :: rest, hl => by
    obtain ⟨hk, hrest⟩ := List.pairwise_cons.1 hl
    unfold insertTarget
    split_ifs with h₁ h₂
    · exact List.pairwise_cons.2 ⟨fun e he => (List.mem_cons.1 he).elim (fun h => h ▸ h₁)
        fun he => h₁.trans (hk e he), hl⟩
    · subst h₂
      exact List.pairwise_cons.2 ⟨hk, hrest⟩
    · exact List.pairwise_cons.2
        ⟨lt_of_mem_insertTarget (by omega) hk, keysSorted_insertTarget id d hrest⟩

/-- In a list whose keys all exceed `k`, `k` has no entry. -/
theorem lookup_of_lt {k : ℕ} : ∀ {l : List (ℕ × TargetData)}, (∀ e ∈ l, k < e.1) → l.lookup k = none
  | [], _ => rfl
  | (k', x) :: rest, hl => by
    rw [lookup_cons_of_ne (Nat.ne_of_lt (hl _ (List.mem_cons_self _ _)))]
    exact lookup_of_lt fun e he => hl e (List.mem_cons_of_mem _ he)

/-- Erasing the entries whose track fails `q`, read as a map, when each key
has one entry. -/
theorem lookup_filter_of_sorted (q : TargetData → Bool) (k : ℕ) :
    ∀ {l : List (ℕ × TargetData)}, KeysSorted l → (l.filter fun e => q e.2).lookup k = (l.lookup k).filter q
  | [], _ => rfl
  | (k', x) :: rest, hl => by
    obtain ⟨hk, hrest⟩ := List.pairwise_cons.1 hl
    by_cases he : k = k'
    · subst he
      have hnone : (rest.filter fun e => q e.2).lookup k = none :=
        lookup_of_lt fun e he' => hk e (List.mem_filter.1 he').1
      cases hq : q x <;> simp [List.filter_cons, hq, hnone, Option.filter_some]
    · by_cases hq : q x <;>
        simp [List.filter_cons, hq, lookup_cons_of_ne he, lookup_filter_of_sorted q k hrest]

end TargetTrackingService

/-- What a call does to the tracks, read as a map from id to track. -/
def TrackOp.applyTracks (f : ℕ → Option TargetData) : TrackOp → ℕ → Option TargetData
  | .updateTargetInfo info now => Function.update f info.unTargetSystemID (some ⟨info, now⟩)
  | .clearOldTargets maxAge now => fun id => (f id).filter fun d => !(now - d.lastUpdateTime > maxAge)
  | _ => f

namespace TargetTrackingService

/-- A free service with its keys in order. -/
structure Settled (s : TargetTrackingService) : Prop where
  free : s.Free
  sorted : KeysSorted s.targets

/-- The three reads of a free service hand it back as it was. -/
theorem unlockShared_of_free {s : TargetTrackingService} (h : s.Free) :
    unlockShared { s with readers := 1 } = s := by
  obtain ⟨targets, exclusive, readers, lastCleanup⟩ := s
  obtain ⟨-, h₂⟩ := h
  simp_all [unlockShared]

@[simp] theorem getTarget_of_free {s : TargetTrackingService} (h : s.Free) (id : ℕ) :
    s.getTarget id = some ((s.targets.lookup id).map TargetData.info, s) := by
  simp [getTarget, lockShared_of_free h, unlockShared_of_free h]

@[simp] theorem getAllTargetIds_of_free {s : TargetTrackingService} (h : s.Free) :
    s.getAllTargetIds = some (s.targets.map Prod.fst, s) := by
  simp [getAllTargetIds, lockShared_of_free h, unlockShared_of_free h]

@[simp] theorem getTargetCount_of_free {s : TargetTrackingService} (h : s.Free) :
    s.getTargetCount = some (s.targets.length, s) := by
  simp [getTargetCount, lockShared_of_free h, unlockShared_of_free h]

/-- **One call, read as a map**: from a settled service, a call that returns
leaves it settled, holding the tracks `applyTracks` says. -/
theorem Settled.apply {s s' : TargetTrackingService} (h : s.Settled) {op : TrackOp}
    (hs : s.apply op = some s') : s'.Settled ∧ s'.tracks = op.applyTracks s.tracks := by
  cases op with
  | updateTargetInfo info now =>
    simp only [TargetTrackingService.apply, updateTargetInfo_of_free h.free] at hs
    split_ifs at hs
    cases hs
    refine ⟨⟨h.free, keysSorted_insertTarget _ _ h.sorted⟩, funext fun k => ?_⟩
    by_cases hk : k = info.unTargetSystemID
    · subst hk
      simp [tracks, TrackOp.applyTracks]
    · simp [tracks, TrackOp.applyTracks, lookup_insertTarget_of_ne hk, Function.update_noteq hk]
  | getTarget id => simp [TargetTrackingService.apply, h.free] at hs; exact hs ▸ ⟨h, rfl⟩
  | getAllTargetIds => simp [TargetTrackingService.apply, h.free] at hs; exact hs ▸ ⟨h, rfl⟩
  | getTargetCount => simp [TargetTrackingService.apply, h.free] at hs; exact hs ▸ ⟨h, rfl⟩
  | clearOldTargets maxAge now =>
    simp only [TargetTrackingService.apply, clearOldTargets_of_free h.free, Option.some.injEq] at hs
    subst hs
    exact ⟨⟨h.free, h.sorted.filter _⟩,
      funext fun k => lookup_filter_of_sorted (fun d => !(now - d.lastUpdateTime > maxAge)) k h.sorted⟩

theorem Settled.run {s : TargetTrackingService} (h : s.Settled) :
    ∀ {ops : List TrackOp} {s'}, s.run ops = some s' → s'.Settled ∧ s'.tracks = ops.foldl TrackOp.applyTracks s.tracks
  | [], s', hs => by cases hs; exact ⟨h, rfl⟩
  | op :: ops, s', hs => by
    obtain ⟨s₁, h₁, hs⟩ := Option.bind_eq_some.1 hs
    obtain ⟨hset, htr⟩ := h.apply h₁
    rw [List.foldl_cons, ← htr]
    exact hset.run hs

/-- What the three reads of `s` report, for the tracks `T`: `getTarget(id)`
the track of `id`, `getAllTargetIds()` the ids holding one, each once and in
increasing order, and `getTargetCount()` their number; each read hands the
service back as it found it. -/
def ReportsTracks (s : TargetTrackingService) (T : ℕ → Option TargetData) : Prop :=
  (∀ id, s.getTarget id = some ((T id).map TargetData.info, s)) ∧
    ∃ ids, s.getAllTargetIds = some (ids, s) ∧ s.getTargetCount = some (ids.length, s) ∧
      ids.Pairwise (· < ·) ∧ ∀ id, id ∈ ids ↔ (T id).isSome

/-- **The store is a map from id to the latest track**: along every sequence
of calls from program start that returns, the reads report the tracks
`applyTracks` leaves. -/
theorem reads_of_run {ops : List TrackOp} {s : TargetTrackingService} (h : create.run ops = some s) :
    s.ReportsTracks (ops.foldl TrackOp.applyTracks fun _ => none) := by
  obtain ⟨hset, htr⟩ := (show create.Settled from ⟨⟨rfl, rfl⟩, List.Pairwise.nil⟩).run h
  have htr' : ops.foldl TrackOp.applyTracks (fun _ => none) = s.tracks := by rw [htr]; rfl
  refine ⟨fun id => by simp [hset.free, htr', tracks], s.targets.map Prod.fst, by simp [hset.free],
    by simp [hset.free], List.pairwise_map.2 hset.sorted, fun id => by simp [htr', tracks, List.lookup_isSome_iff]⟩

/-- Target 7 tracked at 0 s and target 3 at 10 s; at 12 s the tracks older
than 5 s are cleared, and only target 3 is left. -/
theorem reads_of_run_expiring :
    create.run [.updateTargetInfo ⟨7, {}⟩ 0, .updateTargetInfo ⟨3, {}⟩ 10, .clearOldTargets 5 12] =
        some { targets := [(3, ⟨⟨3, {}⟩, 10⟩)], exclusive := false, readers := 0, lastCleanup := some 0 } ∧
      ReportsTracks { targets := [(3, ⟨⟨3, {}⟩, 10⟩)], exclusive := false, readers := 0, lastCleanup := some 0 }
        ([.updateTargetInfo ⟨7, {}⟩ 0, .updateTargetInfo ⟨3, {}⟩ 10, .clearOldTargets 5 12].foldl
          TrackOp.applyTracks fun _ => none) := by
  have h0 := updateTargetInfo_of_free (s := create) ⟨rfl, rfl⟩ ⟨7, {}⟩ 0
  have h1 := updateTargetInfo_of_free
    (s := { targets := [(7, ⟨⟨7, {}⟩, 0⟩)], exclusive := false, readers := 0, lastCleanup := some 0 })
    ⟨rfl, rfl⟩ ⟨3, {}⟩ 10
  have h2 := clearOldTargets_of_free
    (s := { targets := [(3, ⟨⟨3, {}⟩, 10⟩), (7, ⟨⟨7, {}⟩, 0⟩)], exclusive := false, readers := 0,
            lastCleanup := some 0 }) ⟨rfl, rfl⟩ 5 12
  norm_num [TrackOp.Sweeps, insertTarget, create] at h0 h1 h2
  have hrun : create.run [.updateTargetInfo ⟨7, {}⟩ 0, .updateTargetInfo ⟨3, {}⟩ 10, .clearOldTargets 5 12] =
      some { targets := [(3, ⟨⟨3, {}⟩, 10⟩)], exclusive := false, readers := 0, lastCleanup := some 0 } := by
    simp [run, TargetTrackingService.apply, create, h0, h1, h2]
  exact ⟨hrun, reads_of_run hrun⟩

end TargetTrackingService

end WeaponControl
