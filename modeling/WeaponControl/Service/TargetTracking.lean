import Mathlib.Tactic.NormNum
import WeaponControl.Types

/-!
# Target tracks: `TargetTrackingService` (`unnamed/part_003`, lines 15-74)

The service keeps the latest track of each system target in `m_targets`, a
`std::map` from target id to the track and the time it arrived, under
`m_targetsMutex`, a `std::shared_mutex`: `updateTargetInfo` and
`clearOldTargets` lock it exclusively, `getTarget`, `getAllTargetIds` and
`getTargetCount` shared.

`updateTargetInfo` sweeps old tracks lazily.  A function-static
`lastCleanup`, initialized by the first call, records the last sweep; a call
more than a minute after it calls `clearOldTargets(5 min)` (line 27), *inside*
its own `lock_guard`, and `clearOldTargets` takes the same `lock_guard` again
(line 61).  A `std::shared_mutex` is not recursive: locking it in the thread
that owns it is undefined, and in practice the thread either blocks forever or
gets the `resource_deadlock_would_occur` exception that libstdc++ throws when
the platform detects it.  Either way the call does not return.

* One thread makes the calls, one after another, each at a time `now`
  (seconds on `steady_clock`), which every `steady_clock::now()` inside the
  call reads.
* A call is a computation in `Option`: `none` is a lock the calling thread
  cannot take.  With no other thread, nothing ever releases it.
* `m_targets` is the list of its entries in key order, as a `std::map`
  iterates them.  The log lines are left out.

From a free mutex an `updateTargetInfo` that is due to sweep
(`TrackOp.Sweeps`) calls `clearOldTargets` under its own exclusive lock and
never returns (`updateTargetInfo_of_free`); the second track of a run, a
minute after the first, is such a call (`sweeping_update_never_returns`).
-/

namespace WeaponControl

/-- `TargetData`: the track and the time it arrived. -/
structure TargetData where
  info : TargetTrack
  lastUpdateTime : ℚ
  deriving DecidableEq, Repr

/-- The `TargetTrackingService` object, with the function-static
`lastCleanup` of `updateTargetInfo`, which all calls share. -/
structure TargetTrackingService where
  /-- `m_targets`, in key order. -/
  targets : List (ℕ × TargetData)
  /-- `m_targetsMutex` is held exclusively. -/
  exclusive : Bool
  /-- The number of shared holders of `m_targetsMutex`. -/
  readers : ℕ
  /-- `lastCleanup`; `none` until the first `updateTargetInfo` initializes it. -/
  lastCleanup : Option ℚ
  deriving DecidableEq, Repr

namespace TargetTrackingService

/-- The service at program start: no tracks, the mutex free. -/
def create : TargetTrackingService :=
  { targets := [], exclusive := false, readers := 0, lastCleanup := none }

/-- A `lock_guard`: the lock, when nobody holds the mutex. -/
def lock (s : TargetTrackingService) : Option TargetTrackingService :=
  if s.exclusive || 0 < s.readers then none else some { s with exclusive := true }

/-- The `lock_guard` destructor. -/
def unlock (s : TargetTrackingService) : TargetTrackingService := { s with exclusive := false }

/-- A `shared_lock`, when nobody holds the mutex exclusively. -/
def lockShared (s : TargetTrackingService) : Option TargetTrackingService :=
  if s.exclusive then none else some { s with readers := s.readers + 1 }

/-- The `shared_lock` destructor. -/
def unlockShared (s : TargetTrackingService) : TargetTrackingService := { s with readers := s.readers - 1 }

/-- `m_targets[id] = data`: the entry replaced, or inserted in key order. -/
def insertTarget (id : ℕ) (d : TargetData) : List (ℕ × TargetData) → List (ℕ × TargetData)
  | [] => [(id, d)]
  | (k, e) :: rest =>
    if id < k then (id, d) :: (k, e) :: rest
    else if id = k then (id, d) :: rest
    else (k, e) :: insertTarget id d rest

/-- `clearOldTargets(maxAge)` at time `now`: every entry older than `maxAge`
erased. -/
def clearOldTargets (s : TargetTrackingService) (maxAge now : ℚ) : Option TargetTrackingService := do
  let s ← s.lock
  pure { s with targets := s.targets.filter fun e => !(now - e.2.lastUpdateTime > maxAge) }.unlock

/-- `updateTargetInfo(targetInfo)` at time `now`: store the track, initialize
`lastCleanup` on the first call, and sweep tracks older than five minutes when
the last sweep is more than a minute old. -/
def updateTargetInfo (s : TargetTrackingService) (info : TargetTrack) (now : ℚ) :
    Option TargetTrackingService := do
  let s ← s.lock
  let s := { s with targets := insertTarget info.unTargetSystemID ⟨info, now⟩ s.targets }
  let lastCleanup := s.lastCleanup.getD now
  if now - lastCleanup > 60 then
    let s ← { s with lastCleanup := some lastCleanup }.clearOldTargets 300 now
    pure { s with lastCleanup := some now }.unlock
  else pure { s with lastCleanup := some lastCleanup }.unlock

/-- `getTarget(systemTargetId)`. -/
def getTarget (s : TargetTrackingService) (id : ℕ) : Option (Option TargetTrack × TargetTrackingService) := do
  let s ← s.lockShared
  pure ((s.targets.lookup id).map TargetData.info, s.unlockShared)

/-- `getAllTargetIds()`: the ids in key order. -/
def getAllTargetIds (s : TargetTrackingService) : Option (List ℕ × TargetTrackingService) := do
  let s ← s.lockShared
  pure (s.targets.map Prod.fst, s.unlockShared)

/-- `getTargetCount()`. -/
def getTargetCount (s : TargetTrackingService) : Option (ℕ × TargetTrackingService) := do
  let s ← s.lockShared
  pure (s.targets.length, s.unlockShared)

end TargetTrackingService

/-- The calls on the service, with the times the ones that read the clock
are made at. -/
inductive TrackOp where
  | updateTargetInfo (info : TargetTrack) (now : ℚ)
  | getTarget (id : ℕ)
  | getAllTargetIds
  | getTargetCount
  | clearOldTargets (maxAge now : ℚ)

/-- The call is an `updateTargetInfo` due to sweep: the test of line 26, with
`lastCleanup` as the call finds it or, on the first call, initialized to
`now`. -/
def TrackOp.Sweeps (s : TargetTrackingService) : TrackOp → Prop
  | .updateTargetInfo _ now => now - s.lastCleanup.getD now > 60
  | _ => False

instance (s : TargetTrackingService) : (op : TrackOp) → Decidable (op.Sweeps s)
  | .updateTargetInfo _ now => inferInstanceAs (Decidable (now - s.lastCleanup.getD now > 60))
  | .getTarget _ => inferInstanceAs (Decidable False)
  | .getAllTargetIds => inferInstanceAs (Decidable False)
  | .getTargetCount => inferInstanceAs (Decidable False)
  | .clearOldTargets _ _ => inferInstanceAs (Decidable False)

namespace TargetTrackingService

/-- The service after one call, if the call returns. -/
def apply (s : TargetTrackingService) : TrackOp → Option TargetTrackingService
  | .updateTargetInfo info now => s.updateTargetInfo info now
  | .getTarget id => (s.getTarget id).map Prod.snd
  | .getAllTargetIds => s.getAllTargetIds.map Prod.snd
  | .getTargetCount => s.getTargetCount.map Prod.snd
  | .clearOldTargets maxAge now => s.clearOldTargets maxAge now

/-- The service after a sequence of calls, if every call returns; a call that
does not return ends the thread's run. -/
def run (s : TargetTrackingService) : List TrackOp → Option TargetTrackingService
  | [] => some s
  | op :: ops => (s.apply op).bind (·.run ops)

/-- Nobody holds the mutex. -/
def Free (s : TargetTrackingService) : Prop := s.exclusive = false ∧ s.readers = 0

@[simp] theorem lock_of_free {s : TargetTrackingService} (h : s.Free) :
    s.lock = some { s with exclusive := true } := by
  simp [lock, h.1, h.2]

@[simp] theorem lockShared_of_free {s : TargetTrackingService} (h : s.Free) :
    s.lockShared = some { s with readers := 1 } := by
  simp [lockShared, h.1, h.2]

/-- A lock held exclusively cannot be taken again. -/
@[simp] theorem lock_of_exclusive (s : TargetTrackingService) : { s with exclusive := true }.lock = none := by
  simp [lock]

theorem clearOldTargets_of_free {s : TargetTrackingService} (h : s.Free) (maxAge now : ℚ) :
    s.clearOldTargets maxAge now =
      some { s with targets := s.targets.filter fun e => !(now - e.2.lastUpdateTime > maxAge) } := by
  cases s
  obtain ⟨h1, h2⟩ := h
  simp_all [clearOldTargets, lock, unlock]

/-- **`updateTargetInfo` from a free mutex**: it returns exactly when no sweep
is due, with the track stored and `lastCleanup` initialized. -/
theorem updateTargetInfo_of_free {s : TargetTrackingService} (h : s.Free) (info : TargetTrack) (now : ℚ) :
    s.updateTargetInfo info now =
      if (TrackOp.updateTargetInfo info now).Sweeps s then none
      else some { s with targets := insertTarget info.unTargetSystemID ⟨info, now⟩ s.targets,
                         lastCleanup := some (s.lastCleanup.getD now) } := by
  cases s with
  | mk targets exclusive readers lastCleanup =>
    obtain ⟨h1, h2⟩ := h
    simp only at h1 h2
    subst h1 h2
    by_cases hs : now - lastCleanup.getD now > 60
    · simp [updateTargetInfo, lock, unlock, clearOldTargets, TrackOp.Sweeps, hs]
    · simp [updateTargetInfo, lock, unlock, TrackOp.Sweeps, hs]

/-- Target 7 is tracked at time 0 and again at 61 s: the first call returns,
initializing `lastCleanup` to 0; the second is due to sweep and never
returns. -/
theorem sweeping_update_never_returns :
    create.run [.updateTargetInfo ⟨7, {}⟩ 0] =
        some { targets := [(7, ⟨⟨7, {}⟩, 0⟩)], exclusive := false, readers := 0, lastCleanup := some 0 } ∧
      create.run [.updateTargetInfo ⟨7, {}⟩ 0, .updateTargetInfo ⟨7, {}⟩ 61] = none := by
  have h0 := updateTargetInfo_of_free (s := create) ⟨rfl, rfl⟩ ⟨7, {}⟩ 0
  have h1 := updateTargetInfo_of_free
    (s := { targets := [(7, ⟨⟨7, {}⟩, 0⟩)], exclusive := false, readers := 0, lastCleanup := some 0 })
    ⟨rfl, rfl⟩ ⟨7, {}⟩ 61
  norm_num [TrackOp.Sweeps, insertTarget, create] at h0 h1
  exact ⟨by simp [run, apply, create, h0], by simp [run, apply, create, h0, h1]⟩

end TargetTrackingService

end WeaponControl
