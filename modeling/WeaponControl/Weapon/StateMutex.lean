import WeaponControl.Weapon.Interleavings

/-!
# `m_stateMutex` across every interleaving

`requestStateChange` (line 48) and `reset` (line 136) hold `m_stateMutex` by a
`lock_guard` for their whole body; `update`, `setFireSolutionReady`, a token's
`cancel` and the first steps of `emergencyStop` and `clearAssignment` run
without it.  In the thread model a thread is inside a locked section when its
position leads to the `unlock` of the guard's destructor (`Pc.Locked`).

From a configuration where the mutex is free and no thread is inside a call,
every schedule keeps the mutex held by exactly the thread inside a locked
section (`MutexHeld`, `MutexHeld.run`): no two calls of `requestStateChange` or
`reset` overlap, no call returns still holding the mutex, and the holder can
always take its next step, so no thread waits on a holder that is stuck
(`state_mutex_exclusive_of_run`).
-/

namespace WeaponControl

/-- The thread is between the `lock_guard` of `requestStateChange` or `reset`
and its release: its position leads to `unlock`. -/
def Pc.Locked : Pc → Bool
  | .load _ _ | .assignToken _ _ | .pocPoll _ _ | .stepCheck _ _ | .stepPoll _ _ _ | .setLaunched
  | .resetState | .resetLaunched | .resetFireSolution | .unlock _ => true
  | .cancelCurrent k | .setState _ k | .notifyState _ _ k | .notifyLaunch k | .removeObserver _ k => k.Locked
  | _ => false

@[simp] theorem dispatch_locked (w : Weapon) (ns : WpnCtrlState) (tok : ℕ) :
    (dispatch w ns tok).Locked = true := by
  unfold dispatch; split <;> rfl

/-- No call starts inside a locked section. -/
@[simp] theorem Call.entry_locked (k : Call) : k.entry.Locked = false := by
  cases k <;> rfl

/-- **What one step does to the mutex**: it leaves the mutex and whether the
thread is inside a locked section alone, or it takes the free mutex and enters,
or it releases the mutex and leaves. -/
theorem step_mutex {s s' : Shared} {t : ℕ} {p p' : Pc} (h : step s t p = some (s', p')) :
    (s'.stateMutex = s.stateMutex ∧ p'.Locked = p.Locked) ∨
      (s.stateMutex = none ∧ s'.stateMutex = some t ∧ p.Locked = false ∧ p'.Locked = true) ∨
      (s'.stateMutex = none ∧ p.Locked = true ∧ p'.Locked = false) := by
  cases p <;> simp only [step] at h <;> (try split at h) <;> (try split_ifs at h) <;>
    simp only [Option.some.injEq, Prod.mk.injEq, reduceCtorEq] at h <;> obtain ⟨rfl, rfl⟩ := h <;>
    simp_all [Pc.Locked, launchAborted]

/-- A thread inside a locked section can always take its next step. -/
theorem step_isSome_of_locked (s : Shared) (t : ℕ) {p : Pc} (h : p.Locked = true) : (step s t p).isSome := by
  cases p <;> simp only [step, Pc.Locked] at h ⊢ <;> (try split) <;> (try split_ifs) <;> simp_all

/-- The mutex is held by exactly the thread inside a locked section. -/
def MutexHeld (c : Config) : Prop := ∀ u, (c.pc u).Locked = true ↔ c.mem.stateMutex = some u

namespace MutexHeld

variable {c : Config}

theorem unique (h : MutexHeld c) {u v : ℕ} (hu : (c.pc u).Locked = true) (hv : (c.pc v).Locked = true) :
    u = v :=
  Option.some.inj (((h u).1 hu).symm.trans ((h v).1 hv))

/-- The step of one thread keeps the holder the thread inside. -/
theorem step (h : MutexHeld c) {t : ℕ} {m : Shared} {p : Pc} (hs : WeaponControl.step c.mem t (c.pc t) = some (m, p)) :
    MutexHeld { mem := m, pc := Function.update c.pc t p } := by
  intro u
  dsimp only
  by_cases hu : u = t
  · subst hu
    rw [Function.update_same]
    rcases step_mutex hs with ⟨hm, hl⟩ | ⟨-, hm, -, hl⟩ | ⟨hm, -, hl⟩
    · rw [hm, hl]
      exact h u
    all_goals simp [hm, hl]
  · rw [Function.update_noteq hu]
    rcases step_mutex hs with ⟨hm, -⟩ | ⟨h0, hm, -⟩ | ⟨hm, hl, -⟩
    · rw [hm]
      exact h u
    · simp only [hm, Option.some.injEq, Ne.symm hu, iff_false]
      rw [h u, h0]
      simp
    · simp only [hm, reduceCtorEq, iff_false]
      rw [h u, (h t).1 hl, Option.some.injEq]
      exact Ne.symm hu

theorem next (h : MutexHeld c) : ∀ e, MutexHeld (c.next e)
  | .step t => by
    dsimp only [Config.next]
    split
    · exact h.step ‹_›
    · exact h
  | .call t k => by
    dsimp only [Config.next]
    split_ifs with hf
    · intro u
      dsimp only
      by_cases hu : u = t
      · subst hu
        have hl : (c.pc u).Locked = false := by
          revert hf; cases c.pc u <;> simp [Pc.isFree, Pc.Locked]
        simp only [Function.update_same, Call.entry_locked, Bool.false_eq_true, false_iff]
        rw [← h u, hl]
        simp
      · rw [Function.update_noteq hu]
        exact h u
    · exact h

theorem run {c : Config} (h : MutexHeld c) : ∀ es, MutexHeld (c.run es)
  | [] => h
  | e :: es => (h.next e).run es

end MutexHeld

/-- **`m_stateMutex` excludes, is released on return, and never blocks on a
stuck holder**: from a configuration with the mutex free and no thread inside
a locked section, after every schedule the mutex is held by exactly the thread
inside a locked section of `requestStateChange` or `reset`, at most one thread
is inside one, and the holder can take its next step. -/
theorem state_mutex_exclusive_of_run {c : Config} (hm : c.mem.stateMutex = none)
    (hl : ∀ u, (c.pc u).Locked = false) (es : List Event) :
    (∀ u, ((c.run es).pc u).Locked = true ↔ (c.run es).mem.stateMutex = some u) ∧
      (∀ u v, ((c.run es).pc u).Locked = true → ((c.run es).pc v).Locked = true → u = v) ∧
      ∀ u, (c.run es).mem.stateMutex = some u → (step (c.run es).mem u ((c.run es).pc u)).isSome := by
  have h0 : MutexHeld c := fun u => by simp [hl u, hm]
  have h := h0.run es
  exact ⟨h, fun u v => h.unique, fun u hu => step_isSome_of_locked _ u ((h u).2 hu)⟩

/-- The factory's ALM in `RTL` with its fire solution: thread 0 launches while
thread 1 aborts, each interleaving stepping both. -/
theorem state_mutex_launch_abort :
    (almAt .RTL true).mem.stateMutex = none ∧ (∀ u, ((almAt .RTL true).pc u).Locked = false) ∧
      ∀ u, (((almAt .RTL true).run [.call 0 (.requestStateChange .LAUNCH 0),
        .call 1 (.requestStateChange .ABORT 1), .step 0, .step 1, .step 0]).pc u).Locked = true ↔
        ((almAt .RTL true).run [.call 0 (.requestStateChange .LAUNCH 0),
          .call 1 (.requestStateChange .ABORT 1), .step 0, .step 1, .step 0]).mem.stateMutex = some u :=
  ⟨rfl, fun _ => rfl, (state_mutex_exclusive_of_run (c := almAt .RTL true) rfl (fun _ => rfl) _).1⟩

end WeaponControl
