import WeaponControl.Weapon.Threads

/-!
# ABORT waits for the launch it should stop; the tick writes stale states and notifies late

Two facts about `WeaponBase` under concurrent callers, both against the
intent its comments state (`// ABORT 명령은 언제든지 허용`, "ABORT is accepted
at any time", and `// 현재 작업 취소`, "cancel the current work").

**The lock comes before the cancel.**  `requestStateChange` takes
`m_stateMutex` at line 48 and holds it to its return, across the whole POC
wait or launch sequence; the ABORT branch cancels
`m_currentCancellationToken` at line 54, after the lock.  So an ABORT (direct,
or from `emergencyStop`) and a `reset()` (from `clearAssignment`) block until
the launch they were meant to stop has finished.  `launch_not_preempted` says
it for every interleaving: once thread `a` has committed `LAUNCH`, nothing a
second thread does through these calls makes `a` fail, and `a` commits
`POST_LAUNCH`.

**The tick reads, then writes, without the lock.**  `update()` loads
`m_currentState` at line 148 and exchanges in `RTL` or `ON` at line 157 or
163; a command committed in between is overwritten, and the exchange returns a
state the tick never saw.  Nor does the tick hold anything between its
exchange (line 278) and its notification (line 282): a command that commits
and notifies in between reaches the observers first, so they hear the two
changes in the opposite order to the commits
(`notifications_out_of_commit_order`).
-/

namespace WeaponControl

/-! ### One launch holding the mutex -/

/-- Where the second thread can stand while it has not got `m_stateMutex`. -/
def Pc.Waiting : Pc → Prop
  | .lock _ _ => True
  | .resetLock => True
  | .emergencyRead => True
  | .emergencyToken _ => True
  | .removeObserver _ .resetLock => True
  | _ => False

/-- `processLaunch` after committing `LAUNCH` while no poll sees a
cancellation, with what each position needs of the memory. -/
inductive LaunchStage (tA : ℕ) (m : Shared) : Pc → Prop
  | notified {o : WpnCtrlState} {ds : List ℚ} (hs : m.w.currentState = .LAUNCH)
      (hl : m.w.launched = false) : LaunchStage tA m (.notifyState o .LAUNCH (.stepCheck ds tA))
  | check {ds : List ℚ} (hs : m.w.currentState = .LAUNCH) (hl : m.w.launched = false) :
      LaunchStage tA m (.stepCheck ds tA)
  | poll {n : ℕ} {ds : List ℚ} (hs : m.w.currentState = .LAUNCH) (hl : m.w.launched = false) :
      LaunchStage tA m (.stepPoll n ds tA)
  | setLaunched (hs : m.w.currentState = .LAUNCH) (hl : m.w.launched = false) :
      LaunchStage tA m .setLaunched
  | notifyLaunch (hs : m.w.currentState = .LAUNCH) :
      LaunchStage tA m (.notifyLaunch (.setState .POST_LAUNCH (.unlock .success)))
  | post (hs : m.w.currentState = .LAUNCH) :
      LaunchStage tA m (.setState .POST_LAUNCH (.unlock .success))
  | notifyPost {o : WpnCtrlState} (hc : Commit.exchange .LAUNCH .POST_LAUNCH ∈ m.commits) :
      LaunchStage tA m (.notifyState o .POST_LAUNCH (.unlock .success))
  | unlock (hc : Commit.exchange .LAUNCH .POST_LAUNCH ∈ m.commits) :
      LaunchStage tA m (.unlock .success)

/-- The run invariant: thread `a` is in its launch, holding the mutex, its
token uncancelled and still the current one, and thread `b` waits; or `a` has
returned success after committing `POST_LAUNCH`. -/
def PreemptInv (a b tA : ℕ) (c : Config) : Prop :=
  (LaunchStage tA c.mem (c.pc a) ∧ c.mem.stateMutex = some a ∧ c.mem.flags tA = false ∧
      c.mem.currentToken = tA ∧ tA < c.mem.fresh ∧ (c.pc b).Waiting) ∨
    (c.pc a = .done .success ∧ Commit.exchange .LAUNCH .POST_LAUNCH ∈ c.mem.commits)

/-- Every step keeps the commits already made. -/
theorem step_commits_grow {s s' : Shared} {t : ℕ} {p p' : Pc} (h : step s t p = some (s', p')) :
    s.commits <+: s'.commits := by
  unfold step at h
  repeat' split at h
  -- only `exchange` and `resetState` append; every other step keeps the list
  all_goals cases h <;> first | exact List.prefix_refl _ | exact List.prefix_append _ _

theorem next_commits_grow (c : Config) (e : Event) : c.mem.commits <+: (c.next e).mem.commits := by
  cases e with
  | step t =>
    simp only [Config.next]
    split
    · next h => exact step_commits_grow h
    · exact List.prefix_refl _
  | call t k => simp only [Config.next]; split <;> exact List.prefix_refl _

theorem Config.next_step_some {c : Config} {t : ℕ} {m : Shared} {p : Pc}
    (h : step c.mem t (c.pc t) = some (m, p)) :
    c.next (.step t) = { mem := m, pc := Function.update c.pc t p } := by
  simp [Config.next, h]

theorem Config.next_step_none {c : Config} {t : ℕ} (h : step c.mem t (c.pc t) = none) :
    c.next (.step t) = c := by
  simp [Config.next, h]

/-- Thread `a`'s step inside its launch keeps the invariant: no poll sees a
cancellation, so the sequence runs to `setLaunched(true)` and `POST_LAUNCH`. -/
theorem PreemptInv.step_a {a b tA : ℕ} (hab : a ≠ b) {c : Config} (hi : PreemptInv a b tA c) :
    PreemptInv a b tA (c.next (.step a)) := by
  rcases hi with ⟨hst, hm, hf, hc, hfr, hw⟩ | ⟨hd, hc⟩
  · have hb : ∀ p, Function.update c.pc a p b = c.pc b := fun p =>
      Function.update_noteq (Ne.symm hab) _ _
    generalize hp : c.pc a = p at hst
    have stay : ∀ (m : Shared) (p' : Pc), step c.mem a p = some (m, p') →
        LaunchStage tA m p' → m.stateMutex = some a → m.flags = c.mem.flags →
        m.currentToken = c.mem.currentToken → m.fresh = c.mem.fresh →
        PreemptInv a b tA (c.next (.step a)) := by
      intro m p' h hs h1 h2 h3 h4
      rw [Config.next_step_some (hp ▸ h)]
      exact .inl ⟨by simpa using hs, h1, by simp [h2, hf], by simp [h3, hc], by simp [h4, hfr],
        by simpa [hb] using hw⟩
    cases hst with
    | @notified o ds hs hl =>
      exact stay (c.mem.deliver (.stateChanged o .LAUNCH)) (.stepCheck ds tA) rfl
        (.check (by simpa) (by simpa)) (by simpa) rfl rfl rfl
    | @check ds hs hl =>
      cases ds with
      | nil => exact stay c.mem .setLaunched rfl (.setLaunched hs hl) hm rfl rfl rfl
      | cons d ds =>
        exact stay c.mem (.stepPoll (sleepIntervals d) ds tA) (by simp [step, hf])
          (.poll hs hl) hm rfl rfl rfl
    | @poll n ds hs hl =>
      cases n with
      | zero => exact stay c.mem (.stepCheck ds tA) rfl (.check hs hl) hm rfl rfl rfl
      | succ n =>
        exact stay c.mem (.stepPoll n ds tA) (by simp [step, hf, hc]) (.poll hs hl) hm rfl rfl rfl
    | setLaunched hs hl =>
      exact stay { c.mem with w := { c.mem.w with launched := true } }
        (.notifyLaunch (.setState .POST_LAUNCH (.unlock .success))) (by simp [step, hl])
        (.notifyLaunch hs) hm rfl rfl rfl
    | notifyLaunch hs =>
      exact stay (c.mem.deliver (.launchStatus true)) (.setState .POST_LAUNCH (.unlock .success))
        rfl (.post (by simpa)) (by simpa) rfl rfl rfl
    | post hs =>
      exact stay (c.mem.exchange .POST_LAUNCH)
        (.notifyState .LAUNCH .POST_LAUNCH (.unlock .success)) (by simp [step, hs])
        (.notifyPost (by simp [hs])) (by simpa) rfl rfl rfl
    | @notifyPost o hc' =>
      exact stay (c.mem.deliver (.stateChanged o .POST_LAUNCH)) (.unlock .success) rfl
        (.unlock (by simpa)) (by simpa) rfl rfl rfl
    | unlock hc' =>
      rw [@Config.next_step_some c a { c.mem with stateMutex := none } (.done .success)
        (by rw [hp]; rfl)]
      exact .inr ⟨by simp, hc'⟩
  · rw [Config.next_step_none (by rw [hd]; rfl)]
    exact .inr ⟨hd, hc⟩

/-- `LaunchStage` reads only the state, `m_launched` and the commits. -/
theorem LaunchStage.congr {tA : ℕ} {m m' : Shared} {p : Pc} (h : LaunchStage tA m p)
    (hs : m'.w.currentState = m.w.currentState) (hl : m'.w.launched = m.w.launched)
    (hc : m'.commits = m.commits) : LaunchStage tA m' p := by
  cases h <;> constructor <;> simp_all

/-- Thread `b`'s step, while it waits for the mutex `a` holds, keeps the
invariant: blocked on the lock it does not move, and the steps it can take
before it (`getWeaponState`, the new emergency token, `removeStateObserver`)
touch neither the state, nor `m_launched`, nor `a`'s token. -/
theorem PreemptInv.step_b {a b tA : ℕ} (hab : a ≠ b) {c : Config} (hi : PreemptInv a b tA c) :
    PreemptInv a b tA (c.next (.step b)) := by
  rcases hi with ⟨hst, hm, hf, hc, hfr, hw⟩ | ⟨hd, hc⟩
  · have ha : ∀ p, Function.update c.pc b p a = c.pc a := fun p => Function.update_noteq hab _ _
    generalize hp : c.pc b = p at hw
    cases p <;> simp only [Pc.Waiting] at hw
    · rw [Config.next_step_none (by rw [hp]; simp [step, hm])]
      exact .inl ⟨hst, hm, hf, hc, hfr, by simp [hp, Pc.Waiting]⟩
    · rw [Config.next_step_none (by rw [hp]; simp [step, hm])]
      exact .inl ⟨hst, hm, hf, hc, hfr, by simp [hp, Pc.Waiting]⟩
    · rw [Config.next_step_some (by rw [hp]; rfl)]
      exact .inl ⟨by simpa [ha] using hst, hm, hf, hc, hfr, by simp [Pc.Waiting]⟩
    · rename_i tgt
      have hne : tA ≠ c.mem.fresh := by omega
      rw [Config.next_step_some (by rw [hp]; rfl)]
      refine .inl ⟨?_, ?_, ?_, ?_, ?_, by simp [Pc.Waiting]⟩ <;> split <;>
        simp_all [LaunchStage.congr hst] <;> omega
    · rename_i o k
      cases k <;> simp only [Pc.Waiting] at hw
      rw [Config.next_step_some (by rw [hp]; rfl)]
      refine .inl ⟨?_, hm, hf, hc, hfr, by simp [Pc.Waiting]⟩
      simp only [ha]
      exact hst.congr rfl rfl rfl
  · refine .inr ⟨?_, (next_commits_grow c (.step b)).subset hc⟩
    simp only [Config.next]
    split <;> simp [Function.update_noteq hab, hd]

/-- Thread `a`'s first four steps from `RTL`: the lock, the load, the token
and the exchange to `LAUNCH`, after which the invariant holds. -/
theorem PreemptInv.start {a b tA : ℕ} (hab : a ≠ b) {c : Config} (ha : c.pc a = .lock .LAUNCH tA)
    (hb : (c.pc b).Waiting) (hs : c.mem.w.currentState = .RTL) (hl : c.mem.w.launched = false)
    (hm : c.mem.stateMutex = none) (hf : c.mem.flags tA = false) (hfr : tA < c.mem.fresh) :
    PreemptInv a b tA (c.run [.step a, .step a, .step a, .step a]) := by
  left
  simp [Config.next, step, ha, hm, hs, dispatch, isValidTransition, sDefaultTransitionMap,
    Function.update_noteq (Ne.symm hab), hb, hf, hfr, hl, LaunchStage.notified]

/-- The invariant holds along every interleaving of the two threads. -/
theorem PreemptInv.run {a b tA : ℕ} (hab : a ≠ b) :
    ∀ {c : Config} (es : List Event), (∀ e ∈ es, e = .step a ∨ e = .step b) →
      PreemptInv a b tA c → PreemptInv a b tA (c.run es)
  | _, [], _, hi => hi
  | _, e :: es, hes, hi => by
    have hes' : ∀ e ∈ es, e = .step a ∨ e = .step b := fun e he => hes e (List.mem_cons_of_mem _ he)
    rcases hes e (List.mem_cons_self _ _) with rfl | rfl
    · exact PreemptInv.run hab es hes' (hi.step_a hab)
    · exact PreemptInv.run hab es hes' (hi.step_b hab)

/-- An `ALMWeapon` of the factory (`DefaultLaunchDelay` 3.0) on tube 1, in
state `st` with fire solution `fsr`, observed by its tube; no thread inside a
call, flag 0 and flag 1 the callers' tokens. -/
def almAt (st : WpnCtrlState) (fsr : Bool) : Config :=
  { mem := { w := { (Weapon.create .ALM 3) with
                      tubeNumber := 1, currentState := st, fireSolutionReady := fsr, observers := [1] },
             currentToken := 0, flags := fun _ => false, fresh := 2, stateMutex := none,
             commits := [], delivered := [] },
    pc := fun _ => .idle }

/-- Thread 0 calls `requestStateChange(LAUNCH, t0)` from `RTL` and commits
`LAUNCH`; thread 1 then calls `requestStateChange(ABORT, t1)`. -/
def launchThenAbort : List Event :=
  [.call 0 (.requestStateChange .LAUNCH 0)] ++ List.replicate 4 (.step 0) ++
    [.call 1 (.requestStateChange .ABORT 1), .step 1] ++ List.replicate 73 (.step 0)

set_option maxRecDepth 8000 in
theorem abort_waits_for_launch :
    ((almAt .RTL true).run launchThenAbort).pc 0 = .done .success ∧
      ((almAt .RTL true).run launchThenAbort).mem.w.launched = true ∧
      ((almAt .RTL true).run launchThenAbort).mem.w.currentState = .POST_LAUNCH ∧
      ((almAt .RTL true).run launchThenAbort).pc 1 = .lock .ABORT 1 ∧
      ((almAt .RTL true).run (launchThenAbort ++ List.replicate 7 (.step 1))).pc 1 = .done .success ∧
      ((almAt .RTL true).run (launchThenAbort ++ List.replicate 7 (.step 1))).mem.w.currentState =
        .ABORT ∧
      ((almAt .RTL true).run (launchThenAbort ++ List.replicate 7 (.step 1))).mem.commits =
        [.exchange .RTL .LAUNCH, .exchange .LAUNCH .POST_LAUNCH, .exchange .POST_LAUNCH .ABORT] := by
  with_unfolding_all decide

/-- Two interleavings of the tick's `update()` with one command.  From `ON`
with a fire solution, the tick loads `ON` and checks the interlock, the command
turns the weapon `OFF`, and the tick's exchange then commits `OFF → RTL`.  From
`RTL` without one, the tick loads `RTL`, the command commits `RTL → LAUNCH`,
and the tick's exchange commits `LAUNCH → ON` under the running launch. -/
theorem update_commits_stale_transitions :
    Commit.exchange .OFF .RTL ∈ ((almAt .ON true).run
      [.call 0 .update, .step 0, .step 0, .call 1 (.requestStateChange .OFF 1),
        .step 1, .step 1, .step 1, .step 1, .step 1, .step 1, .step 1, .step 0]).mem.commits ∧
    ((almAt .RTL false).run
      [.call 0 .update, .step 0, .step 0, .call 1 (.requestStateChange .LAUNCH 1),
        .step 1, .step 1, .step 1, .step 1, .step 0]).mem.commits =
      [.exchange .RTL .LAUNCH, .exchange .LAUNCH .ON] := by
  decide

/-- The tick of a weapon in `ON` with a fire solution commits `ON → RTL` and
stops before its notification; a command turns the weapon `OFF` and returns;
the tick then notifies. -/
def tickThenTurnOff : List Event :=
  [.call 0 .update, .step 0, .step 0, .step 0, .call 1 (.requestStateChange .OFF 1)] ++
    List.replicate 7 (.step 1) ++ [.step 0]

/-- The observer hears `RTL → OFF` and then `ON → RTL`: the second
notification starts from a state the first did not end in, and with both
threads back from their calls the last notification names `RTL` while the
weapon is `OFF`. -/
theorem notifications_out_of_commit_order :
    ((almAt .ON true).run tickThenTurnOff).mem.commits = [.exchange .ON .RTL, .exchange .RTL .OFF] ∧
      ((almAt .ON true).run tickThenTurnOff).mem.delivered =
        [(1, .stateChanged .RTL .OFF), (1, .stateChanged .ON .RTL)] ∧
      ((almAt .ON true).run tickThenTurnOff).mem.w.currentState = .OFF ∧
      ((almAt .ON true).run tickThenTurnOff).pc 0 = .done .success ∧
      ((almAt .ON true).run tickThenTurnOff).pc 1 = .done .success := by
  decide

end WeaponControl
