import WeaponControl.Weapon.Base

/-!
# The weapon under concurrent callers: `WeaponBase.cpp`, step by step

`WeaponBase` is driven by several threads at once: command threads run
`requestStateChange` and `reset` (both under `m_stateMutex`, held by a
`lock_guard` for the whole call), the tick thread runs `update()` with no lock,
and the replanning path stores `m_fireSolutionReady`.  This file cuts each of
these calls into its atomic steps, one per load, store, exchange or lock
operation of the source, and lets any schedule interleave them.

* The memory `Shared` is the weapon object, the token heap and the mutex.  A
  `CancellationToken` is a `shared_ptr<atomic<bool>>`, so a token is the index
  of its flag in `flags`; copying a token (`m_currentCancellationToken = token`,
  line 66) shares the flag, and `CancellationToken emergencyToken;` allocates
  the flag `fresh`.
* A thread's position inside a call is a `Pc`, one constructor per program
  point; a `Pc` that ends in a call of `setState` carries where to continue.
* `commits` records every write of `m_currentState`, `delivered` every
  observer notification, both in the order they happen.

A poll of `sleepWithCancellationCheck` (line 267) reads the two flags in one
step; since flags only ever go from `false` to `true`, reading them at two
instants yields no outcome that one of the two instants would not.  The
observer mutex is held only inside one notification step, so it needs no state.
-/

namespace WeaponControl

/-- A write of `m_currentState`: the `exchange` of `setState` (line 278), which
returns the state it replaced, or the `store` of `reset` (line 138). -/
inductive Commit where
  | exchange (oldState newState : WpnCtrlState)
  | store (newState : WpnCtrlState)
  deriving DecidableEq, Repr

/-- What the threads of one weapon share. -/
structure Shared where
  w : Weapon
  /-- `m_currentCancellationToken`: the flag it shares. -/
  currentToken : ℕ
  /-- The `atomic<bool>` behind every token. -/
  flags : ℕ → Bool
  /-- The next flag a new `CancellationToken` gets. -/
  fresh : ℕ
  /-- The thread holding `m_stateMutex`. -/
  stateMutex : Option ℕ
  commits : List Commit
  delivered : List (ℕ × Note)

namespace Shared

/-- `token.cancel()`: `m_cancelled->store(true)`. -/
def cancel (s : Shared) (tok : ℕ) : Shared := { s with flags := Function.update s.flags tok true }

/-- `setState`'s `m_currentState.exchange(newState)`. -/
def exchange (s : Shared) (newState : WpnCtrlState) : Shared :=
  { s with w := { s.w with currentState := newState },
           commits := s.commits ++ [.exchange s.w.currentState newState] }

/-- One notification, delivered to every registered observer. -/
def deliver (s : Shared) (n : Note) : Shared :=
  { s with delivered := s.delivered ++ s.w.observers.map (·, n) }

@[simp] theorem cancel_w (s : Shared) (tok : ℕ) : (s.cancel tok).w = s.w := rfl
@[simp] theorem cancel_currentToken (s : Shared) (tok : ℕ) :
    (s.cancel tok).currentToken = s.currentToken := rfl
@[simp] theorem cancel_stateMutex (s : Shared) (tok : ℕ) :
    (s.cancel tok).stateMutex = s.stateMutex := rfl
@[simp] theorem cancel_fresh (s : Shared) (tok : ℕ) : (s.cancel tok).fresh = s.fresh := rfl
@[simp] theorem cancel_commits (s : Shared) (tok : ℕ) : (s.cancel tok).commits = s.commits := rfl
@[simp] theorem cancel_flags (s : Shared) (tok x : ℕ) :
    (s.cancel tok).flags x = (x = tok || s.flags x) := by
  by_cases h : x = tok <;> simp [cancel, Function.update, h]
@[simp] theorem exchange_w (s : Shared) (ns : WpnCtrlState) :
    (s.exchange ns).w = { s.w with currentState := ns } := rfl
@[simp] theorem exchange_flags (s : Shared) (ns : WpnCtrlState) : (s.exchange ns).flags = s.flags := rfl
@[simp] theorem exchange_currentToken (s : Shared) (ns : WpnCtrlState) :
    (s.exchange ns).currentToken = s.currentToken := rfl
@[simp] theorem exchange_stateMutex (s : Shared) (ns : WpnCtrlState) :
    (s.exchange ns).stateMutex = s.stateMutex := rfl
@[simp] theorem exchange_fresh (s : Shared) (ns : WpnCtrlState) : (s.exchange ns).fresh = s.fresh := rfl
@[simp] theorem exchange_commits (s : Shared) (ns : WpnCtrlState) :
    (s.exchange ns).commits = s.commits ++ [.exchange s.w.currentState ns] := rfl
@[simp] theorem deliver_w (s : Shared) (n : Note) : (s.deliver n).w = s.w := rfl
@[simp] theorem deliver_flags (s : Shared) (n : Note) : (s.deliver n).flags = s.flags := rfl
@[simp] theorem deliver_currentToken (s : Shared) (n : Note) :
    (s.deliver n).currentToken = s.currentToken := rfl
@[simp] theorem deliver_stateMutex (s : Shared) (n : Note) :
    (s.deliver n).stateMutex = s.stateMutex := rfl
@[simp] theorem deliver_fresh (s : Shared) (n : Note) : (s.deliver n).fresh = s.fresh := rfl
@[simp] theorem deliver_commits (s : Shared) (n : Note) : (s.deliver n).commits = s.commits := rfl

end Shared

/-- Where a thread stands inside one call on the weapon. -/
inductive Pc where
  | idle
  /-- `requestStateChange(newState, token)`: the `lock_guard` of line 48. -/
  | lock (newState : WpnCtrlState) (token : ℕ)
  /-- `currentState = m_currentState.load()`, line 50, and the branch on it. -/
  | load (newState : WpnCtrlState) (token : ℕ)
  /-- `m_currentCancellationToken.cancel()`: lines 54, 141, 210 and 252. -/
  | cancelCurrent (next : Pc)
  /-- `m_currentCancellationToken = token`, line 66, then the `switch`. -/
  | assignToken (newState : WpnCtrlState) (token : ℕ)
  /-- `setState(newState)`: the exchange of line 278. -/
  | setState (newState : WpnCtrlState) (next : Pc)
  /-- `notifyStateChanged(oldState, newState)`, line 282. -/
  | notifyState (oldState newState : WpnCtrlState) (next : Pc)
  /-- `sleepWithCancellationCheck(m_onDelay, token)` in `processTurnOn`, `left`
  polls to go. -/
  | pocPoll (left : ℕ) (token : ℕ)
  /-- `if (token.isCancelled())` before each launch step, line 229. -/
  | stepCheck (steps : List ℚ) (token : ℕ)
  /-- The sleep of one launch step, line 237, `left` polls to go. -/
  | stepPoll (left : ℕ) (steps : List ℚ) (token : ℕ)
  /-- `setLaunched(true)`: `m_launched.exchange(true)`, line 110. -/
  | setLaunched
  /-- `notifyLaunchStatusChanged(true)`, line 112. -/
  | notifyLaunch (next : Pc)
  /-- `reset()`: the `lock_guard` of line 136, then its stores, lines 138-140. -/
  | resetLock
  | resetState
  | resetLaunched
  | resetFireSolution
  /-- `update()`: `m_currentState.load()`, line 148. -/
  | updateLoad
  /-- `checkInterlockConditions()` in the branch taken on the loaded state. -/
  | updateCheck (seen : WpnCtrlState)
  /-- `setFireSolutionReady(ready)`: one store. -/
  | setFireSolution (ready : Bool)
  /-- A caller holding a copy of `token` cancels it. -/
  | cancelToken (token : ℕ)
  /-- `emergencyStop()` on this weapon: `getWeaponState()`, line 323. -/
  | emergencyRead
  /-- `CancellationToken emergencyToken;` and, for `ABORT`, its `cancel()`. -/
  | emergencyToken (target : WpnCtrlState)
  /-- `clearAssignment()`: `removeStateObserver(shared_from_this())`. -/
  | removeObserver (obs : ℕ) (next : Pc)
  /-- The `lock_guard` destructor: release `m_stateMutex`, return `r`. -/
  | unlock (r : Result)
  | done (r : Result)
  deriving DecidableEq, Repr

/-- `return Result<void>::failure("Launch sequence aborted")` after
`setState(ABORT)`, lines 230-232 and 238-240. -/
def launchAborted : Pc := .setState .ABORT (.unlock (.failure "Launch sequence aborted"))

/-- The `switch (newState)` of `requestStateChange`, lines 73-87. -/
def dispatch (w : Weapon) (newState : WpnCtrlState) (token : ℕ) : Pc :=
  match newState with
  | .OFF => .cancelCurrent (.setState .OFF (.unlock .success))
  | .ON => .setState .POC (.pocPoll (sleepIntervals w.onDelay) token)
  | .LAUNCH => .setState .LAUNCH (.stepCheck w.launchSteps token)
  | s => .setState s (.unlock .success)

/-- One atomic step of thread `t` at `pc`; `none` when it cannot move (blocked
on `m_stateMutex`, or not inside a call). -/
def step (s : Shared) (t : ℕ) : Pc → Option (Shared × Pc)
  | .idle => none
  | .done _ => none
  | .lock ns tok =>
    if s.stateMutex = none then some ({ s with stateMutex := some t }, .load ns tok) else none
  | .load ns tok =>
    if ns = .ABORT then some (s, .cancelCurrent (.cancelCurrent (.setState .ABORT (.unlock .success))))
    else if isValidTransition s.w.currentState ns then some (s, .assignToken ns tok)
    else some (s, .unlock (.failure ("Invalid transition from " ++ stateToString s.w.currentState ++
      " to " ++ stateToString ns)))
  | .cancelCurrent k => some (s.cancel s.currentToken, k)
  | .assignToken ns tok => some ({ s with currentToken := tok }, dispatch s.w ns tok)
  | .setState ns k =>
    some (s.exchange ns, if s.w.currentState = ns then k else .notifyState s.w.currentState ns k)
  | .notifyState o n k => some (s.deliver (.stateChanged o n), k)
  | .pocPoll 0 _ => some (s, .setState .ON (.unlock .success))
  | .pocPoll (n + 1) tok =>
    if s.flags tok || s.flags s.currentToken then
      some (s, .setState .OFF (.unlock (.failure "Power-on check cancelled")))
    else some (s, .pocPoll n tok)
  | .stepCheck [] _ => some (s, .setLaunched)
  | .stepCheck (d :: ds) tok =>
    if s.flags tok then some (s, launchAborted) else some (s, .stepPoll (sleepIntervals d) ds tok)
  | .stepPoll 0 ds tok => some (s, .stepCheck ds tok)
  | .stepPoll (n + 1) ds tok =>
    if s.flags tok || s.flags s.currentToken then some (s, launchAborted)
    else some (s, .stepPoll n ds tok)
  | .setLaunched =>
    some ({ s with w := { s.w with launched := true } },
      if s.w.launched then .unlock .success else .notifyLaunch (.setState .POST_LAUNCH (.unlock .success)))
  | .notifyLaunch k => some (s.deliver (.launchStatus true), k)
  | .resetLock =>
    if s.stateMutex = none then some ({ s with stateMutex := some t }, .resetState) else none
  | .resetState =>
    some ({ s with w := { s.w with currentState := .OFF }, commits := s.commits ++ [.store .OFF] },
      .resetLaunched)
  | .resetLaunched => some ({ s with w := { s.w with launched := false } }, .resetFireSolution)
  | .resetFireSolution =>
    some ({ s with w := { s.w with fireSolutionReady := false } }, .cancelCurrent (.unlock .success))
  | .updateLoad =>
    if s.w.currentState = .ON then some (s, .updateCheck .ON)
    else if s.w.currentState = .RTL then some (s, .updateCheck .RTL)
    else some (s, .done .success)
  | .updateCheck seen =>
    if seen = .ON ∧ s.w.checkInterlockConditions then some (s, .setState .RTL (.done .success))
    else if seen = .RTL ∧ !s.w.checkInterlockConditions then some (s, .setState .ON (.done .success))
    else some (s, .done .success)
  | .setFireSolution b => some ({ s with w := s.w.setFireSolutionReady b }, .done .success)
  | .cancelToken tok => some (s.cancel tok, .done .success)
  | .emergencyRead =>
    some (s, .emergencyToken (if s.w.currentState = .LAUNCH then .ABORT else .OFF))
  | .emergencyToken tgt =>
    some ({ (if tgt = .ABORT then s.cancel s.fresh else s) with fresh := s.fresh + 1 }, .lock tgt s.fresh)
  | .removeObserver o k => some ({ s with w := s.w.removeStateObserver o }, k)
  | .unlock r => some ({ s with stateMutex := none }, .done r)

/-- The calls a thread can start on the weapon. -/
inductive Call where
  | requestStateChange (newState : WpnCtrlState) (token : ℕ)
  | reset
  | update
  | setFireSolutionReady (ready : Bool)
  | cancel (token : ℕ)
  | emergencyStop
  | clearAssignment (obs : ℕ)
  deriving DecidableEq, Repr

/-- Where each call starts. -/
def Call.entry : Call → Pc
  | .requestStateChange ns tok => .lock ns tok
  | .reset => .resetLock
  | .update => .updateLoad
  | .setFireSolutionReady b => .setFireSolution b
  | .cancel tok => .cancelToken tok
  | .emergencyStop => .emergencyRead
  | .clearAssignment obs => .removeObserver obs .resetLock

/-- The memory and every thread's position. -/
structure Config where
  mem : Shared
  pc : ℕ → Pc

/-- One scheduling decision: thread `t` takes a step, or starts a call. -/
inductive Event where
  | step (t : ℕ)
  | call (t : ℕ) (c : Call)
  deriving DecidableEq, Repr

/-- A thread between calls. -/
def Pc.isFree : Pc → Bool
  | .idle => true
  | .done _ => true
  | _ => false

/-- Apply one event; a step that cannot be taken and a call on a busy thread
leave the configuration as it is, so every list of events is a schedule. -/
def Config.next (c : Config) : Event → Config
  | .step t =>
    match step c.mem t (c.pc t) with
    | some (m, p) => { mem := m, pc := Function.update c.pc t p }
    | none => c
  | .call t k => if (c.pc t).isFree then { c with pc := Function.update c.pc t k.entry } else c

/-- Run a schedule. -/
def Config.run (c : Config) (es : List Event) : Config := es.foldl Config.next c

@[simp] theorem Config.run_nil (c : Config) : c.run [] = c := rfl
@[simp] theorem Config.run_cons (c : Config) (e : Event) (es : List Event) :
    c.run (e :: es) = (c.next e).run es := rfl
theorem Config.run_append (c : Config) (es es' : List Event) :
    c.run (es ++ es') = (c.run es).run es' := List.foldl_append _ _ _ _

end WeaponControl
