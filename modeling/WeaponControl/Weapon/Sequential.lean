import WeaponControl.Weapon.Base

/-!
# The weapon calls, one at a time: `WeaponBase.cpp`

What one call of `requestStateChange` or `update()` does when no other thread
touches the weapon meanwhile, as the tubes and the tube manager see it.  The
only thing the rest of the world contributes during such a call is the
caller's token: `requestStateChange` copies it into
`m_currentCancellationToken` (line 66), so every poll of
`sleepWithCancellationCheck` reads one flag, the caller's.  The argument
`cancelled` says whether some poll or step check of the call sees it set; a
POC wait without polls and a launch without steps cannot see it.

Each call returns the notifications it sends, in order: the tube holding the
weapon reacts to them.
-/

namespace WeaponControl

namespace Weapon

/-- `setState(newState)`: the exchange, and a notification when the state
changed. -/
def setState (w : Weapon) (newState : WpnCtrlState) : Weapon × List Note :=
  ({ w with currentState := newState },
    if w.currentState = newState then [] else [.stateChanged w.currentState newState])

/-- `setLaunched(true)` as `processLaunch` calls it: on a change, the launch
notification and `POST_LAUNCH`; a weapon launched before stays in `LAUNCH`. -/
def setLaunchedTrue (w : Weapon) : Weapon × List Note :=
  if w.launched then (w, [])
  else
    let (w', ns) := setState { w with launched := true } .POST_LAUNCH
    (w', .launchStatus true :: ns)

/-- `processTurnOn`: `POC`, the wait, then `ON`, or back to `OFF` when a poll
sees the token. -/
def processTurnOn (w : Weapon) (cancelled : Bool) : Result × Weapon × List Note :=
  let (w₁, n₁) := w.setState .POC
  if cancelled ∧ 0 < sleepIntervals w.onDelay then
    let (w₂, n₂) := w₁.setState .OFF
    (.failure "Power-on check cancelled", w₂, n₁ ++ n₂)
  else
    let (w₂, n₂) := w₁.setState .ON
    (.success, w₂, n₁ ++ n₂)

/-- `processLaunch`: `LAUNCH`, the steps, then `setLaunched(true)`, or `ABORT`
when a step check or poll sees the token. -/
def processLaunch (w : Weapon) (cancelled : Bool) : Result × Weapon × List Note :=
  let (w₁, n₁) := w.setState .LAUNCH
  if cancelled ∧ w.launchSteps ≠ [] then
    let (w₂, n₂) := w₁.setState .ABORT
    (.failure "Launch sequence aborted", w₂, n₁ ++ n₂)
  else
    let (w₂, n₂) := w₁.setLaunchedTrue
    (.success, w₂, n₁ ++ n₂)

/-- `WeaponBase::requestStateChange(newState, token)` run to its return. -/
def requestStateChange (w : Weapon) (newState : WpnCtrlState) (cancelled : Bool) :
    Result × Weapon × List Note :=
  if newState = .ABORT then
    let (w', ns) := w.setState .ABORT
    (.success, w', ns)
  else if !isValidTransition w.currentState newState then
    (.failure ("Invalid transition from " ++ stateToString w.currentState ++ " to " ++
      stateToString newState), w, [])
  else
    match newState with
    | .OFF => let (w', ns) := w.setState .OFF; (.success, w', ns)
    | .ON => w.processTurnOn cancelled
    | .LAUNCH => w.processLaunch cancelled
    | s => let (w', ns) := w.setState s; (.success, w', ns)

/-- `WeaponBase::update()`: the automatic `ON → RTL` and `RTL → ON` on the
interlock. -/
def update (w : Weapon) : Weapon × List Note :=
  if w.currentState = .ON ∧ w.checkInterlockConditions then w.setState .RTL
  else if w.currentState = .RTL ∧ !w.checkInterlockConditions then w.setState .ON
  else (w, [])

@[simp] theorem setState_weaponKind (w : Weapon) (s : WpnCtrlState) :
    (w.setState s).1.weaponKind = w.weaponKind := rfl
@[simp] theorem setState_tubeNumber (w : Weapon) (s : WpnCtrlState) :
    (w.setState s).1.tubeNumber = w.tubeNumber := rfl
@[simp] theorem setState_observers (w : Weapon) (s : WpnCtrlState) :
    (w.setState s).1.observers = w.observers := rfl
@[simp] theorem setState_fireSolutionReady (w : Weapon) (s : WpnCtrlState) :
    (w.setState s).1.fireSolutionReady = w.fireSolutionReady := rfl
@[simp] theorem setState_currentState (w : Weapon) (s : WpnCtrlState) :
    (w.setState s).1.currentState = s := rfl
@[simp] theorem setState_launched (w : Weapon) (s : WpnCtrlState) :
    (w.setState s).1.launched = w.launched := rfl

/-- A call changes the state, `m_launched` and nothing the tube keeps an eye
on: kind, tube number, observers and fire solution stay. -/
theorem requestStateChange_frame (w : Weapon) (s : WpnCtrlState) (c : Bool) :
    (w.requestStateChange s c).2.1.weaponKind = w.weaponKind ∧
      (w.requestStateChange s c).2.1.tubeNumber = w.tubeNumber ∧
      (w.requestStateChange s c).2.1.observers = w.observers ∧
      (w.requestStateChange s c).2.1.fireSolutionReady = w.fireSolutionReady := by
  unfold requestStateChange
  split
  · simp
  · split
    · simp
    · split <;> simp [processTurnOn, processLaunch, setLaunchedTrue] <;> split_ifs <;> simp

theorem update_frame (w : Weapon) :
    w.update.1.weaponKind = w.weaponKind ∧ w.update.1.tubeNumber = w.tubeNumber ∧
      w.update.1.observers = w.observers ∧ w.update.1.fireSolutionReady = w.fireSolutionReady ∧
      w.update.1.launched = w.launched := by
  unfold update
  split
  · simp
  · split <;> simp

/-! ### What a call returns -/

/-- The POC wait ends in `ON`, or in `OFF` when a poll sees the token. -/
theorem processTurnOn_outcome (w : Weapon) (c : Bool) :
    ((w.processTurnOn c).1 = .success ∧ (w.processTurnOn c).2.1.currentState = .ON) ∨
      ((w.processTurnOn c).1 = .failure "Power-on check cancelled" ∧
        (w.processTurnOn c).2.1.currentState = .OFF) := by
  unfold processTurnOn; split_ifs <;> simp

/-- The launch sequence ends in `ABORT` with `m_launched` as it was, or sets
`m_launched`, in `POST_LAUNCH` when that changed it and in `LAUNCH` when the
weapon had been launched before. -/
theorem processLaunch_outcome (w : Weapon) (c : Bool) :
    ((w.processLaunch c).1 = .success ∧ (w.processLaunch c).2.1.launched = true ∧
        (w.processLaunch c).2.1.currentState = if w.launched then .LAUNCH else .POST_LAUNCH) ∨
      ((w.processLaunch c).1 = .failure "Launch sequence aborted" ∧
        (w.processLaunch c).2.1.currentState = .ABORT ∧ (w.processLaunch c).2.1.launched = w.launched) := by
  unfold processLaunch setLaunchedTrue; split_ifs <;> simp_all [setState]

/-- **What `requestStateChange` returns and leaves**, from any weapon, for any
target and whichever polls see the token: `ABORT` always succeeds; a target
the table does not list from the current state fails and changes nothing;
`OFF` succeeds; `ON` ends `ON`, or `OFF` when a poll saw the token; `LAUNCH`
ends in `ABORT` with `m_launched` as it was, or succeeds with `m_launched` set,
in `POST_LAUNCH`, or still in `LAUNCH` when the weapon had been launched
before. -/
theorem requestStateChange_outcome (w : Weapon) (ns : WpnCtrlState) (c : Bool) :
    (ns = .ABORT → (w.requestStateChange ns c).1 = .success ∧
      (w.requestStateChange ns c).2.1.currentState = .ABORT) ∧
    (ns ≠ .ABORT → isValidTransition w.currentState ns = false →
      (w.requestStateChange ns c).1 = .failure ("Invalid transition from " ++
        stateToString w.currentState ++ " to " ++ stateToString ns) ∧
      (w.requestStateChange ns c).2.1 = w) ∧
    (ns = .OFF → isValidTransition w.currentState ns = true →
      (w.requestStateChange ns c).1 = .success ∧ (w.requestStateChange ns c).2.1.currentState = .OFF) ∧
    (ns = .ON → isValidTransition w.currentState ns = true →
      ((w.requestStateChange ns c).1 = .success ∧ (w.requestStateChange ns c).2.1.currentState = .ON) ∨
      ((w.requestStateChange ns c).1 = .failure "Power-on check cancelled" ∧
        (w.requestStateChange ns c).2.1.currentState = .OFF)) ∧
    (ns = .LAUNCH → isValidTransition w.currentState ns = true →
      ((w.requestStateChange ns c).1 = .success ∧ (w.requestStateChange ns c).2.1.launched = true ∧
        (w.requestStateChange ns c).2.1.currentState = if w.launched then .LAUNCH else .POST_LAUNCH) ∨
      ((w.requestStateChange ns c).1 = .failure "Launch sequence aborted" ∧
        (w.requestStateChange ns c).2.1.currentState = .ABORT ∧
        (w.requestStateChange ns c).2.1.launched = w.launched)) := by
  refine ⟨fun h => ?_, fun h hv => ?_, fun h hv => ?_, fun h hv => ?_, fun h hv => ?_⟩ <;> subst_vars
  · simp [requestStateChange]
  · simp [requestStateChange, h, hv]
  · simp [requestStateChange, hv]
  · simpa [requestStateChange, hv] using processTurnOn_outcome w c
  · simpa [requestStateChange, hv] using processLaunch_outcome w c

/-- **With a token nobody cancels**, `requestStateChange` fails only on a
target other than `ABORT` that the table does not list from the current
state, with the table's message. -/
theorem requestStateChange_uncancelled (w : Weapon) (s : WpnCtrlState) :
    (w.requestStateChange s false).1 =
      if s ≠ .ABORT ∧ isValidTransition w.currentState s = false then
        .failure ("Invalid transition from " ++ stateToString w.currentState ++ " to " ++ stateToString s)
      else .success := by
  by_cases ha : s = .ABORT
  · simp [requestStateChange, ha]
  cases hv : isValidTransition w.currentState s
  · simp [requestStateChange, ha, hv]
  · cases s <;> simp_all [requestStateChange, processTurnOn, processLaunch, setLaunchedTrue]

/-! ### The launch notification -/

theorem setState_launchStatus (w : Weapon) (s : WpnCtrlState) (b : Bool) :
    Note.launchStatus b ∉ (w.setState s).2 := by
  unfold setState; split_ifs <;> simp

/-- **`m_launched` changes only with its notification**: after a call the
flag is set exactly when it was set before or the call sent the launch
notification. -/
theorem requestStateChange_launched (w : Weapon) (s : WpnCtrlState) (c : Bool) :
    (w.requestStateChange s c).2.1.launched =
      (w.launched || decide (Note.launchStatus true ∈ (w.requestStateChange s c).2.2)) := by
  unfold requestStateChange
  split_ifs
  · simp [setState_launchStatus]
  · simp
  · split
    · simp [setState_launchStatus]
    · unfold processTurnOn; split_ifs <;> simp [setState_launchStatus]
    · unfold processLaunch setLaunchedTrue
      split_ifs <;> cases hl : w.launched <;> simp [hl, setState_launchStatus]
    · simp [setState_launchStatus]

/-- The automatic transitions send state changes only. -/
theorem update_launchStatus (w : Weapon) (b : Bool) : Note.launchStatus b ∉ w.update.2 := by
  unfold update
  split_ifs
  · exact setState_launchStatus _ _ _
  · exact setState_launchStatus _ _ _
  · simp

end Weapon

/-- The calls that change a weapon, one at a time; `cancelled` as for
`Weapon.requestStateChange`. -/
inductive WeaponOp where
  | requestStateChange (newState : WpnCtrlState) (cancelled : Bool)
  | update
  | setFireSolutionReady (ready : Bool)
  | reset
  | init (tubeNumber : ℕ)

namespace Weapon

/-- The weapon after one call. -/
def apply (w : Weapon) : WeaponOp → Weapon
  | .requestStateChange s c => (w.requestStateChange s c).2.1
  | .update => w.update.1
  | .setFireSolutionReady b => w.setFireSolutionReady b
  | .reset => w.reset
  | .init n => w.init n

/-- The weapon after a sequence of calls. -/
def run (w : Weapon) (ops : List WeaponOp) : Weapon := ops.foldl apply w

/-- An ALM on tube 1 is turned on, gets a fire solution, is launched, turned
off and on again, and reaches `RTL` again; nothing resets it. -/
def relaunchOps : List WeaponOp :=
  [.init 1, .requestStateChange .ON false, .setFireSolutionReady true, .update,
    .requestStateChange .LAUNCH false, .requestStateChange .OFF false, .requestStateChange .ON false,
    .update]

/-- The second launch, with no cancellation, returns success and leaves the
weapon in `LAUNCH`: `m_launched` is still set from the first, so
`setLaunched(true)` changes nothing and `POST_LAUNCH` is never entered. -/
theorem second_launch_stays_in_LAUNCH :
    ((create .ALM 3).run relaunchOps).currentState = .RTL ∧
      ((create .ALM 3).run relaunchOps).launched = true ∧
      ((create .ALM 3).run relaunchOps).requestStateChange .LAUNCH false =
        (.success, { (create .ALM 3).run relaunchOps with currentState := .LAUNCH },
          [.stateChanged .RTL .LAUNCH]) := by
  decide

end Weapon

end WeaponControl
