import WeaponControl.Types
import Mathlib.Data.Rat.Floor

/-!
# The weapon object: `Core/Weapons/WeaponBase.cpp`, `IWeapon.h`

The fields of `WeaponBase` that any modelled function reads, the default
transition table `s_defaultTransitionMap`, and the four concrete weapons of the
factory (`unnamed/part_001`, `ALMWeapon` … `MineWeapon`), which differ only in
their kind: each sets `m_onDelay` to the configured `DefaultLaunchDelay` and
three launch steps of `1.0f` seconds.

A sleep `sleepWithCancellationCheck(duration, token)` polls the tokens
`static_cast<int>(duration * 1000 / 50)` times, one poll per 50 ms slice;
`sleepIntervals` is that count.  Wall-clock time itself is not modelled: a
sleep is its polls.  The step descriptions and `m_stateStartTime` are only
printed or stamped, and are left out.
-/

namespace WeaponControl

/-- The rows of `s_defaultTransitionMap`: the targets `requestStateChange`
accepts from each state.  `POC` has no row, so `find` misses and nothing is
accepted from it. -/
def sDefaultTransitionMap : WpnCtrlState → List WpnCtrlState
  | .OFF => [.ON]
  | .ON => [.OFF]
  | .RTL => [.LAUNCH, .OFF]
  | .LAUNCH => [.ABORT]
  | .ABORT => [.OFF]
  | .POST_LAUNCH => [.OFF]
  | .POC => []

/-- `WeaponBase::isValidTransition`: `it != end() && it->second.count(to) > 0`. -/
def isValidTransition (fromState toState : WpnCtrlState) : Bool :=
  toState ∈ sDefaultTransitionMap fromState

/-- `static_cast<int>(duration * 1000 / interval_ms)` with `interval_ms = 50`:
the number of polls of `sleepWithCancellationCheck`.  A negative count runs the
loop zero times, which `Int.toNat` reproduces. -/
def sleepIntervals (duration : ℚ) : ℕ := ⌊duration * 1000 / 50⌋.toNat

/-- The observer notifications `WeaponBase` sends: `notifyStateChanged` after a
change of `m_currentState`, `notifyLaunchStatusChanged` after a change of
`m_launched`. -/
inductive Note where
  | stateChanged (oldState newState : WpnCtrlState)
  | launchStatus (launched : Bool)
  deriving DecidableEq, Repr

/-- The `WeaponBase` object.  `observers` holds the tube numbers of the
registered `LaunchTube` observers (`m_observers`, weak pointers in the code). -/
structure Weapon where
  weaponKind : WpnKind
  tubeNumber : ℕ
  currentState : WpnCtrlState
  launched : Bool
  fireSolutionReady : Bool
  launchSteps : List ℚ
  onDelay : ℚ
  observers : List ℕ
  deriving DecidableEq, Repr

/-- `WeaponBase(weaponKind)` as the concrete weapons construct it: tube `0`,
`OFF`, not launched, no fire solution, `m_onDelay` the configured
`DefaultLaunchDelay`, and three steps of `1.0f` seconds. -/
def Weapon.create (kind : WpnKind) (defaultLaunchDelay : ℚ) : Weapon :=
  { weaponKind := kind, tubeNumber := 0, currentState := .OFF, launched := false,
    fireSolutionReady := false, launchSteps := [1, 1, 1], onDelay := defaultLaunchDelay,
    observers := [] }

/-- `WeaponBase::checkInterlockConditions`, which `MineWeapon` overrides with
the same body. -/
def Weapon.checkInterlockConditions (w : Weapon) : Bool := w.fireSolutionReady

/-- `WeaponBase::setFireSolutionReady`. -/
def Weapon.setFireSolutionReady (w : Weapon) (ready : Bool) : Weapon :=
  { w with fireSolutionReady := ready }

/-- `WeaponBase::addStateObserver`. -/
def Weapon.addStateObserver (w : Weapon) (obs : ℕ) : Weapon :=
  { w with observers := w.observers ++ [obs] }

/-- `WeaponBase::removeStateObserver`: erase every registration of `obs`. -/
def Weapon.removeStateObserver (w : Weapon) (obs : ℕ) : Weapon :=
  { w with observers := w.observers.filter (· ≠ obs) }

/-- `WeaponBase::reset`, its four stores in one: `OFF`, not launched, no fire
solution.  (The cancel of `m_currentCancellationToken` touches only the token,
which the thread model of `Weapon.Threads` carries.) -/
def Weapon.reset (w : Weapon) : Weapon :=
  { w with currentState := .OFF, launched := false, fireSolutionReady := false }

/-- `WeaponBase::initialize(tubeNumber)`: record the tube, then `reset()`. -/
def Weapon.init (w : Weapon) (tubeNumber : ℕ) : Weapon :=
  { w with tubeNumber := tubeNumber }.reset

@[simp] theorem Weapon.reset_currentState (w : Weapon) : w.reset.currentState = .OFF := rfl
@[simp] theorem Weapon.reset_launched (w : Weapon) : w.reset.launched = false := rfl
@[simp] theorem Weapon.reset_fireSolutionReady (w : Weapon) :
    w.reset.fireSolutionReady = false := rfl
@[simp] theorem Weapon.reset_weaponKind (w : Weapon) : w.reset.weaponKind = w.weaponKind := rfl
@[simp] theorem Weapon.reset_tubeNumber (w : Weapon) : w.reset.tubeNumber = w.tubeNumber := rfl
@[simp] theorem Weapon.reset_observers (w : Weapon) : w.reset.observers = w.observers := rfl

/-- The three `1.0f` second steps poll twenty times each. -/
example : sleepIntervals 1 = 20 ∧ sleepIntervals 3 = 60 := by
  norm_num [sleepIntervals]; exact ⟨rfl, rfl⟩

end WeaponControl
