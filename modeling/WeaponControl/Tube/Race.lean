import WeaponControl.Tube.Assignment

/-!
# Two commands on one tube: `LaunchTubeManager::assignWeapon` and `unassignWeapon`, step by step

`LaunchTubeManager::assignWeapon` (`Core/Service/WeaponControlService.h`,
lines 182-231) looks the tube up under a shared lock of `m_tubesMutex`
(`getValidatedTube`, lines 530-538), lets the lock go, checks `hasWeapon()`
(line 188), builds the pair, and calls `LaunchTube::assignWeapon`
(`Core/LaunchTube/LaunchTube.h`, lines 127-179), which checks `hasWeapon()`
again (line 132) and only then writes `m_weapon`, `m_engagementMgr` and
`m_assignmentInfo` (lines 141-143).  `LaunchTube` has no lock of its own, and
nothing holds `m_tubesMutex` across a check and the writes after it.

This file cuts both commands into their atomic steps and lets any schedule
interleave them.

* The memory `Shared` is the manager (its tubes, environment and callback
  log) and `m_tubesMutex`, as the threads holding it shared and the one holding
  it exclusively.
* Each `hasWeapon()` check, each field write of `LaunchTube::assignWeapon` and
  of `clearAssignment` (lines 191-193), and each call of the assignment-change
  callback is one step.  Lines 146-173 (initialize both objects, register the
  tube, the kind-specific setup) are one step on the fields as they are when it
  runs, and so is the environment push of lines 207-220 under the shared
  `m_environmentMutex`, which no modelled call takes exclusively.  Coarser steps
  only remove schedules, so every run here is a run of the code.
* A step that dereferences a null `m_weapon` or `m_engagementMgr` ends the
  thread in `crashed`.
* The object resets of lines 183-188 act on the weapon and planner the tube
  drops three steps later; like `LaunchTube.clearAssignment`, the model leaves
  them out.

Run alone, each command does what the sequential model of `Tube.Manager`
says, and commands run one at a time refine it, releasing the lock
(`run_alone`, `run_serial`); the lock is held only between the lookup and the
fetch of the pointer, so two assignments whose checks both run before either
writes both succeed (`concurrent_assignments_both_succeed`).
-/

namespace WeaponControl

namespace TubeRace

/-- `m_tubesMutex`, a `std::shared_mutex`: the threads holding it shared and
the thread holding it exclusively. -/
structure SharedMutex where
  readers : List ℕ := []
  writer : Option ℕ := none

/-- A `shared_lock` taken by thread `th`. -/
def SharedMutex.lockShared (l : SharedMutex) (th : ℕ) : SharedMutex :=
  { l with readers := th :: l.readers }

/-- The `shared_lock` of thread `th` released. -/
def SharedMutex.unlockShared (l : SharedMutex) (th : ℕ) : SharedMutex :=
  { l with readers := l.readers.erase th }

@[simp] theorem SharedMutex.unlockShared_lockShared (l : SharedMutex) (th : ℕ) :
    (l.lockShared th).unlockShared th = l := by
  simp [SharedMutex.lockShared, SharedMutex.unlockShared]

/-- What the command threads share. -/
structure Shared where
  mgr : LaunchTubeManager
  tubesMutex : SharedMutex

namespace Shared

/-- The tube object behind `m_launchTubes[n]`.  A thread only reads it after
`getValidatedTube` returned a pointer, and no modelled call replaces a tube,
so the default never shows. -/
def tube (s : Shared) (n : ℕ) : LaunchTube := (s.mgr.launchTubes n).getD (LaunchTube.create n)

/-- A write into the tube object `n`. -/
def setTube (s : Shared) (n : ℕ) (t : LaunchTube) : Shared := { s with mgr := s.mgr.setTube n t }

@[simp] theorem setTube_tubesMutex (s : Shared) (n : ℕ) (t : LaunchTube) :
    (s.setTube n t).tubesMutex = s.tubesMutex := rfl

@[simp] theorem tube_setTube (s : Shared) (n : ℕ) (t : LaunchTube) : (s.setTube n t).tube n = t := by
  simp [tube, setTube]

@[simp] theorem setTube_setTube (s : Shared) (n : ℕ) (t t' : LaunchTube) :
    (s.setTube n t).setTube n t' = s.setTube n t' := by
  simp [setTube, LaunchTubeManager.setTube]

@[simp] theorem setTube_mgr (s : Shared) (n : ℕ) (t : LaunchTube) :
    (s.setTube n t).mgr = s.mgr.setTube n t := rfl

theorem tube_of_eq {s : Shared} {n : ℕ} {t : LaunchTube} (h : s.mgr.launchTubes n = some t) :
    s.tube n = t := by
  simp [tube, h]

end Shared

/-- The two commands a thread can issue on the manager. -/
inductive Call where
  | assignWeapon (req : WeaponAssignmentRequest) (launchDelay now : ℚ)
  | unassignWeapon (tubeNumber : ℕ)

/-- The tube a command names. -/
def Call.tubeNumber : Call → ℕ
  | .assignWeapon req _ _ => req.tubeNumber
  | .unassignWeapon n => n

/-- What a command does once `clearAssignment()` has returned: `return
setupResult` in `LaunchTube::assignWeapon` (line 171), or the callback of
`unassignWeapon` (lines 247-249). -/
inductive AfterClear where
  | ret (r : Result)
  | notify (kind : WpnKind)

/-- Where a thread stands inside a command. -/
inductive Pc where
  | idle
  /-- `getValidatedTube(n)`: `isValidTubeNumber`, then the `shared_lock` of
  line 536. -/
  | lookup (c : Call)
  /-- `return m_launchTubes[n]`, and the lock's release. -/
  | fetch (c : Call)
  /-- `if (tube->hasWeapon())`, line 188, then `createWeaponAndManager`. -/
  | checkFree (req : WeaponAssignmentRequest) (launchDelay now : ℚ)
  /-- The checks of `LaunchTube::assignWeapon`, lines 128-139, among them
  `hasWeapon()` at line 132. -/
  | tubeChecks (req : WeaponAssignmentRequest) (w : Weapon) (m : EngagementManager)
  /-- `m_weapon = std::move(weapon)`, line 141. -/
  | writeWeapon (req : WeaponAssignmentRequest) (w : Weapon) (m : EngagementManager)
  /-- `m_engagementMgr = std::move(engagementMgr)`, line 142. -/
  | writeManager (req : WeaponAssignmentRequest) (m : EngagementManager)
  /-- `m_assignmentInfo = assignmentInfo`, line 143. -/
  | writeInfo (req : WeaponAssignmentRequest)
  /-- Lines 146-173: initialization, registration and kind-specific setup. -/
  | setup (req : WeaponAssignmentRequest)
  /-- The environment push, lines 207-220. -/
  | pushEnvironment (req : WeaponAssignmentRequest)
  /-- `m_assignmentChangeCallback(tubeNumber, weaponKind, assigned)`, then
  `return success`. -/
  | notify (n : ℕ) (kind : WpnKind) (assigned : Bool)
  /-- `if (!tube->hasWeapon())`, line 239. -/
  | checkAssigned (n : ℕ)
  /-- `tube->getWeapon()->getWeaponKind()`, line 243. -/
  | readKind (n : ℕ)
  /-- `clearAssignment()`: `m_weapon.reset()`, line 191, then `k`. -/
  | clearWeapon (n : ℕ) (k : AfterClear)
  /-- `m_engagementMgr.reset()`, line 192. -/
  | clearManager (n : ℕ) (k : AfterClear)
  /-- `m_assignmentInfo = AssignmentInfo()`, line 193. -/
  | clearInfo (n : ℕ) (k : AfterClear)
  /-- A null pointer was dereferenced. -/
  | crashed
  | done (r : Result)

/-- Where a thread goes once `clearAssignment()` of tube `n` has returned. -/
def AfterClear.next (n : ℕ) : AfterClear → Pc
  | .ret r => .done r
  | .notify kind => .notify n kind false

/-- Where a command goes once it holds the tube's pointer. -/
def Call.body : Call → Pc
  | .assignWeapon req d now => .checkFree req d now
  | .unassignWeapon n => .checkAssigned n

section Planning

variable [SGeodeticToST3D]

@[simp] theorem pushEnvironment_setTube (mgr : LaunchTubeManager) (n : ℕ) (t t' : LaunchTube) (id : ℕ) :
    (mgr.setTube n t).pushEnvironment t' id = mgr.pushEnvironment t' id := rfl

/-- Lines 146-173 of `LaunchTube::assignWeapon` on the fields the tube holds
when they run: `m_weapon->initialize`, `m_engagementMgr->initialize` with the
caller's kind, `addStateObserver`, then the setup the caller's kind selects
(line 164), which reads `m_assignmentInfo`. -/
def setupFields (t : LaunchTube) (w : Weapon) (m : EngagementManager) (kind : WpnKind) :
    Result × LaunchTube :=
  let t₁ := { t with
    weapon := some ((w.init t.tubeNumber).addStateObserver t.tubeNumber),
    engagementMgr := some (m.init t.tubeNumber kind).2 }
  if kind = .M_MINE then t₁.setupMineSpecificAssignment else t₁.setupMissileSpecificAssignment

/-- One atomic step of thread `th` at `pc`; `none` when it cannot move (blocked
on `m_tubesMutex`, or not inside a command). -/
def step (s : Shared) (th : ℕ) : Pc → Option (Shared × Pc)
  | .idle => none
  | .crashed => none
  | .done _ => none
  | .lookup c =>
    if !s.mgr.isValidTubeNumber c.tubeNumber then
      some (s, .done (.failure ("Invalid tube number: " ++ toString c.tubeNumber)))
    else if s.tubesMutex.writer = none then
      some ({ s with tubesMutex := s.tubesMutex.lockShared th }, .fetch c)
    else none
  | .fetch c =>
    let s' := { s with tubesMutex := s.tubesMutex.unlockShared th }
    match s.mgr.launchTubes c.tubeNumber with
    | none => some (s', .done (.failure ("Invalid tube number: " ++ toString c.tubeNumber)))
    | some _ => some (s', c.body)
  | .checkFree req d now =>
    if (s.tube req.tubeNumber).hasWeapon then
      some (s, .done (.failure ("Tube " ++ toString req.tubeNumber ++ " already assigned")))
    else
      match createWeaponAndManager req.weaponKind d now with
      | .error e => some (s, .done (.failure ("Failed to create weapon: " ++ e)))
      | .ok (w, m) => some (s, .tubeChecks req w m)
  | .tubeChecks req w m =>
    let t := s.tube req.tubeNumber
    if t.hasWeapon then
      some (s, .done (.failure ("Tube " ++ toString t.tubeNumber ++ " already has assigned weapon")))
    else if req.assignmentInfo.tubeNumber ≠ t.tubeNumber then
      some (s, .done (.failure "Assignment info tube number mismatch"))
    else some (s, .writeWeapon req w m)
  | .writeWeapon req w m =>
    some (s.setTube req.tubeNumber { s.tube req.tubeNumber with weapon := some w }, .writeManager req m)
  | .writeManager req m =>
    some (s.setTube req.tubeNumber { s.tube req.tubeNumber with engagementMgr := some m }, .writeInfo req)
  | .writeInfo req =>
    some (s.setTube req.tubeNumber { s.tube req.tubeNumber with assignmentInfo := req.assignmentInfo },
      .setup req)
  | .setup req =>
    let t := s.tube req.tubeNumber
    match t.weapon, t.engagementMgr with
    | some w, some m =>
      match setupFields t w m req.assignmentInfo.weaponKind with
      | (.success, t₂) => some (s.setTube req.tubeNumber t₂, .pushEnvironment req)
      | (r, t₂) => some (s.setTube req.tubeNumber t₂, .clearWeapon req.tubeNumber (.ret r))
    | _, _ => some (s, .crashed)
  | .pushEnvironment req =>
    some (s.setTube req.tubeNumber
        (s.mgr.pushEnvironment (s.tube req.tubeNumber) req.assignmentInfo.systemTargetId),
      .notify req.tubeNumber req.weaponKind true)
  | .notify n kind b => some ({ s with mgr := s.mgr.notifyAssignment n kind b }, .done .success)
  | .checkAssigned n =>
    if !(s.tube n).hasWeapon then
      some (s, .done (.failure ("Tube " ++ toString n ++ " is not assigned")))
    else some (s, .readKind n)
  | .readKind n =>
    match (s.tube n).weapon with
    | some w => some (s, .clearWeapon n (.notify w.weaponKind))
    | none => some (s, .crashed)
  | .clearWeapon n k => some (s.setTube n { s.tube n with weapon := none }, .clearManager n k)
  | .clearManager n k => some (s.setTube n { s.tube n with engagementMgr := none }, .clearInfo n k)
  | .clearInfo n k => some (s.setTube n { s.tube n with assignmentInfo := {} }, k.next n)

end Planning

/-- The memory and every thread's position. -/
structure Config where
  mem : Shared
  pc : ℕ → Pc

/-- One scheduling decision: thread `th` takes a step, or issues a command. -/
inductive Event where
  | step (th : ℕ)
  | call (th : ℕ) (c : Call)

/-- A thread between commands. -/
def Pc.isFree : Pc → Bool
  | .idle => true
  | .done _ => true
  | _ => false

section Planning

variable [SGeodeticToST3D]

/-- Apply one event; a step that cannot be taken and a command on a busy
thread leave the configuration as it is, so every list of events is a
schedule. -/
def Config.next (c : Config) : Event → Config
  | .step th =>
    match step c.mem th (c.pc th) with
    | some (m, p) => { mem := m, pc := Function.update c.pc th p }
    | none => c
  | .call th k => if (c.pc th).isFree then { c with pc := Function.update c.pc th (.lookup k) } else c

/-- Run a schedule. -/
def Config.run (c : Config) (es : List Event) : Config := es.foldl Config.next c

@[simp] theorem Config.run_nil (c : Config) : c.run [] = c := rfl
@[simp] theorem Config.run_cons (c : Config) (e : Event) (es : List Event) :
    c.run (e :: es) = (c.next e).run es := rfl
theorem Config.run_append (c : Config) (es es' : List Event) :
    c.run (es ++ es') = (c.run es).run es' := List.foldl_append _ _ _ _

/-- Thread `th` alone for `k` steps from memory `s` at `p`: the memory it
leaves and where it stands. -/
def runAlone (th : ℕ) : ℕ → Shared → Pc → Shared × Pc
  | 0, s, p => (s, p)
  | k + 1, s, p =>
    match step s th p with
    | some (s', p') => runAlone th k s' p'
    | none => (s, p)

theorem runAlone_of_stuck {th k : ℕ} {s : Shared} {p : Pc} (h : step s th p = none) :
    runAlone th k s p = (s, p) := by
  cases k <;> simp [runAlone, h]

theorem Config.run_steps (c : Config) (th k : ℕ) :
    c.run (List.replicate k (.step th)) =
      ⟨(runAlone th k c.mem (c.pc th)).1, Function.update c.pc th (runAlone th k c.mem (c.pc th)).2⟩ := by
  induction k generalizing c with
  | zero => cases c; simp [runAlone]
  | succ k ih =>
    rw [List.replicate_succ, Config.run_cons, ih]
    rcases h : step c.mem th (c.pc th) with _ | ⟨s', p'⟩
    · simp [Config.next, h, runAlone, runAlone_of_stuck h]
    · simp [Config.next, h, runAlone]

/-- Run alone, the setup step is the setup of `LaunchTube.assignWeapon`. -/
theorem setupFields_install (t : LaunchTube) (w : Weapon) (m : EngagementManager) (info : AssignmentInfo) :
    setupFields { t with weapon := some w, engagementMgr := some m, assignmentInfo := info } w m
      info.weaponKind = (t.install w m info).setupSpecificAssignment := rfl

/-- `assignWeapon` run alone from its first step. -/
theorem runAlone_assignWeapon (th : ℕ) (s : Shared) (req : WeaponAssignmentRequest) (d now : ℚ)
    (hw : s.tubesMutex.writer = none) :
    runAlone th 11 s (.lookup (.assignWeapon req d now)) =
      (⟨(s.mgr.assignWeapon req d now).2, s.tubesMutex⟩, .done (s.mgr.assignWeapon req d now).1) := by
  unfold LaunchTubeManager.assignWeapon LaunchTubeManager.getValidatedTube
  by_cases hv : s.mgr.isValidTubeNumber req.tubeNumber
  swap
  · simp [runAlone, step, Call.tubeNumber, hv]
  rcases ht : s.mgr.launchTubes req.tubeNumber with _ | tube
  · simp [runAlone, step, Call.tubeNumber, hv, hw, ht]
  have htube : s.tube req.tubeNumber = tube := Shared.tube_of_eq ht
  by_cases hf : tube.hasWeapon
  · simp [runAlone, step, Call.tubeNumber, Call.body, hv, hw, ht, htube, hf]
  rcases hc : createWeaponAndManager req.weaponKind d now with e | ⟨w, m⟩
  · simp [runAlone, step, Call.tubeNumber, Call.body, hv, hw, ht, htube, hf, hc]
  by_cases hi : req.assignmentInfo.tubeNumber = tube.tubeNumber
  swap
  · simp [runAlone, step, Call.tubeNumber, Call.body, hv, hw, ht, htube, hf, hc, hi,
      LaunchTube.assignWeapon, LaunchTubeManager.setTube_self ht]
  have hfree : tube.hasWeapon = false := by simpa using hf
  rcases hs : (tube.install w m req.assignmentInfo).setupSpecificAssignment with ⟨_ | e, t₂⟩
  · simp [runAlone, step, Call.tubeNumber, Call.body, hv, hw, ht, htube, hfree, hc, hi,
      LaunchTube.assignWeapon, setupFields_install, hs]
  · simp [runAlone, step, Call.tubeNumber, Call.body, hv, hw, ht, htube, hfree, hc, hi,
      LaunchTube.assignWeapon, setupFields_install, hs, AfterClear.next]
    rfl
/-- `unassignWeapon` run alone from its first step. -/
theorem runAlone_unassignWeapon (th : ℕ) (s : Shared) (n : ℕ) (hw : s.tubesMutex.writer = none) :
    runAlone th 11 s (.lookup (.unassignWeapon n)) =
      (⟨(s.mgr.unassignWeapon n).2, s.tubesMutex⟩, .done (s.mgr.unassignWeapon n).1) := by
  unfold LaunchTubeManager.unassignWeapon LaunchTubeManager.getValidatedTube
  by_cases hv : s.mgr.isValidTubeNumber n
  swap
  · simp [runAlone, step, Call.tubeNumber, hv]
  rcases ht : s.mgr.launchTubes n with _ | tube
  · simp [runAlone, step, Call.tubeNumber, hv, hw, ht]
  have htube : s.tube n = tube := Shared.tube_of_eq ht
  rcases hwp : tube.weapon with _ | w
  · simp [runAlone, step, Call.tubeNumber, Call.body, hv, hw, ht, htube, hwp, LaunchTube.hasWeapon]
  · simp [runAlone, step, Call.tubeNumber, Call.body, hv, hw, ht, htube, hwp, LaunchTube.hasWeapon,
      AfterClear.next]
    rfl

/-- The manager operation of `Tube.Manager` a command is. -/
def Call.toOp : Call → ManagerOp
  | .assignWeapon req d now => .assignWeapon req d now
  | .unassignWeapon n => .unassignWeapon n

/-- What the sequential model of the command returns. -/
def Call.result (mgr : LaunchTubeManager) : Call → Result
  | .assignWeapon req d now => (mgr.assignWeapon req d now).1
  | .unassignWeapon n => (mgr.unassignWeapon n).1

theorem runAlone_call (th : ℕ) (s : Shared) (k : Call) (hw : s.tubesMutex.writer = none) :
    runAlone th 11 s (.lookup k) = (⟨s.mgr.apply k.toOp, s.tubesMutex⟩, .done (k.result s.mgr)) := by
  cases k with
  | assignWeapon req d now => exact runAlone_assignWeapon th s req d now hw
  | unassignWeapon n => exact runAlone_unassignWeapon th s n hw

end Planning

/-- An ALM for tube 1, under a record that says ALM. -/
def almRequest : WeaponAssignmentRequest :=
  { tubeNumber := 1, weaponKind := .ALM, assignmentInfo := { tubeNumber := 1, weaponKind := .ALM } }

/-- An ASM for tube 1, under a record that says ASM. -/
def asmRequest : WeaponAssignmentRequest :=
  { tubeNumber := 1, weaponKind := .ASM, assignmentInfo := { tubeNumber := 1, weaponKind := .ASM } }

/-- A fresh six-tube manager with an assignment-change callback, no thread
inside a command. -/
def freshConfig : Config :=
  ⟨⟨((LaunchTubeManager.create 6 6).init.2).setAssignmentChangeCallback true, {}⟩, fun _ => .idle⟩

/-- Thread `th` issues `k` and takes the steps to run it to its end. -/
def alone (th : ℕ) (k : Call) : List Event := .call th k :: List.replicate 11 (.step th)

/-- Commands issued one after another, each run to its end before the next. -/
def serial (cmds : List (ℕ × Call)) : List Event := cmds.flatMap fun x => alone x.1 x.2

section Planning

variable [SGeodeticToST3D]

/-- **A command that runs alone does what the sequential model says**, and no
other thread moves. -/
theorem run_alone (c : Config) (th : ℕ) (k : Call) (hfree : (c.pc th).isFree = true)
    (hw : c.mem.tubesMutex.writer = none) :
    c.run (alone th k) =
      ⟨⟨c.mem.mgr.apply k.toOp, c.mem.tubesMutex⟩, Function.update c.pc th (.done (k.result c.mem.mgr))⟩ := by
  rw [alone, Config.run_cons]
  simp only [Config.next, hfree, if_true]
  rw [Config.run_steps]
  simp [runAlone_call _ _ _ hw]

/-- **Serial schedules refine the sequential model**: commands run one at a
time leave the manager the sequential model computes, `m_tubesMutex` as it
was before them, so free again when it was free, and every thread between
commands. -/
theorem run_serial (c : Config) (hfree : ∀ th, (c.pc th).isFree = true)
    (hw : c.mem.tubesMutex.writer = none) (cmds : List (ℕ × Call)) :
    (c.run (serial cmds)).mem = ⟨c.mem.mgr.run (cmds.map (·.2.toOp)), c.mem.tubesMutex⟩ ∧
      ∀ th, ((c.run (serial cmds)).pc th).isFree = true := by
  induction cmds generalizing c with
  | nil => exact ⟨rfl, hfree⟩
  | cons x xs ih =>
    have hfree' : ∀ th, (Function.update c.pc x.1 (.done (x.2.result c.mem.mgr)) th).isFree := by
      intro th
      rcases eq_or_ne th x.1 with rfl | h
      · simp [Pc.isFree]
      · simp [h, hfree]
    rw [serial, List.flatMap_cons, Config.run_append, run_alone c x.1 x.2 (hfree x.1) hw]
    exact ih _ hfree' hw

end Planning

/-- An ALM assigned to tube 1 of the fresh manager and unassigned again, one
command after the other: the lock ends free. -/
theorem run_serial_fresh :
    (∀ th, (freshConfig.pc th).isFree = true) ∧ freshConfig.mem.tubesMutex.writer = none ∧
      (@Config.run SGeodeticToST3D.byFields freshConfig
          (serial [(0, .assignWeapon almRequest 3 0), (1, .unassignWeapon 1)])).mem =
        ⟨@LaunchTubeManager.run SGeodeticToST3D.byFields freshConfig.mem.mgr
          ([(0, Call.assignWeapon almRequest 3 0), (1, Call.unassignWeapon 1)].map (·.2.toOp)), {}⟩ ∧
      ∀ th, ((@Config.run SGeodeticToST3D.byFields freshConfig
          (serial [(0, .assignWeapon almRequest 3 0), (1, .unassignWeapon 1)])).pc th).isFree = true :=
  ⟨fun _ => rfl, rfl, @run_serial SGeodeticToST3D.byFields freshConfig (fun _ => rfl) rfl _⟩

section Planning

variable [SGeodeticToST3D]

/-- Thread 2 assigns an ALM to tube 1 and unassigns it, each alone.  Threads 0
(ALM) and 1 (ASM) then each pass both `hasWeapon()` checks before either
writes, and run to their ends, 0 first. -/
def raced : Config :=
  freshConfig.run
    (alone 2 (.assignWeapon almRequest 3 0) ++ alone 2 (.unassignWeapon 1) ++
      [.call 0 (.assignWeapon almRequest 3 0), .call 1 (.assignWeapon asmRequest 3 0)] ++
      List.replicate 4 (.step 0) ++ List.replicate 4 (.step 1) ++
      List.replicate 6 (.step 0) ++ List.replicate 6 (.step 1))

/-- Thread 2 then unassigns tube 1 again, alone. -/
def racedThenCleared : Config := raced.run (alone 2 (.unassignWeapon 1))

end Planning

/-- Both assignments succeed between two successful unassignments, the tube
holds the second caller's ASM although the first caller's ALM assignment
reported success, and the callback reports two assignments in a row. -/
theorem concurrent_assignments_both_succeed :
    (@raced SGeodeticToST3D.byFields).pc 0 = .done .success ∧
      (@raced SGeodeticToST3D.byFields).pc 1 = .done .success ∧
      ((@raced SGeodeticToST3D.byFields).mem.tube 1).weapon.map Weapon.weaponKind = some .ASM ∧
      (@racedThenCleared SGeodeticToST3D.byFields).pc 2 = .done .success ∧
      (@racedThenCleared SGeodeticToST3D.byFields).mem.mgr.assignmentChanges =
        [(1, .ALM, true), (1, .ALM, false), (1, .ALM, true), (1, .ASM, true), (1, .ASM, false)] :=
  ⟨rfl, rfl, rfl, rfl, rfl⟩

end TubeRace

end WeaponControl
