import Mathlib.Data.List.Basic
import WeaponControl.Tube.Assignment

/-!
# The environment every assigned planner holds

`LaunchTubeManager` caches the axis center, the own ship and the latest track
of every system target, pushes all three to a tube when it is assigned
(`WeaponControlService.h`, lines 207-220), and fans every later update out to
the assigned tubes (lines 351-388); a missile planner takes a track only for
its own system target (`IEngagementManager.h`, lines 455-479).  In every
state that any sequence of the manager's operations reaches, every assigned
tube's planner holds the cached axis center and own ship, and a missile
planner whose system target has a cached track holds that track's position as
a valid target (`environment_coherent_of_run`).

The fan-out loops `forAssigned` and `callAssigned` visit each assigned tube
once, in order, and write it from its own old value; since `getAssignedTubes`
lists each number once, the loop is the pointwise map over the assigned tubes
(`forAssigned_eq`, `callAssigned_manager`), and every statement about a
fan-out is a statement about one tube.
-/

namespace WeaponControl

namespace LaunchTubeManager

/-! ### The fan-out loops -/

theorem mem_assignedTubes {mgr : LaunchTubeManager} {i : ℕ} :
    i ∈ mgr.assignedTubes ↔
      mgr.isValidTubeNumber i = true ∧ (mgr.launchTubes i).any LaunchTube.hasWeapon = true := by
  simp only [assignedTubes, List.mem_filter, List.mem_range'_1, isValidTubeNumber, decide_eq_true_eq]
  constructor <;> rintro ⟨⟨h1, h2⟩, h3⟩ <;> exact ⟨⟨h1, by omega⟩, h3⟩

/-- An assigned tube holds a weapon. -/
theorem exists_weapon_of_mem_assignedTubes {mgr : LaunchTubeManager} {i : ℕ} {t : LaunchTube}
    (hi : i ∈ mgr.assignedTubes) (ht : mgr.launchTubes i = some t) : ∃ w, t.weapon = some w :=
  Option.isSome_iff_exists.1 (by simpa [ht, LaunchTube.hasWeapon] using (mem_assignedTubes.1 hi).2)

theorem assignedTubes_nodup (mgr : LaunchTubeManager) : mgr.assignedTubes.Nodup :=
  (List.nodup_range' _ _).filter _

/-- One turn of a fan-out loop: tube `i`, if there is one, replaced by its
image. -/
def fanOut (f : LaunchTube → LaunchTube) (mgr : LaunchTubeManager) (i : ℕ) : LaunchTubeManager :=
  { mgr with launchTubes := Function.update mgr.launchTubes i ((mgr.launchTubes i).map f) }

/-- Over a list without repetition, the turns of a fan-out map each listed
tube once. -/
theorem foldl_fanOut (f : LaunchTube → LaunchTube) :
    ∀ (L : List ℕ) (mgr : LaunchTubeManager), L.Nodup →
      L.foldl (fanOut f) mgr =
        { mgr with
          launchTubes := fun j => if j ∈ L then (mgr.launchTubes j).map f else mgr.launchTubes j }
  | [], mgr, _ => by simp
  | i :: L, mgr, hL => by
    obtain ⟨hi, hL⟩ := List.nodup_cons.1 hL
    rw [List.foldl_cons, foldl_fanOut f L _ hL]
    simp only [fanOut, mk.injEq, and_true]
    funext j
    by_cases hj : j = i
    · subst hj; simp [hi]
    · simp [hj, Function.update_noteq]

/-- **A fan-out is the map over the assigned tubes.** -/
theorem forAssigned_eq (mgr : LaunchTubeManager) (f : LaunchTube → LaunchTube) :
    mgr.forAssigned f =
      { mgr with
        launchTubes := fun j =>
          if j ∈ mgr.assignedTubes then (mgr.launchTubes j).map f else mgr.launchTubes j } := by
  rw [← foldl_fanOut f _ _ mgr.assignedTubes_nodup, forAssigned]
  refine List.foldl_ext _ _ _ fun m i _ => ?_
  split <;> rename_i h
  · simp [fanOut, setTube, h]
  · simp only [fanOut, h, Option.map_none']
    rw [← h, Function.update_eq_self]

/-- A fan-out that keeps whether each tube is assigned keeps the assigned
tubes. -/
theorem assignedTubes_forAssigned (mgr : LaunchTubeManager) {f : LaunchTube → LaunchTube}
    (hf : ∀ t, (f t).hasWeapon = t.hasWeapon) : (mgr.forAssigned f).assignedTubes = mgr.assignedTubes := by
  rw [forAssigned_eq]
  refine List.filter_congr fun j _ => ?_
  dsimp only
  split_ifs <;> cases mgr.launchTubes j <;> simp [hf]

/-- The tubes a loop with results leaves are those of the fan-out of its
call. -/
theorem callAssigned_manager (mgr : LaunchTubeManager) (call : LaunchTube → Result × LaunchTube) :
    (mgr.callAssigned call).2.2 = mgr.forAssigned fun t => (call t).2 := by
  refine (List.foldl_hom (fun acc : Bool × String × LaunchTubeManager => acc.2.2) _ _ _
    (true, "", mgr) fun acc i => ?_).symm
  dsimp only
  rcases h : acc.2.2.launchTubes i with _ | t
  · rfl
  · rcases hc : call t with ⟨_ | e, t'⟩ <;> simp only [hc]

/-- One turn of a loop with results, as far as the flag `allSuccess` and the
tubes go. -/
def callTurn (call : LaunchTube → Result × LaunchTube) (acc : Bool × LaunchTubeManager) (i : ℕ) :
    Bool × LaunchTubeManager :=
  match acc.2.launchTubes i with
  | none => acc
  | some t => (acc.1 && (call t).1.isSuccess, acc.2.setTube i (call t).2)

/-- Over a list without repetition, the flag stays set exactly when the call
succeeds on every listed tube as it was before the loop. -/
theorem foldl_callTurn (call : LaunchTube → Result × LaunchTube) :
    ∀ (L : List ℕ) (b : Bool) (mgr : LaunchTubeManager), L.Nodup →
      ((L.foldl (callTurn call) (b, mgr)).1 = true ↔
        b = true ∧ ∀ i ∈ L, ∀ t, mgr.launchTubes i = some t → (call t).1 = .success)
  | [], b, mgr, _ => by simp
  | i :: L, b, mgr, hL => by
    obtain ⟨hi, hL⟩ := List.nodup_cons.1 hL
    rw [List.foldl_cons]
    rcases ht : mgr.launchTubes i with _ | t
    · simp [callTurn, ht, foldl_callTurn call L b mgr hL]
    · -- the later turns read the tubes as the loop found them
      have hL' : ∀ j ∈ L, (mgr.setTube i (call t).2).launchTubes j = mgr.launchTubes j := fun j hj => by
        simp [show j ≠ i from fun h => hi (h ▸ hj)]
      have hs : (call t).1.isSuccess = true ↔ (call t).1 = .success := by
        cases (call t).1 <;> simp
      simp only [callTurn, ht, foldl_callTurn call L _ _ hL, Bool.and_eq_true, hs, List.mem_cons,
        forall_eq_or_imp, Option.some.injEq, forall_eq']
      constructor
      · rintro ⟨⟨hb, hc⟩, hall⟩
        exact ⟨hb, hc, fun j hj t' ht' => hall j hj t' ((hL' j hj).trans ht')⟩
      · rintro ⟨hb, hc, hall⟩
        exact ⟨⟨hb, hc⟩, fun j hj t' ht' => hall j hj t' ((hL' j hj).symm.trans ht')⟩

/-- **A loop with results reports success** exactly when the call succeeds on
every assigned tube. -/
theorem callAssigned_allSuccess (mgr : LaunchTubeManager) (call : LaunchTube → Result × LaunchTube) :
    (mgr.callAssigned call).1 = true ↔
      ∀ i ∈ mgr.assignedTubes, ∀ t, mgr.launchTubes i = some t → (call t).1 = .success := by
  have h : (mgr.callAssigned call).1 = (mgr.assignedTubes.foldl (callTurn call) (true, mgr)).1 := by
    refine congrArg Prod.fst (List.foldl_hom (fun acc : Bool × String × LaunchTubeManager => (acc.1, acc.2.2))
      _ (callTurn call) _ (true, "", mgr) fun acc i => ?_).symm
    dsimp only
    rcases h : acc.2.2.launchTubes i with _ | t
    · simp only [callTurn, h]
    · rcases hc : call t with ⟨_ | e, t'⟩ <;> simp [callTurn, h, hc]
  rw [h, foldl_callTurn call _ _ _ mgr.assignedTubes_nodup]
  simp

/-- What the loop appends to `errors` for one tube: nothing on success,
`"Tube " + number + ": " + message + "; "` on failure. -/
def failureNote (call : LaunchTube → Result × LaunchTube) (t : LaunchTube) : String :=
  match (call t).1 with
  | .success => ""
  | .failure e => "Tube " ++ toString t.tubeNumber ++ ": " ++ e ++ "; "

/-- One turn of a loop with results, as far as `errors` and the tubes go. -/
def noteTurn (call : LaunchTube → Result × LaunchTube) (acc : String × LaunchTubeManager) (i : ℕ) :
    String × LaunchTubeManager :=
  match acc.2.launchTubes i with
  | none => acc
  | some t => (acc.1 ++ failureNote call t, acc.2.setTube i (call t).2)

/-- Over a list without repetition, `errors` collects the notes of the tubes
as they were before the loop. -/
theorem foldl_noteTurn (call : LaunchTube → Result × LaunchTube) :
    ∀ (L : List ℕ) (s : String) (mgr : LaunchTubeManager), L.Nodup →
      (L.foldl (noteTurn call) (s, mgr)).1 =
        (L.map fun i => ((mgr.launchTubes i).map (failureNote call)).getD "").foldl (· ++ ·) s
  | [], _, _, _ => rfl
  | i :: L, s, mgr, hL => by
    obtain ⟨hi, hL⟩ := List.nodup_cons.1 hL
    rw [List.foldl_cons, List.map_cons, List.foldl_cons]
    rcases ht : mgr.launchTubes i with _ | t
    · simp only [noteTurn, ht, foldl_noteTurn call L s mgr hL, Option.map_none', Option.getD_none,
        String.append_empty]
    · -- the later turns read the tubes as the loop found them
      have hL' : ∀ j ∈ L, (mgr.setTube i (call t).2).launchTubes j = mgr.launchTubes j := fun j hj => by
        simp [show j ≠ i from fun h => hi (h ▸ hj)]
      simp only [noteTurn, ht, foldl_noteTurn call L _ _ hL, Option.map_some', Option.getD_some]
      exact congrArg (List.foldl _ _) (List.map_congr_left fun j hj => by rw [hL' j hj])

/-- **The `errors` text of a loop with results** lists, in the order of the
assigned tubes, the note of each tube whose call failed. -/
theorem callAssigned_errors (mgr : LaunchTubeManager) (call : LaunchTube → Result × LaunchTube) :
    (mgr.callAssigned call).2.1 =
      String.join (mgr.assignedTubes.map fun i => ((mgr.launchTubes i).map (failureNote call)).getD "") := by
  have h : (mgr.callAssigned call).2.1 = (mgr.assignedTubes.foldl (noteTurn call) ("", mgr)).1 := by
    refine congrArg Prod.fst (List.foldl_hom (fun acc : Bool × String × LaunchTubeManager => acc.2)
      _ (noteTurn call) _ (true, "", mgr) fun acc i => ?_).symm
    dsimp only
    rcases h : acc.2.2.launchTubes i with _ | t
    · simp only [noteTurn, h]
    · rcases hc : call t with ⟨_ | e, t'⟩ <;> simp [noteTurn, failureNote, h, hc, String.append_assoc]
  rw [h, foldl_noteTurn call _ _ _ mgr.assignedTubes_nodup]
  rfl

end LaunchTubeManager

/-! ### What a planner holds of the environment -/

namespace EngagementManager

/-- The fields the environment writes, with the class that decides whether a
track reaches the planner. -/
def env (m : EngagementManager) :
    PlannerClass × GeoPoint2D × NavInfo × ℕ × Bool × SGeodeticPosition :=
  (m.cls, m.axisCenter, m.ownShipInfo, m.systemTargetId, m.hasValidTarget, m.targetPosition)

@[simp] theorem setLaunched_env (m : EngagementManager) (b : Bool) : (m.setLaunched b).env = m.env :=
  rfl

@[simp] theorem update_env (m : EngagementManager) (now : ℚ) : (m.update now).env = m.env := by
  unfold update; split <;> rfl

section Planning

variable [SGeodeticToST3D]

@[simp] theorem calculateEngagementPlan_env (m : EngagementManager) :
    m.calculateEngagementPlan.2.env = m.env := by
  unfold calculateEngagementPlan calculateTrajectory
  split_ifs <;> first | rfl | split <;> rfl

@[simp] theorem updateWaypoints_env (m : EngagementManager) (wps : List WeaponWaypoint) :
    (m.updateWaypoints wps).2.env = m.env := by
  unfold updateWaypoints; split
  · rfl
  · exact calculateEngagementPlan_env _

@[simp] theorem updateDropPlanWaypoints_env (m : EngagementManager) (wps : List WeaponWaypoint) :
    (m.updateDropPlanWaypoints wps).2.env = m.env := by
  unfold updateDropPlanWaypoints; split
  · rfl
  · exact calculateEngagementPlan_env _

end Planning

end EngagementManager

namespace LaunchTube

/-- Whether a tube is assigned, and what its planner holds of the
environment. -/
def envView (t : LaunchTube) :
    Bool × Option (PlannerClass × GeoPoint2D × NavInfo × ℕ × Bool × SGeodeticPosition) :=
  (t.hasWeapon, t.engagementMgr.map EngagementManager.env)

@[simp] theorem receive_envView (t : LaunchTube) (src : ℕ) (n : Note) :
    (t.receive src n).envView = t.envView := by
  cases n <;> simp only [receive] <;> split_ifs <;>
    simp [envView, hasWeapon, Option.map_map, Function.comp_def]

@[simp] theorem deliver_envView (t : LaunchTube) (w : Weapon) (ns : List Note) :
    (t.deliver w ns).envView = t.envView :=
  deliver_eq_of_receive envView receive_envView t w ns

@[simp] theorem requestWeaponStateChange_envView (t : LaunchTube) (s : WpnCtrlState) (c : Bool) :
    (t.requestWeaponStateChange s c).2.envView = t.envView := by
  unfold requestWeaponStateChange
  split
  · rfl
  · rename_i w hw
    simp only [withWeapon, deliver_envView]
    simp [envView, hasWeapon, hw]

theorem advance_envView (t : LaunchTube) (w : Weapon) (now : ℚ) (hw : t.weapon = some w) :
    (t.advance w now).envView = t.envView := by
  have h := deliver_envView { t with weapon := some w.update.1 } w.update.1 w.update.2
  simp only [envView, advance, withWeapon, hasWeapon, Option.map_map, Function.comp_def,
    EngagementManager.update_env, Prod.mk.injEq] at h ⊢
  simp_all

section Planning

variable [SGeodeticToST3D]

@[simp] theorem calculateEngagementPlan_envView (t : LaunchTube) :
    t.calculateEngagementPlan.2.envView = t.envView := by
  rcases calculateEngagementPlan_cases t with ⟨w, m, hw, hm, ⟨-, he⟩ | ⟨-, he⟩⟩ | ⟨-, he⟩ <;>
    rw [he]
  · simp [envView, hasWeapon, hw, hm]
  · simp [envView, withManager, hasWeapon, hm]

@[simp] theorem update_envView (t : LaunchTube) (now : ℚ) : (t.update now).envView = t.envView := by
  unfold update
  split
  · rfl
  · rename_i w hw
    dsimp only
    split_ifs <;> simp [advance_envView t w now hw]

@[simp] theorem updateWaypoints_envView (t : LaunchTube) (wps : List WeaponWaypoint) :
    (t.updateWaypoints wps).2.envView = t.envView := by
  unfold updateWaypoints
  split_ifs
  · rfl
  · split
    · rename_i m hm
      simp [envView, withManager, hasWeapon, (mineManager_eq_some.1 hm).1]
    · rfl
  · split
    · rename_i m hm
      simp [envView, withManager, hasWeapon, (missileManager_eq_some.1 hm).1]
    · rfl

/-- What the tube's `updateTargetInfo` does to its planner: a missile planner
takes the track, a mine planner is left. -/
theorem updateTargetInfo_engagementMgr (t : LaunchTube) (track : TargetTrack) :
    (t.updateTargetInfo track).engagementMgr =
      t.engagementMgr.map fun m => if m.cls = .mine then m else m.updateTargetInfo track := by
  unfold updateTargetInfo
  split
  · rename_i m hm
    obtain ⟨hm, hc⟩ := missileManager_eq_some.1 hm
    simp [withManager, hm, hc]
  · rename_i hm
    rcases he : t.engagementMgr with _ | m
    · rfl
    · have : m.cls = .mine := by
        by_contra hc
        simpa [hm] using missileManager_eq_some.2 ⟨he, hc⟩
      simp [this]

/-- After the kind-specific setup, a planner that had no system target has
none, or the record's. -/
theorem setupSpecificAssignment_systemTargetId (t : LaunchTube)
    (ht : ∀ m, t.engagementMgr = some m → m.systemTargetId = 0) (m' : EngagementManager)
    (hm' : t.setupSpecificAssignment.2.engagementMgr = some m') (hz : m'.systemTargetId ≠ 0) :
    m'.systemTargetId = t.assignmentInfo.systemTargetId := by
  unfold setupSpecificAssignment at hm'
  split_ifs at hm'
  · unfold setupMineSpecificAssignment at hm'
    split at hm'
    · exact absurd (ht m' hm') hz
    · rename_i m hm
      split_ifs at hm'
      · simp only [withManager, EngagementManager.setDropPlan, Option.some.injEq] at hm'
        subst hm'
        exact absurd (ht m (mineManager_eq_some.1 hm).1) hz
      · exact absurd (ht m' hm') hz
  · unfold setupMissileSpecificAssignment at hm'
    split at hm'
    · exact absurd (ht m' hm') hz
    · rename_i m _
      split_ifs at hm'
      · simp only [withManager, EngagementManager.setSystemTarget, Option.some.injEq] at hm'
        subst hm'
        rfl
      · simp only [withManager, EngagementManager.setTargetPosition, Option.some.injEq] at hm'
        subst hm'
        have he := EngagementManager.calculateEngagementPlan_env
          { m with targetPosition := t.assignmentInfo.targetPos, systemTargetId := 0, hasValidTarget := true }
        simp only [EngagementManager.env, Prod.mk.injEq] at he
        exact absurd he.2.2.2.1 hz

end Planning

end LaunchTube

namespace LaunchTubeManager

/-! ### Coherence -/

/-- A missile planner whose system target has a cached track holds that
track's position, depth read as altitude, as a valid target. -/
def HoldsTrack (mgr : LaunchTubeManager) (m : EngagementManager) : Prop :=
  ∀ tr, m.cls ≠ .mine → m.systemTargetId ≠ 0 → mgr.targetInfoMap m.systemTargetId = some tr →
    m.hasValidTarget = true ∧
      m.targetPosition =
        { dLatitude := tr.stGeodeticPosition.dLatitude, dLongitude := tr.stGeodeticPosition.dLongitude,
          fAltitude := -tr.stGeodeticPosition.fDepth }

/-- What a planner holds of the manager's environment: the cached axis
center and own ship, and the cached track of its system target. -/
def HoldsEnvironment (mgr : LaunchTubeManager) (m : EngagementManager) : Prop :=
  m.axisCenter = mgr.axisCenter ∧ m.ownShipInfo = mgr.ownShipInfo ∧ mgr.HoldsTrack m

/-- Every assigned tube's planner holds the environment. -/
def EnvironmentCoherent (mgr : LaunchTubeManager) : Prop :=
  ∀ i ∈ mgr.assignedTubes, ∀ t m, mgr.launchTubes i = some t → t.engagementMgr = some m →
    mgr.HoldsEnvironment m

/-- The planner of `t`, if any, holds the environment. -/
def TubeHolds (mgr : LaunchTubeManager) (t : LaunchTube) : Prop :=
  ∀ m, t.engagementMgr = some m → mgr.HoldsEnvironment m

/-- What every reachable manager keeps: each cached track is filed under its
own id, and the assigned planners hold the environment. -/
structure EnvInv (mgr : LaunchTubeManager) : Prop where
  keys : ∀ k tr, mgr.targetInfoMap k = some tr → tr.unTargetSystemID = k
  coherent : mgr.EnvironmentCoherent

theorem HoldsEnvironment.of_env {mgr : LaunchTubeManager} {m m' : EngagementManager}
    (h : mgr.HoldsEnvironment m) (he : m'.env = m.env) : mgr.HoldsEnvironment m' := by
  simp only [EngagementManager.env, Prod.mk.injEq] at he
  obtain ⟨hc, ha, ho, hs, hv, ht⟩ := he
  simpa only [HoldsEnvironment, HoldsTrack, hc, ha, ho, hs, hv, ht] using h

theorem TubeHolds.of_envView {mgr : LaunchTubeManager} {t t' : LaunchTube} (h : mgr.TubeHolds t)
    (he : t'.envView = t.envView) : mgr.TubeHolds t' := fun m' hm' => by
  have he2 := (Prod.mk.inj he).2
  rw [hm', Option.map_some', eq_comm, Option.map_eq_some'] at he2
  obtain ⟨m, hm, hme⟩ := he2
  exact (h m hm).of_env hme.symm

/-- A tube written back keeps the manager coherent when, assigned, its
planner holds the environment. -/
theorem EnvironmentCoherent.setTube {mgr : LaunchTubeManager} (h : mgr.EnvironmentCoherent) {i : ℕ}
    {t : LaunchTube} (ht : t.hasWeapon = true → mgr.TubeHolds t) :
    (mgr.setTube i t).EnvironmentCoherent := by
  intro j hj t' m ht' hm
  rw [mem_assignedTubes, setTube_launchTubes] at hj
  rw [setTube_launchTubes] at ht'
  by_cases hji : j = i
  · simp only [hji, if_true, Option.some.injEq] at hj ht'
    subst ht'
    exact ht (by simpa using hj.2) m hm
  · simp only [hji, if_false] at hj ht'
    exact h j (mem_assignedTubes.2 hj) t' m ht' hm

/-- **A fan-out keeps the manager coherent** when every assigned tube it
maps, holding the old environment, holds the new one afterwards. -/
theorem EnvironmentCoherent.forAssigned {mgr mgr' : LaunchTubeManager} (h : mgr.EnvironmentCoherent)
    (hl : mgr'.launchTubes = mgr.launchTubes) (hmin : mgr'.minTubeNumber = mgr.minTubeNumber)
    (hmax : mgr'.maxTubeNumber = mgr.maxTubeNumber) {f : LaunchTube → LaunchTube}
    (hf : ∀ t, t.hasWeapon = true → mgr.TubeHolds t → mgr'.TubeHolds (f t)) :
    (mgr'.forAssigned f).EnvironmentCoherent := by
  have hA : ∀ j, j ∈ mgr'.assignedTubes ↔ j ∈ mgr.assignedTubes := fun j => by
    simp only [mem_assignedTubes, isValidTubeNumber, hl, hmin, hmax]
  intro j hj t' m ht' hm
  rw [forAssigned_eq] at hj ht' ⊢
  rw [mem_assignedTubes] at hj
  dsimp only at hj ht'
  split_ifs at ht' with hj'
  · obtain ⟨t₀, ht₀, rfl⟩ := Option.map_eq_some'.1 ht'
    have hw₀ := (mem_assignedTubes.1 hj').2
    rw [ht₀] at hw₀
    exact hf t₀ hw₀ (fun m₀ hm₀ => h j ((hA j).1 hj') t₀ m₀ (hl ▸ ht₀) hm₀) m hm
  · refine absurd ((@mem_assignedTubes mgr' j).2 ⟨hj.1, ?_⟩) hj'
    simpa only [hj', if_false] using hj.2

theorem EnvInv.notifyAssignment {mgr : LaunchTubeManager} (h : EnvInv mgr) (n : ℕ) (k : WpnKind)
    (b : Bool) : EnvInv (mgr.notifyAssignment n k b) := by
  unfold LaunchTubeManager.notifyAssignment
  split
  · exact ⟨h.keys, h.coherent⟩
  · exact h

/-- The loops with results report success when the flag stays set, and
otherwise their failure prefix followed by `errors`. -/
theorem requestAllWeaponStateChange_fst (mgr : LaunchTubeManager) (s : WpnCtrlState) :
    (mgr.requestAllWeaponStateChange s).1 =
      if (mgr.callAssigned (·.requestWeaponStateChange s false)).1 then .success
      else .failure ("Some state changes failed: " ++ (mgr.callAssigned (·.requestWeaponStateChange s false)).2.1) := by
  unfold requestAllWeaponStateChange
  rcases mgr.callAssigned (·.requestWeaponStateChange s false) with ⟨_ | _, e, m'⟩ <;> rfl

theorem emergencyStop_fst (mgr : LaunchTubeManager) :
    mgr.emergencyStop.1 =
      if (mgr.callAssigned emergencyRequest).1 then .success
      else .failure ("Emergency stop partially failed: " ++ (mgr.callAssigned emergencyRequest).2.1) := by
  unfold emergencyStop
  rcases mgr.callAssigned emergencyRequest with ⟨_ | _, e, m'⟩ <;> rfl

theorem ite_eq_success_iff (b : Bool) (e : String) :
    (if b then Result.success else .failure e) = .success ↔ b = true := by
  cases b <;> simp

/-- The loops with results leave the fan-out of their tube call. -/
theorem requestAllWeaponStateChange_manager (mgr : LaunchTubeManager) (s : WpnCtrlState) :
    (mgr.requestAllWeaponStateChange s).2 = mgr.forAssigned fun t => (t.requestWeaponStateChange s false).2 := by
  rw [← callAssigned_manager]
  unfold requestAllWeaponStateChange
  split <;> simp_all

theorem emergencyStop_manager (mgr : LaunchTubeManager) :
    mgr.emergencyStop.2 = mgr.forAssigned fun t => (emergencyRequest t).2 := by
  rw [← callAssigned_manager]
  unfold emergencyStop
  split <;> simp_all

theorem EnvInv.forAssigned {mgr mgr' : LaunchTubeManager} (h : EnvInv mgr)
    (hl : mgr'.launchTubes = mgr.launchTubes) (hmin : mgr'.minTubeNumber = mgr.minTubeNumber)
    (hmax : mgr'.maxTubeNumber = mgr.maxTubeNumber)
    (hkeys : ∀ k tr, mgr'.targetInfoMap k = some tr → tr.unTargetSystemID = k) {f : LaunchTube → LaunchTube}
    (hf : ∀ t, t.hasWeapon = true → mgr.TubeHolds t → mgr'.TubeHolds (f t)) :
    EnvInv (mgr'.forAssigned f) :=
  ⟨by rw [forAssigned_eq]; exact hkeys, h.coherent.forAssigned hl hmin hmax hf⟩

theorem EnvInv.init {mgr : LaunchTubeManager} (h : EnvInv mgr) : EnvInv mgr.init.2 := by
  unfold LaunchTubeManager.init
  split_ifs
  · exact h
  · refine ⟨h.keys, fun i hi => ?_⟩
    rw [mem_assignedTubes] at hi
    obtain ⟨hv, hw⟩ := hi
    simp only [isValidTubeNumber, decide_eq_true_eq] at hv
    simp [hv, newTube, LaunchTube.create, LaunchTube.setCallbacks, LaunchTube.hasWeapon] at hw

/-- A fan-out of a tube call that keeps what the planners hold. -/
theorem EnvInv.forAssigned_of_envView {mgr : LaunchTubeManager} (h : EnvInv mgr)
    {f : LaunchTube → LaunchTube} (hf : ∀ t, (f t).envView = t.envView) : EnvInv (mgr.forAssigned f) :=
  h.forAssigned rfl rfl rfl h.keys fun t _ ht => ht.of_envView (hf t)

theorem EnvInv.onTube {mgr : LaunchTubeManager} (h : EnvInv mgr) {n : ℕ}
    {call : LaunchTube → Result × LaunchTube} (hc : ∀ t, (call t).2.envView = t.envView) :
    EnvInv (mgr.onTube n call).2 := by
  unfold LaunchTubeManager.onTube
  split
  · exact h
  · rename_i t ht
    refine ⟨h.keys, h.coherent.setTube fun hw => ?_⟩
    obtain ⟨h1, h2, hl⟩ := getValidatedTube_eq_some.1 ht
    have hw' : t.hasWeapon = true := by
      have := congrArg Prod.fst (hc t)
      simp only [LaunchTube.envView] at this
      rw [← this, hw]
    exact TubeHolds.of_envView (fun m hm => h.coherent n (mem_assignedTubes.2
      ⟨by simp [isValidTubeNumber, h1, h2], by simp [hl, hw']⟩) t m hl hm) (hc t)

theorem create_envInv (maxTubes configMaxTubes : ℕ) : EnvInv (create maxTubes configMaxTubes) :=
  ⟨fun _ _ h => by simp [create] at h, fun _ hi => by simp [mem_assignedTubes, create] at hi⟩

section Planning

variable [SGeodeticToST3D]

/-- A track filed under its id makes a missile planner of that system target
hold it; a planner of another target keeps the track it held. -/
theorem holdsEnvironment_updateTargetInfo {mgr : LaunchTubeManager} {m : EngagementManager}
    {track : TargetTrack} (htr : mgr.targetInfoMap track.unTargetSystemID = some track)
    (ha : m.axisCenter = mgr.axisCenter) (ho : m.ownShipInfo = mgr.ownShipInfo)
    (hrest : m.systemTargetId ≠ track.unTargetSystemID → mgr.HoldsTrack m) :
    mgr.HoldsEnvironment (if m.cls = .mine then m else m.updateTargetInfo track) := by
  split_ifs with hmine
  · exact ⟨ha, ho, fun _ hc => absurd hmine hc⟩
  unfold EngagementManager.updateTargetInfo
  split_ifs with hc
  · refine HoldsEnvironment.of_env ?_ (EngagementManager.calculateEngagementPlan_env _)
    refine ⟨ha, ho, fun tr _ _ hm => ?_⟩
    dsimp only at hm
    rw [← hc.2, htr, Option.some.injEq] at hm
    subst hm
    exact ⟨rfl, rfl⟩
  · exact ⟨ha, ho, fun tr hcls hz => hrest (fun he => hc ⟨hz, he.symm⟩) tr hcls hz⟩


/-- **The environment pushed at assignment is held**, when the planner's
system target, if it has one, is the one pushed. -/
theorem EnvInv.pushEnvironment {mgr : LaunchTubeManager} (h : EnvInv mgr) (t : LaunchTube) (id : ℕ)
    (hid : ∀ m, t.engagementMgr = some m → m.systemTargetId ≠ 0 → m.systemTargetId = id) :
    mgr.TubeHolds (mgr.pushEnvironment t id) := by
  intro m hm
  rcases ht : t.engagementMgr with _ | m₀
  · unfold LaunchTubeManager.pushEnvironment at hm
    split_ifs at hm <;> try split at hm
    all_goals simp [LaunchTube.updateTargetInfo_engagementMgr, LaunchTube.setAxisCenter,
      LaunchTube.updateOwnShipInfo, ht] at hm
  -- the planner once the axis center and the own ship are pushed
  set m₁ := (m₀.setAxisCenter mgr.axisCenter).updateOwnShipInfo mgr.ownShipInfo
  have hbase : ((t.setAxisCenter mgr.axisCenter).updateOwnShipInfo mgr.ownShipInfo).engagementMgr =
      some m₁ := by
    simp [LaunchTube.setAxisCenter, LaunchTube.updateOwnShipInfo, ht, m₁]
  have hsid : m₁.systemTargetId ≠ 0 → m₁.systemTargetId = id := hid m₀ ht
  unfold LaunchTubeManager.pushEnvironment at hm
  split_ifs at hm with hpos
  · split at hm
    · rename_i track htrack
      rw [LaunchTube.updateTargetInfo_engagementMgr, hbase, Option.map_some', Option.some.injEq] at hm
      subst hm
      have hkey := h.keys id track htrack
      refine holdsEnvironment_updateTargetInfo (hkey ▸ htrack) rfl rfl fun hne tr _ hz _ => ?_
      exact absurd ((hsid hz).trans hkey.symm) hne
    · rename_i hnone
      rw [hbase, Option.some.injEq] at hm
      subst hm
      exact ⟨rfl, rfl, fun tr _ hz hmap => by simp [hsid hz, hnone] at hmap⟩
  · rw [hbase, Option.some.injEq] at hm
    subst hm
    exact ⟨rfl, rfl, fun tr _ hz _ => absurd (hsid hz) (by omega)⟩

theorem EnvInv.assignWeapon {mgr : LaunchTubeManager} (h : EnvInv mgr) (req : WeaponAssignmentRequest)
    (d now : ℚ) : EnvInv (mgr.assignWeapon req d now).2 := by
  rcases assignWeapon_outcome mgr req d now with
    ⟨-, he⟩ | ⟨tube, -, -, ⟨-, he⟩ | ⟨cls, tube', -, ht', -, he⟩⟩ <;> rw [he]
  · exact h
  · exact ⟨h.keys, h.coherent.setTube fun h' => absurd h' (by
      simp [LaunchTube.clearAssignment, LaunchTube.hasWeapon])⟩
  · -- the fresh planner has no system target before the setup
    subst ht'
    refine @EnvInv.notifyAssignment (mgr.setTube _ _)
      ⟨h.keys, h.coherent.setTube fun _ => h.pushEnvironment _ _ ?_⟩ _ _ _
    exact LaunchTube.setupSpecificAssignment_systemTargetId _ (fun m hm => by
      simp only [LaunchTube.install, Option.some.injEq] at hm
      subst hm
      rfl)

/-- **Every operation keeps the environment held.** -/
theorem EnvInv.apply {mgr : LaunchTubeManager} (h : EnvInv mgr) (op : ManagerOp) :
    EnvInv (mgr.apply op) := by
  cases op with
  | init => exact h.init
  | shutdown =>
    have := @EnvInv.forAssigned mgr mgr h rfl rfl rfl h.keys LaunchTube.clearAssignment
      fun t _ _ m hm => by simp [LaunchTube.clearAssignment] at hm
    exact ⟨this.keys, this.coherent⟩
  | assignWeapon req d now => exact h.assignWeapon req d now
  | unassignWeapon n =>
    show EnvInv (mgr.unassignWeapon n).2
    rcases unassignWeapon_outcome mgr n with he | ⟨t, w, -, -, he⟩ <;> rw [he]
    · exact h
    · exact @EnvInv.notifyAssignment (mgr.setTube n t.clearAssignment)
        ⟨h.keys, h.coherent.setTube fun hw => absurd hw (by
          simp [LaunchTube.clearAssignment, LaunchTube.hasWeapon])⟩ _ _ _
  | requestWeaponStateChange n s c => exact h.onTube fun t => by simp
  | requestAllWeaponStateChange s =>
    show EnvInv (mgr.requestAllWeaponStateChange s).2
    rw [requestAllWeaponStateChange_manager]
    exact h.forAssigned_of_envView fun t => by simp
  | emergencyStop =>
    show EnvInv mgr.emergencyStop.2
    rw [emergencyStop_manager]
    exact h.forAssigned_of_envView fun t => by unfold emergencyRequest; split_ifs <;> simp
  | updateOwnShipInfo n =>
    refine @EnvInv.forAssigned mgr { mgr with ownShipInfo := n } h rfl rfl rfl h.keys _
      fun t _ ht m' hm' => ?_
    simp only [LaunchTube.updateOwnShipInfo, Option.map_eq_some'] at hm'
    obtain ⟨m, hm, rfl⟩ := hm'
    exact ⟨(ht m hm).1, rfl, (ht m hm).2.2⟩
  | updateTargetInfo track =>
    refine @EnvInv.forAssigned mgr { mgr with
      targetInfoMap := Function.update mgr.targetInfoMap track.unTargetSystemID (some track) } h rfl rfl
      rfl (fun k tr hk => ?_) _ fun t _ ht m' hm' => ?_
    · by_cases hkt : k = track.unTargetSystemID
      · subst hkt; simp at hk; exact hk ▸ rfl
      · simp [hkt] at hk; exact h.keys k tr hk
    · rw [LaunchTube.updateTargetInfo_engagementMgr, Option.map_eq_some'] at hm'
      obtain ⟨m, hm, rfl⟩ := hm'
      obtain ⟨ha, ho, htr⟩ := ht m hm
      exact holdsEnvironment_updateTargetInfo (by simp) ha ho fun hne tr hc hz hmap =>
        htr tr hc hz (by simpa [hne] using hmap)
  | setAxisCenter c =>
    refine @EnvInv.forAssigned mgr { mgr with axisCenter := c } h rfl rfl rfl h.keys _
      fun t _ ht m' hm' => ?_
    simp only [LaunchTube.setAxisCenter, Option.map_eq_some'] at hm'
    obtain ⟨m, hm, rfl⟩ := hm'
    exact ⟨rfl, (ht m hm).2.1, (ht m hm).2.2⟩
  | updateWaypoints n wps => exact h.onTube fun t => by simp
  | calculateEngagementPlan n => exact h.onTube fun t => by simp
  | calculateAllEngagementPlans => exact h.forAssigned_of_envView fun t => by simp
  | update now => exact h.forAssigned_of_envView fun t => by simp
  | setAssignmentChangeCallback b => exact ⟨h.keys, h.coherent⟩

theorem EnvInv.run {mgr : LaunchTubeManager} (h : EnvInv mgr) :
    ∀ ops : List ManagerOp, EnvInv (mgr.run ops)
  | [] => h
  | op :: ops => EnvInv.run (h.apply op) ops

/-- **In every state any sequence of operations reaches, every assigned
tube's planner holds the environment**: the cached axis center and own ship,
and, for a missile planner whose system target has a cached track, that
track's latest position as a valid target. -/
theorem environment_coherent_of_run (maxTubes configMaxTubes : ℕ) (ops : List ManagerOp) :
    ((create maxTubes configMaxTubes).run ops).EnvironmentCoherent :=
  ((create_envInv maxTubes configMaxTubes).run ops).coherent

end Planning

end LaunchTubeManager

end WeaponControl
