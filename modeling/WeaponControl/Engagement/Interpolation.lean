import Mathlib.Analysis.Normed.Order.Lattice
import Mathlib.Analysis.Normed.Field.Lemmas
import Mathlib.Topology.Instances.Rat
import Mathlib.Topology.Order.Lattice
import WeaponControl.Engagement.Manager

/-!
# The mine planner flies its polyline

`MineEngagementManager::interpolatePosition` (`part_001`, lines 346-373) turns
the time since launch into the segment parameter
`s = min(t / totalTime_sec, 1) * (size - 1)`, reads segment `⌊s⌋` at its
fraction `s - ⌊s⌋`, and returns the last point once `⌊s⌋` reaches
`size - 1`.  `segmentPoint` is that reading of `s`
(`mineInterpolatePosition_eq`).

Its one structural fact is a recursion on the trajectory: below 1 it is the
first segment, from 1 on it is the reading of the rest at `s - 1`
(`segmentPoint_of_lt_one`, `segmentPoint_of_one_le`).  Continuity follows from
it one segment at a time, the two pieces meeting at the joint
(`continuous_segmentPoint`); the clamp, the closed form of each segment and
the passage through every vertex follow from the definition.  Over exact
rationals, for every trajectory of at least two points and every positive
flight time, the planner therefore follows the piecewise-linear
parametrisation of its polyline (`mineInterpolatePosition_follows_polyline`),
and on two points it agrees with the missiles' single segment
(`missileInterpolatePosition_eq_mine`).
-/

namespace WeaponControl

namespace EngagementManager

/-- The reading of lines 355-369 at segment parameter `s`: segment `⌊s⌋` at its
fraction, clamped to the last point. -/
def segmentPoint (ps : List ST3DGeodeticPosition) (s : ℚ) : ST3DGeodeticPosition :=
  if ⌊s⌋.toNat ≥ ps.length - 1 then ps.getLastD {}
  else lerp (ps.getD ⌊s⌋.toNat {}) (ps.getD (⌊s⌋.toNat + 1) {}) (s - ⌊s⌋.toNat)

theorem mineInterpolatePosition_eq (r : EngagementPlanResult) (t : ℚ) (hn : 2 ≤ r.trajectory.length) :
    mineInterpolatePosition r t =
      segmentPoint r.trajectory (min (t / r.totalTime_sec) 1 * (r.trajectory.length - 1 : ℕ)) := by
  rw [mineInterpolatePosition, if_neg (by omega)]
  rfl

/-- A position as a point of `ℚ³`, where continuity is read. -/
def coords (p : ST3DGeodeticPosition) : ℚ × ℚ × ℚ := (p.dLatitude, p.dLongitude, p.fDepth)

@[simp] theorem lerp_zero (a b : ST3DGeodeticPosition) : lerp a b 0 = a := by
  cases a; simp [lerp]

@[simp] theorem lerp_one (a b : ST3DGeodeticPosition) : lerp a b 1 = b := by
  cases b; simp [lerp]

theorem continuous_coords_lerp (a b : ST3DGeodeticPosition) : Continuous fun x => coords (lerp a b x) := by
  simp only [coords, lerp]
  fun_prop

/-! ### The recursion on the trajectory -/

@[simp] theorem segmentPoint_nil (s : ℚ) : segmentPoint [] s = {} := by
  simp [segmentPoint]

@[simp] theorem segmentPoint_singleton (p : ST3DGeodeticPosition) (s : ℚ) : segmentPoint [p] s = p := by
  simp [segmentPoint]

/-- Below 1, the first segment. -/
theorem segmentPoint_of_lt_one (p q : ST3DGeodeticPosition) (rest : List ST3DGeodeticPosition) {s : ℚ}
    (hs : s < 1) : segmentPoint (p :: q :: rest) s = lerp p q s := by
  have hk : ⌊s⌋.toNat = 0 := by
    have := Int.floor_lt.2 (show s < ((1 : ℤ) : ℚ) by simpa using hs)
    omega
  simp [segmentPoint, hk]

/-- From 1 on, the rest of the trajectory, one segment earlier. -/
theorem segmentPoint_of_one_le (p q : ST3DGeodeticPosition) (rest : List ST3DGeodeticPosition) {s : ℚ}
    (hs : 1 ≤ s) : segmentPoint (p :: q :: rest) s = segmentPoint (q :: rest) (s - 1) := by
  have hk : ⌊s⌋.toNat = ⌊s - 1⌋.toNat + 1 := by
    have h0 : 0 ≤ ⌊s - 1⌋ := Int.floor_nonneg.2 (by linarith)
    rw [Int.floor_sub_one] at h0 ⊢
    omega
  simp only [segmentPoint, hk, List.length_cons, List.getD_cons_succ, List.getLastD_cons]
  split_ifs <;> first | rfl | omega | (congr 1; push_cast; ring)

theorem segmentPoint_zero (q : ST3DGeodeticPosition) (rest : List ST3DGeodeticPosition) :
    segmentPoint (q :: rest) 0 = q := by
  cases rest with
  | nil => rfl
  | cons r rest => rw [segmentPoint_of_lt_one _ _ _ zero_lt_one, lerp_zero]

/-- **The reading of the polyline is continuous in its parameter**: each
segment is affine, and at the joint the segment ending there and the rest
starting there both give the vertex. -/
theorem continuous_segmentPoint : ∀ ps : List ST3DGeodeticPosition, Continuous fun s => coords (segmentPoint ps s)
  | [] => by simp only [segmentPoint_nil]; exact continuous_const
  | [p] => by simp only [segmentPoint_singleton]; exact continuous_const
  | p :: q :: rest => by
    have h : (fun s => coords (segmentPoint (p :: q :: rest) s)) =
        fun s => if 1 ≤ s then coords (segmentPoint (q :: rest) (s - 1)) else coords (lerp p q s) := by
      funext s
      split_ifs with hs
      · rw [segmentPoint_of_one_le _ _ _ hs]
      · rw [segmentPoint_of_lt_one _ _ _ (not_le.1 hs)]
    rw [h]
    refine Continuous.if_le ((continuous_segmentPoint (q :: rest)).comp (continuous_sub_right 1))
      (continuous_coords_lerp p q) continuous_const continuous_id fun s hs => ?_
    -- at the joint both pieces give `q`
    simp only [id_eq] at hs
    simp [← hs, segmentPoint_zero]

/-! ### The segments, the clamp and the vertices -/

/-- At or past the last index, the last point. -/
theorem segmentPoint_of_le (ps : List ST3DGeodeticPosition) (hps : ps ≠ []) {s : ℚ}
    (hs : ((ps.length - 1 : ℕ) : ℚ) ≤ s) :
    segmentPoint ps s = ps.get ⟨ps.length - 1, by have := List.length_pos.2 hps; omega⟩ := by
  have hk : ps.length - 1 ≤ ⌊s⌋.toNat := by
    have := Int.le_floor.2 (show (((ps.length - 1 : ℕ) : ℤ) : ℚ) ≤ s by exact_mod_cast hs)
    omega
  rw [segmentPoint, if_pos hk, List.getLastD_eq_getLast? _ _, List.getLast?_eq_getLast _ hps,
    Option.getD_some, List.getLast_eq_getElem]
  rfl

/-- Before the last index, segment `⌊s⌋` at its fraction, both its ends read
inside the trajectory. -/
theorem segmentPoint_of_lt (ps : List ST3DGeodeticPosition) {s : ℚ} (hs0 : 0 ≤ s)
    (hs : s < ((ps.length - 1 : ℕ) : ℚ)) :
    ∃ hk : ⌊s⌋₊ + 1 < ps.length, segmentPoint ps s =
      lerp (ps.get ⟨⌊s⌋₊, by omega⟩) (ps.get ⟨⌊s⌋₊ + 1, hk⟩) (s - ⌊s⌋₊) := by
  have hlt : ⌊s⌋₊ < ps.length - 1 := Nat.floor_lt hs0 |>.2 hs
  refine ⟨by omega, ?_⟩
  rw [segmentPoint, Int.floor_toNat, if_neg (by omega), List.getD_eq_getElem _ _ (by omega),
    List.getD_eq_getElem _ _ (by omega)]
  rfl

/-- At an integer, the vertex of that index. -/
theorem segmentPoint_natCast (ps : List ST3DGeodeticPosition) (j : ℕ) (hj : j < ps.length) :
    segmentPoint ps j = ps.get ⟨j, hj⟩ := by
  by_cases hlast : j = ps.length - 1
  · subst hlast
    exact segmentPoint_of_le ps (List.ne_nil_of_length_pos (by omega)) le_rfl
  · obtain ⟨_, he⟩ := segmentPoint_of_lt ps (Nat.cast_nonneg j) (by exact_mod_cast (show j < ps.length - 1 by omega))
    simpa only [Nat.floor_natCast, sub_self, lerp_zero] using he

/-- **On two points the mine planner and the missiles agree**, at every time:
the missiles' single segment from the first to the last point. -/
theorem missileInterpolatePosition_eq_mine (r : EngagementPlanResult) (h2 : r.trajectory.length = 2)
    (t : ℚ) : missileInterpolatePosition r t = mineInterpolatePosition r t := by
  obtain ⟨a, b, hab⟩ : ∃ a b, r.trajectory = [a, b] := by
    match h : r.trajectory, h2 with
    | [a, b], _ => exact ⟨a, b, rfl⟩
  rw [mineInterpolatePosition_eq r t (by omega), missileInterpolatePosition, if_neg (by omega), hab]
  simp only [List.headD_cons, List.getLastD_cons, List.getLastD_nil, List.length_cons, List.length_nil,
    Nat.reduceAdd, Nat.add_one_sub_one, Nat.cast_one, mul_one]
  rcases (min_le_right (t / r.totalTime_sec) 1).lt_or_eq with hlt | heq
  · rw [segmentPoint_of_lt_one _ _ _ hlt]
  · rw [heq, lerp_one, segmentPoint_of_one_le _ _ _ le_rfl, segmentPoint_singleton]

/-- What following the polyline is, for a planner's result with `n` points
over `T` seconds: the last point from `T` on; before, with
`s = (t / T)(n - 1)`, segment `⌊s⌋` at fraction `s - ⌊s⌋`, both ends read
inside the trajectory; vertex `j` at time `jT / (n - 1)`; continuity in
`t ≥ 0`; and, on two points, the missiles' answer. -/
def FollowsPolyline (r : EngagementPlanResult) : Prop :=
  (∀ t, r.totalTime_sec ≤ t → ∃ h : r.trajectory.length - 1 < r.trajectory.length,
    mineInterpolatePosition r t = r.trajectory.get ⟨r.trajectory.length - 1, h⟩) ∧
  (∀ t, 0 ≤ t → t < r.totalTime_sec →
    ∃ hk : ⌊t / r.totalTime_sec * (r.trajectory.length - 1 : ℕ)⌋₊ + 1 < r.trajectory.length,
      mineInterpolatePosition r t =
        lerp (r.trajectory.get ⟨⌊t / r.totalTime_sec * (r.trajectory.length - 1 : ℕ)⌋₊, by omega⟩)
          (r.trajectory.get ⟨⌊t / r.totalTime_sec * (r.trajectory.length - 1 : ℕ)⌋₊ + 1, hk⟩)
          (t / r.totalTime_sec * (r.trajectory.length - 1 : ℕ) -
            ⌊t / r.totalTime_sec * (r.trajectory.length - 1 : ℕ)⌋₊)) ∧
  (∀ j (hj : j < r.trajectory.length),
    mineInterpolatePosition r (j * r.totalTime_sec / (r.trajectory.length - 1 : ℕ)) = r.trajectory.get ⟨j, hj⟩) ∧
  ContinuousOn (fun t => coords (mineInterpolatePosition r t)) (Set.Ici 0) ∧
  (r.trajectory.length = 2 → ∀ t, missileInterpolatePosition r t = mineInterpolatePosition r t)

/-- **The mine planner follows its polyline**, for every trajectory of at
least two points and every positive flight time. -/
theorem mineInterpolatePosition_follows_polyline (r : EngagementPlanResult) (hn : 2 ≤ r.trajectory.length)
    (hT : 0 < r.totalTime_sec) : FollowsPolyline r := by
  have hm : (0 : ℚ) < (r.trajectory.length - 1 : ℕ) := by exact_mod_cast (show 0 < r.trajectory.length - 1 by omega)
  refine ⟨fun t ht => ⟨by omega, ?_⟩, fun t ht0 htT => ?_, fun j hj => ?_, ?_,
    missileInterpolatePosition_eq_mine r⟩
  · -- clamped
    rw [mineInterpolatePosition_eq r t hn, min_eq_right ((one_le_div hT).2 ht), one_mul]
    exact segmentPoint_of_le _ (List.ne_nil_of_length_pos (by omega)) le_rfl
  · -- on a segment
    have hp : t / r.totalTime_sec < 1 := (div_lt_one hT).2 htT
    rw [mineInterpolatePosition_eq r t hn, min_eq_left hp.le]
    exact segmentPoint_of_lt _ (by positivity) (mul_lt_of_lt_one_left hm hp)
  · -- through the vertices
    have hjn : (j : ℚ) ≤ (r.trajectory.length - 1 : ℕ) := by exact_mod_cast (show j ≤ r.trajectory.length - 1 by omega)
    have hs : j * r.totalTime_sec / (r.trajectory.length - 1 : ℕ) / r.totalTime_sec = j / (r.trajectory.length - 1 : ℕ) := by
      rw [div_right_comm, mul_div_cancel_right₀ _ hT.ne']
    rw [mineInterpolatePosition_eq _ _ hn, hs, min_eq_left ((div_le_one hm).2 hjn), div_mul_cancel₀ _ hm.ne',
      segmentPoint_natCast]
  · -- continuity
    refine (Continuous.continuousOn ?_).congr fun t _ => by rw [mineInterpolatePosition_eq r t hn]
    exact (continuous_segmentPoint _).comp
      (((continuous_id.div_const _).min continuous_const).mul continuous_const)

/-- A three-point plan over ten seconds. -/
def threePointPlan : EngagementPlanResult :=
  { totalTime_sec := 10, trajectory := [{}, { dLatitude := 2 }, { dLatitude := 2, dLongitude := 3 }] }

theorem threePointPlan_follows_polyline :
    2 ≤ threePointPlan.trajectory.length ∧ 0 < threePointPlan.totalTime_sec ∧ FollowsPolyline threePointPlan :=
  ⟨by decide, by norm_num [threePointPlan],
    mineInterpolatePosition_follows_polyline threePointPlan (by decide) (by norm_num [threePointPlan])⟩

end EngagementManager

end WeaponControl
