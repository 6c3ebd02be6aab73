import Mathlib.Tactic.FieldSimp
import Mathlib.Tactic.LinearCombination
import Mathlib.Tactic.Linarith
import GateNav.Passage
import GateNav.Proofs.Reals

/-!
# The sides of a gate

A passage is planned through several changes of the frame of reference: to the plane around the center, by a quarter
turn to a direction of length one, and from there back to the globe. Without rounding, all of this comes to one picture
in the plane around the center (`Passage.Between`): the direction has length one, the posts stand a quarter turn to the
left and to the right of it at the same distance, and the end points lie on it and against it. What is before the gate
and what is behind, what is left and what is right is read off this picture, and the passage with the posts exchanged is
the same one turned around (`Passage.plan?_sides`).
-/

namespace GateNav

section
variable {α : Type} [Scalar α]

/-- Positive where `v` points to the left of `u`, negative where it points to the right, and zero where it does
neither. -/
def Vec.cross (u v : Vec α) : α := u.x * v.y - u.y * v.x

/-- The two poses are in one place, whatever their headings are. -/
def Pose.SamePlace (p q : Pose α) : Prop := p.latitude = q.latitude ∧ p.longitude = q.longitude

/-- In the plane around `center` the pose lies on the line through the places `p` and `q`. -/
def Pose.IsOnLine [Trig α] (center p q pose : Pose α) : Prop :=
  (q.toLocal center - p.toLocal center).cross (pose.toLocal center - p.toLocal center) = Scalar.zero

end

attribute [ext] Vec

/-! ### The plane around a pose -/

namespace Pose
variable {p q r center center' : Pose ℝ}

theorem SamePlace.symm (h : p.SamePlace q) : q.SamePlace p := ⟨h.1.symm, h.2.symm⟩

theorem SamePlace.trans (h : p.SamePlace q) (h' : q.SamePlace r) : p.SamePlace r := ⟨h.1.trans h'.1, h.2.trans h'.2⟩

theorem toLocal_congr (hp : p.SamePlace q) (hc : center.SamePlace center') : p.toLocal center = q.toLocal center' := by
  unfold toLocal metresPerLongitude
  rw [hp.1, hp.2, hc.1, hc.2]

theorem metresPerDegree_ne_zero : (metresPerDegree : ℝ) ≠ 0 := by
  have : (metresPerDegree : ℝ) = ((6371000 : ℕ) : ℝ) * (Real.pi / 180) := rfl
  rw [this]
  positivity

theorem toLocal_self (center : Pose ℝ) : center.toLocal center = ⟨0, 0⟩ := by
  apply Vec.ext
  · show (center.longitude - center.longitude) * center.metresPerLongitude = 0
    rw [sub_self, zero_mul]
  · show (center.latitude - center.latitude) * metresPerDegree = 0
    rw [sub_self, zero_mul]

/-- There and back again, but for the poles, where all longitudes are one. -/
theorem toLocal_ofLocal (off_poles : center.metresPerLongitude ≠ 0) (v : Vec ℝ) :
    (ofLocal center v).toLocal center = v := by
  apply Vec.ext
  · show (center.longitude + v.x / center.metresPerLongitude - center.longitude) * center.metresPerLongitude = v.x
    rw [add_sub_cancel_left, div_mul_cancel₀ _ off_poles]
  · show (center.latitude + v.y / metresPerDegree - center.latitude) * metresPerDegree = v.y
    rw [add_sub_cancel_left, div_mul_cancel₀ _ metresPerDegree_ne_zero]

theorem samePlace_ofLocal {v w : Vec ℝ} (hc : center.SamePlace center') (same : v = w) :
    (ofLocal center v).SamePlace (ofLocal center' w) := by
  subst same
  constructor
  · show center.latitude + _ = center'.latitude + _
    rw [hc.1]
  · show center.longitude + _ / (_ * Trig.cos (center.latitude * _)) =
      center'.longitude + _ / (_ * Trig.cos (center'.latitude * _))
    rw [hc.1, hc.2]

theorem samePlace_midpoint (p q : Pose ℝ) : (q.midpoint p).SamePlace (p.midpoint q) := by
  constructor
  · show (q.latitude + p.latitude) / _ = (p.latitude + q.latitude) / _
    rw [add_comm]
  · show (q.longitude + p.longitude) / _ = (p.longitude + q.longitude) / _
    rw [add_comm]

/-- From halfway between them, two places are seen in opposite directions. -/
theorem toLocal_midpoint (p q : Pose ℝ) :
    q.toLocal (p.midpoint q) = (p.toLocal (p.midpoint q)).scale (-1) := by
  have latitude : (p.midpoint q).latitude = (p.latitude + q.latitude) / 2 := rfl
  have longitude : (p.midpoint q).longitude = (p.longitude + q.longitude) / 2 := rfl
  apply Vec.ext
  · show (q.longitude - (p.midpoint q).longitude) * _ = (p.longitude - (p.midpoint q).longitude) * _ * -1
    rw [longitude]
    ring
  · show (q.latitude - (p.midpoint q).latitude) * _ = (p.latitude - (p.midpoint q).latitude) * _ * -1
    rw [latitude]
    ring

end Pose

/-! ### Directions -/

namespace Vec
variable {u v : Vec ℝ}

theorem norm_mul_self (v : Vec ℝ) : v.norm * v.norm = v.x ^ 2 + v.y ^ 2 :=
  Real.mul_self_sqrt (by positivity)

theorem norm_scale_neg (v : Vec ℝ) : (v.scale (-1)).norm = v.norm := by
  show √((v.x * -1) ^ 2 + (v.y * -1) ^ 2) = √(v.x ^ 2 + v.y ^ 2)
  rw [mul_neg_one, mul_neg_one, neg_sq, neg_sq]

/-- The length of a vector in the direction of one of length one, or against it. -/
theorem norm_scale_abs (unit : u.dot u = 1) (k : ℝ) : (u.scale k).norm = |k| := by
  have square : (u.scale k).norm * (u.scale k).norm = |k| * |k| := by
    rw [norm_mul_self, abs_mul_abs_self]
    show (u.x * k) ^ 2 + (u.y * k) ^ 2 = k * k
    have parts : u.x * u.x + u.y * u.y = 1 := unit
    linear_combination k ^ 2 * parts
  exact (mul_self_inj (Real.sqrt_nonneg _) (abs_nonneg k)).1 square

theorem of_direction? (h : v.direction? = some u) : 0 < v.norm ∧ u = v.scale (1 / v.norm) := by
  unfold direction? at h
  dsimp only at h
  split at h
  · next long =>
    have some_length : (0 : ℝ) ≤ negligible := by
      have : (negligible : ℝ) = ((1 : ℕ) : ℝ) / ((4503599627370496 : ℕ) : ℝ) := rfl
      rw [this]
      positivity
    rw [Scalar.real_one] at h
    exact ⟨lt_of_le_of_lt some_length long, (Option.some.inj h).symm⟩
  · cases h

theorem direction?_scale_neg (h : v.direction? = some u) : (v.scale (-1)).direction? = some (u.scale (-1)) := by
  unfold direction? at h ⊢
  rw [norm_scale_neg]
  dsimp only at h ⊢
  split at h
  · next long =>
    cases h
    rw [if_pos long, Option.some.injEq]
    ext
    · exact mul_right_comm _ _ _
    · exact mul_right_comm _ _ _
  · cases h

end Vec

/-! ### The picture -/

namespace Passage

/-- The passage as it lies in the plane around its center, between the left-hand post and the other one. -/
structure Between (g : Passage ℝ) (leftHand rightHand : Pose ℝ) (standoff : ℝ) : Prop where
  unit : g.direction.dot g.direction = 1
  left : ∃ n, 0 < n ∧ leftHand.toLocal g.center = g.direction.clockwise.scale (-n)
  right : rightHand.toLocal g.center = (leftHand.toLocal g.center).scale (-1)
  exit : g.exit.toLocal g.center = g.direction.scale standoff
  entry : g.entry.toLocal g.center = g.direction.scale (-standoff)

variable {l r pose : Pose ℝ} {standoff : ℝ} {g g' : Passage ℝ}

theorem of_plan? (plan : plan? l r standoff = some g) :
    (l.toLocal (l.midpoint r)).clockwise.direction? = some g.direction ∧ g.center.SamePlace (l.midpoint r) ∧
      g.exit.SamePlace (Pose.ofLocal (l.midpoint r) (g.direction.scale standoff)) ∧
      g.entry.SamePlace (Pose.ofLocal (l.midpoint r) (g.direction.scale (-standoff))) := by
  obtain ⟨direction, hd, plan⟩ := Option.bind_eq_some_iff.1 plan
  cases plan
  exact ⟨hd, ⟨rfl, rfl⟩, ⟨rfl, rfl⟩, ⟨rfl, rfl⟩⟩

/-- There is a passage between posts that are apart. -/
theorem exists_plan? (apart : Vec.negligible < (l.toLocal (l.midpoint r)).clockwise.norm) :
    ∃ g, plan? l r standoff = some g := by
  refine Option.isSome_iff_exists.1 ?_
  rw [plan?, Vec.direction?, if_pos apart]
  rfl

theorem between_of_plan? (plan : plan? l r standoff = some g) (off_poles : g.center.metresPerLongitude ≠ 0) :
    g.Between l r standoff := by
  obtain ⟨direction, center, exit, entry⟩ := of_plan? plan
  obtain ⟨long, same⟩ := Vec.of_direction? direction
  have off : (l.midpoint r).metresPerLongitude ≠ 0 := by
    unfold Pose.metresPerLongitude at off_poles ⊢
    rwa [← center.1]
  have place (v : Vec ℝ) : (Pose.ofLocal (l.midpoint r) v).toLocal g.center = v :=
    (Pose.toLocal_congr ⟨rfl, rfl⟩ center).trans (Pose.toLocal_ofLocal off v)
  have leftHand := Pose.toLocal_congr (p := l) ⟨rfl, rfl⟩ center
  generalize hv : l.toLocal (l.midpoint r) = v at *
  generalize hn : v.clockwise.norm = n at *
  have length : n * n = v.x ^ 2 + v.y ^ 2 := by
    rw [← hn, Vec.norm_mul_self]
    show v.y ^ 2 + (-v.x) ^ 2 = _
    ring
  have dx : g.direction.x = v.y * (1 / n) := congrArg (·.x) same
  have dy : g.direction.y = -v.x * (1 / n) := congrArg (·.y) same
  refine ⟨?_, ⟨n, long, ?_⟩, ?_, ?_, ?_⟩
  · show g.direction.x * g.direction.x + g.direction.y * g.direction.y = 1
    rw [dx, dy]
    field_simp
    linarith
  · rw [leftHand]
    ext
    · show v.x = g.direction.y * -n
      rw [dy]
      field_simp
    · show v.y = -g.direction.x * -n
      rw [dx]
      field_simp
  · rw [leftHand, Pose.toLocal_congr ⟨rfl, rfl⟩ center, Pose.toLocal_midpoint, hv]
  · rw [Pose.toLocal_congr exit ⟨rfl, rfl⟩, place]
  · rw [Pose.toLocal_congr entry ⟨rfl, rfl⟩, place]

theorem isBefore_iff : g.isBefore pose = true ↔ (pose.toLocal g.center).dot g.direction < 0 := by
  unfold isBefore
  rw [decide_eq_true_iff, Scalar.real_zero]

theorem isOnAxis_iff {tolerance : ℝ} :
    g.isOnAxis pose tolerance = true ↔ |(pose.toLocal g.center).dot g.direction.clockwise| ≤ tolerance := by
  unfold isOnAxis
  rw [decide_eq_true_iff, Scalar.real_abs]

theorem toLocal_center (g : Passage ℝ) : g.center.toLocal g.center = g.direction.scale 0 := by
  rw [Pose.toLocal_self]
  ext
  · exact (mul_zero _).symm
  · exact (mul_zero _).symm

theorem isOnAxis_of_scale {k tolerance : ℝ} (there : pose.toLocal g.center = g.direction.scale k)
    (some_way : 0 ≤ tolerance) : g.isOnAxis pose tolerance = true := by
  have across : (g.direction.scale k).dot g.direction.clockwise = 0 := by
    show g.direction.x * k * g.direction.y + g.direction.y * k * -g.direction.x = 0
    ring
  rw [isOnAxis_iff, there, across, abs_zero]
  exact some_way

namespace Between

/-- A point of the axis is before the gate if it lies against the direction. -/
theorem isBefore_of_scale (h : g.Between l r standoff) {k : ℝ} (there : pose.toLocal g.center = g.direction.scale k) :
    g.isBefore pose = true ↔ k < 0 := by
  have unit : g.direction.x * g.direction.x + g.direction.y * g.direction.y = 1 := h.unit
  have along : (g.direction.scale k).dot g.direction = k := by
    show g.direction.x * k * g.direction.x + g.direction.y * k * g.direction.y = k
    linear_combination k * unit
  rw [isBefore_iff, there, along]

/-- The posts stand to the left and to the right of the axis. -/
theorem cross_hands (h : g.Between l r standoff) :
    0 < g.direction.cross (l.toLocal g.center) ∧ g.direction.cross (r.toLocal g.center) < 0 := by
  obtain ⟨n, some_way, left⟩ := h.left
  have unit : g.direction.x * g.direction.x + g.direction.y * g.direction.y = 1 := h.unit
  have parts : g.direction.cross (l.toLocal g.center) = n := by
    rw [left]
    show g.direction.x * (-g.direction.x * -n) - g.direction.y * (g.direction.y * -n) = n
    linear_combination n * unit
  have mirrored : g.direction.cross (r.toLocal g.center) = -g.direction.cross (l.toLocal g.center) := by
    rw [h.right]
    show g.direction.x * ((l.toLocal g.center).y * -1) - g.direction.y * ((l.toLocal g.center).x * -1) =
      -(g.direction.x * (l.toLocal g.center).y - g.direction.y * (l.toLocal g.center).x)
    ring
  rw [mirrored, parts]
  exact ⟨some_way, neg_neg_of_pos some_way⟩

/-- On the line through the posts lies what is neither before the gate nor behind it. -/
theorem isOnLine_iff (h : g.Between l r standoff) :
    g.center.IsOnLine l r pose ↔ (pose.toLocal g.center).dot g.direction = 0 := by
  obtain ⟨n, some_way, left⟩ := h.left
  have turn : (r.toLocal g.center - l.toLocal g.center).cross (pose.toLocal g.center - l.toLocal g.center) =
      2 * n * (pose.toLocal g.center).dot g.direction := by
    rw [h.right, left]
    generalize pose.toLocal g.center = p
    show (g.direction.y * -n * -1 - g.direction.y * -n) * (p.y - -g.direction.x * -n) -
        (-g.direction.x * -n * -1 - -g.direction.x * -n) * (p.x - g.direction.y * -n) =
      2 * n * (p.x * g.direction.x + p.y * g.direction.y)
    ring
  unfold Pose.IsOnLine
  rw [turn, Scalar.real_zero, mul_eq_zero, or_iff_right (by positivity)]

end Between

/-- With the posts exchanged the passage is turned around. -/
theorem exists_plan?_swap (plan : plan? l r standoff = some g) :
    ∃ g', plan? r l standoff = some g' ∧ g'.direction = g.direction.scale (-1) ∧ g'.center.SamePlace g.center ∧
      g'.entry.SamePlace g.exit ∧ g'.exit.SamePlace g.entry := by
  obtain ⟨direction, center, exit, entry⟩ := of_plan? plan
  have halfway := Pose.samePlace_midpoint l r
  have mirrored : (r.toLocal (r.midpoint l)).clockwise = ((l.toLocal (l.midpoint r)).clockwise).scale (-1) := by
    rw [Pose.toLocal_congr ⟨rfl, rfl⟩ halfway, Pose.toLocal_midpoint]
    ext
    · rfl
    · exact neg_mul_eq_neg_mul _ _
  have turned := Vec.direction?_scale_neg direction
  rw [← mirrored] at turned
  have back (k : ℝ) : (g.direction.scale (-1)).scale (-k) = g.direction.scale k := by
    ext
    · show g.direction.x * -1 * -k = g.direction.x * k
      ring
    · show g.direction.y * -1 * -k = g.direction.y * k
      ring
  refine ⟨_, by rw [plan?, turned]; rfl, rfl, halfway.trans center.symm, ?_, ?_⟩
  · exact (Pose.samePlace_ofLocal halfway (back standoff)).trans exit.symm
  · have forth := back (-standoff)
    rw [neg_neg] at forth
    exact (Pose.samePlace_ofLocal halfway forth).trans entry.symm

/-- A passage with end points ahead of its center and behind it, away from the poles. Its entry is before the gate, its
center and its exit are not, and both end points are as far from the center as they should be. One post stands to the
left of the axis and the other one to the right, and the three points are on the axis, however strictly that is taken.
With the posts exchanged there is a passage as well; it has the same center and the end points exchanged, and what is
before the one is not before the other, unless it is on the line through the posts. -/
theorem plan?_sides {l r : Pose ℝ} {standoff : ℝ} {g : Passage ℝ} (plan : plan? l r standoff = some g)
    (ahead : 0 < standoff) (off_poles : Real.cos (g.center.latitude * (Real.pi / 180)) ≠ 0) :
    (g.isBefore g.entry = true ∧ g.isBefore g.center = false ∧ g.isBefore g.exit = false) ∧
      (g.center.distanceTo g.entry = standoff ∧ g.center.distanceTo g.exit = standoff) ∧
      (0 < g.direction.cross (l.toLocal g.center) ∧ g.direction.cross (r.toLocal g.center) < 0) ∧
      (∀ tolerance, 0 ≤ tolerance →
        g.isOnAxis g.entry tolerance = true ∧ g.isOnAxis g.center tolerance = true ∧
          g.isOnAxis g.exit tolerance = true) ∧
      ∃ g', plan? r l standoff = some g' ∧ g'.center.SamePlace g.center ∧ g'.entry.SamePlace g.exit ∧
        g'.exit.SamePlace g.entry ∧
        ∀ pose, ¬ g.center.IsOnLine l r pose → g'.isBefore pose = !g.isBefore pose := by
  have between : g.Between l r standoff :=
    between_of_plan? plan (mul_ne_zero Pose.metresPerDegree_ne_zero off_poles)
  have center := toLocal_center g
  refine ⟨⟨?_, ?_, ?_⟩, ⟨?_, ?_⟩, between.cross_hands, ?_, ?_⟩
  · exact (between.isBefore_of_scale between.entry).2 (neg_neg_of_pos ahead)
  · exact Bool.eq_false_iff.2 fun before => lt_irrefl 0 ((between.isBefore_of_scale center).1 before)
  · exact Bool.eq_false_iff.2 fun before => lt_asymm ahead ((between.isBefore_of_scale between.exit).1 before)
  · show (g.entry.toLocal g.center).norm = standoff
    rw [between.entry, Vec.norm_scale_abs between.unit, abs_neg, abs_of_pos ahead]
  · show (g.exit.toLocal g.center).norm = standoff
    rw [between.exit, Vec.norm_scale_abs between.unit, abs_of_pos ahead]
  · intro tolerance some_way
    exact ⟨isOnAxis_of_scale between.entry some_way, isOnAxis_of_scale center some_way,
      isOnAxis_of_scale between.exit some_way⟩
  · obtain ⟨g', planned, turned, same, entry, exit⟩ := exists_plan?_swap plan
    refine ⟨g', planned, same, entry, exit, ?_⟩
    intro pose aside
    rw [between.isOnLine_iff] at aside
    have mirrored : (pose.toLocal g'.center).dot g'.direction = -(pose.toLocal g.center).dot g.direction := by
      rw [Pose.toLocal_congr ⟨rfl, rfl⟩ same, turned]
      generalize pose.toLocal g.center = p
      show p.x * (g.direction.x * -1) + p.y * (g.direction.y * -1) = -(p.x * g.direction.x + p.y * g.direction.y)
      ring
    rw [Bool.eq_iff_iff, Bool.not_eq_true', Bool.eq_false_iff, ne_eq, isBefore_iff, isBefore_iff, mirrored, neg_lt_zero,
      not_lt]
    exact ⟨le_of_lt, fun behind => lt_of_le_of_ne behind (Ne.symm aside)⟩

/-- Between posts a metre to the west and a metre to the east of a place on the equator the way leads north. -/
theorem plan?_sides_northward :
    ∃ g, plan? (Pose.ofLocal .origin ⟨-1, 0⟩) (Pose.ofLocal .origin ⟨1, 0⟩) 3 = some g ∧
      Real.cos (g.center.latitude * (Real.pi / 180)) ≠ 0 ∧ g.isBefore g.entry = true ∧ g.isBefore g.exit = false ∧
      g.center.distanceTo g.exit = 3 ∧ 0 < g.direction.cross ((Pose.ofLocal .origin ⟨-1, 0⟩).toLocal g.center) := by
  have zero : (Pose.origin : Pose ℝ).latitude = 0 ∧ (Pose.origin : Pose ℝ).longitude = 0 :=
    ⟨Scalar.real_zero, Scalar.real_zero⟩
  have off_poles {p : Pose ℝ} (equator : p.latitude = 0) : Real.cos (p.latitude * (Real.pi / 180)) ≠ 0 := by
    rw [equator, zero_mul, Real.cos_zero]
    exact one_ne_zero
  generalize hl : Pose.ofLocal (.origin : Pose ℝ) ⟨-1, 0⟩ = l
  generalize hr : Pose.ofLocal (.origin : Pose ℝ) ⟨1, 0⟩ = r
  have halfway : (l.midpoint r).SamePlace .origin := by
    subst hl hr
    constructor
    · show (_ + 0 / _ + (_ + 0 / _)) / ((2 : ℕ) : ℝ) = _
      rw [zero.1]
      simp
    · show (_ + -1 / _ + (_ + 1 / _)) / ((2 : ℕ) : ℝ) = _
      rw [zero.2]
      ring
  have left : l.toLocal (l.midpoint r) = ⟨-1, 0⟩ := by
    subst hl
    rw [Pose.toLocal_congr ⟨rfl, rfl⟩ halfway]
    exact Pose.toLocal_ofLocal (mul_ne_zero Pose.metresPerDegree_ne_zero (off_poles zero.1)) _
  have length : (⟨-1, 0⟩ : Vec ℝ).clockwise.norm = 1 := by
    show √(0 ^ 2 + (- -1) ^ 2) = 1
    norm_num
  have long : (Vec.negligible : ℝ) < 1 := by
    show ((1 : ℕ) : ℝ) / ((4503599627370496 : ℕ) : ℝ) < 1
    norm_num
  obtain ⟨g, plan⟩ : ∃ g, plan? l r 3 = some g := exists_plan? (by rwa [left, length])
  have equator : g.center.latitude = 0 := (of_plan? plan).2.1.1.trans (halfway.1.trans zero.1)
  obtain ⟨⟨entry, -, exit⟩, ⟨-, far⟩, ⟨hand, -⟩, -⟩ := plan?_sides plan (by norm_num) (off_poles equator)
  exact ⟨g, plan, off_poles equator, entry, exit, far, hand⟩

end Passage

end GateNav
