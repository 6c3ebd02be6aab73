import Mathlib.Data.List.Nodup
import Mathlib.Tactic.Linarith
import GateNav.Proofs.Reals
import GateNav.Search.Pattern

/-!
# The corners of a spiral

In the plane, without rounding, the legs of a spiral lead from one place of a grid to another: turn number `k` has its
four corners in the corners of a square `k + 1` spacings around the center, but for the first one, which is one spacing
farther east (`Pattern.corners`, `Pattern.spiral_eq`). So no place is visited twice, and no turn is closer to the center
than the one before it. Whatever is cut off at the end is no closer than what is left (`Pattern.spiral_outward`).
-/

namespace GateNav

/-- The place reached by moving `distance` metres along `bearing` in the plane. -/
def Vec.offset {α : Type} [Scalar α] [Trig α] (v : Vec α) (bearing distance : α) : Vec α :=
  v + (ofBearing bearing).scale distance

namespace Pattern

/-! ### The grid -/

/-- The four corners of turn number `k`, in spacings east and north of the center. -/
def corners (k : Nat) : List (Int × Int) :=
  [(-k, k + 1), (k + 1, k + 1), (k + 1, -(k + 1)), (-(k + 1), -(k + 1))]

/-- The corners of so many turns. -/
def allCorners (turns : Nat) : List (Int × Int) := (List.range turns).flatMap corners

/-- The square of the distance from the center, in spacings. -/
def square (p : Int × Int) : Int := p.1 ^ 2 + p.2 ^ 2

variable {p q : Int × Int} {k l : Nat}

theorem length_allCorners (turns : Nat) : (allCorners turns).length = 4 * turns := by
  simp [allCorners, corners, Nat.mul_comm]

theorem map_square_corners (k : Nat) :
    (corners k).map square = (2 * k ^ 2 + 2 * k + 1 : Int) :: List.replicate 3 (2 * k ^ 2 + 4 * k + 2 : Int) := by
  simp only [corners, square, List.map_cons, List.map_nil, List.replicate, List.cons.injEq, and_true]
  refine ⟨?_, ?_, ?_, ?_⟩ <;> ring

theorem square_of_mem (h : p ∈ corners k) :
    2 * (k : Int) ^ 2 + 2 * k + 1 ≤ square p ∧ square p ≤ 2 * (k : Int) ^ 2 + 4 * k + 2 := by
  have one := List.mem_map_of_mem (f := square) h
  rw [map_square_corners, List.mem_cons, List.mem_replicate] at one
  have : (0 : Int) ≤ k := Int.natCast_nonneg k
  rcases one with same | ⟨-, same⟩ <;> rw [same] <;> constructor <;> linarith

/-- The corners of a turn are no closer than those of the turns within it. -/
theorem square_le_of_lt (inner : p ∈ corners k) (outer : q ∈ corners l) (less : k < l) : square p ≤ square q := by
  have high := (square_of_mem inner).2
  have low := (square_of_mem outer).1
  have step : (k : Int) + 1 ≤ l := by exact_mod_cast less
  nlinarith

theorem pairwise_square (turns : Nat) : (allCorners turns).Pairwise fun p q => square p ≤ square q := by
  refine List.pairwise_flatMap.2 ⟨fun k _ => ?_, List.pairwise_lt_range.imp fun less p hp q hq => ?_⟩
  · rw [← List.pairwise_map, map_square_corners, List.pairwise_cons, List.pairwise_replicate]
    refine ⟨fun n hn => ?_, .inr le_rfl⟩
    rw [(List.mem_replicate.1 hn).2]
    have : (0 : Int) ≤ k := Int.natCast_nonneg k
    linarith
  · exact square_le_of_lt hp hq less

/-- A place of the grid is a corner of one turn only. -/
theorem turn_eq_of_mem (hk : p ∈ corners k) (hl : p ∈ corners l) : k = l := by
  simp only [corners, List.mem_cons, List.not_mem_nil, or_false, Prod.ext_iff] at hk hl
  omega

theorem nodup_allCorners (turns : Nat) : (allCorners turns).Nodup := by
  refine List.nodup_flatMap.2 ⟨fun k _ => ?_, List.pairwise_lt_range.imp fun less p hk hl => ?_⟩
  · simp only [corners, List.nodup_cons, List.mem_cons, List.not_mem_nil, List.nodup_nil, or_false, and_true, not_or,
      not_false_eq_true, Prod.mk.injEq]
    omega
  · exact absurd (turn_eq_of_mem hk hl) less.ne

/-! ### The plane -/

/-- The place of the plane that is so many spacings east and north of the center. -/
noncomputable def gridPlace (center : Vec ℝ) (spacing : ℝ) (p : Int × Int) : Vec ℝ :=
  ⟨center.x + p.1 * spacing, center.y + p.2 * spacing⟩

variable {spacing : ℝ}

/-- The direction of a leg after so many quarters of a turn, on the grid. -/
def heading : Nat → Int × Int
  | 0 => (0, 1)
  | 1 => (1, 0)
  | 2 => (0, -1)
  | _ => (-1, 0)

theorem ofBearing_quarters {n : Nat} (few : n < 4) :
    Vec.ofBearing (quarters n : ℝ) = ⟨(heading n).1, (heading n).2⟩ := by
  have angle : (quarters n : ℝ) * Trig.degree = n * (Real.pi / 2) := by
    show ((90 : ℕ) : ℝ) * (n : ℝ) * (Real.pi / 180) = _
    push_cast; ring
  unfold Vec.ofBearing
  rw [angle]
  show (⟨Real.sin (n * (Real.pi / 2)), Real.cos (n * (Real.pi / 2))⟩ : Vec ℝ) = _
  match n, few with
  | 0, _ => simp [heading]
  | 1, _ => simp [heading]
  | 2, _ => simp [heading, mul_div_cancel₀]
  | 3, _ =>
    have three : ((3 : ℕ) : ℝ) * (Real.pi / 2) = Real.pi + Real.pi / 2 := by push_cast; ring
    rw [three, Real.sin_add, Real.cos_add]
    simp [heading]

/-- A leg leads from one place of the grid to another. -/
theorem offset_gridPlace (center : Vec ℝ) (spacing : ℝ) (p : Int × Int) {n : Nat} (few : n < 4) (length : Nat) :
    (gridPlace center spacing p).offset (quarters n) ((length : ℝ) * spacing) =
      gridPlace center spacing (p.1 + length * (heading n).1, p.2 + length * (heading n).2) := by
  unfold Vec.offset
  rw [ofBearing_quarters few]
  unfold gridPlace
  refine (Vec.mk.injEq ..).mpr ⟨?_, ?_⟩
  · show center.x + p.1 * spacing + (heading n).1 * (length * spacing) = _
    push_cast; ring
  · show center.y + p.2 * spacing + (heading n).2 * (length * spacing) = _
    push_cast; ring

/-- Leg number `n` of turn number `k`, from `p` to `q`. -/
theorem spiralFrom_leg (center : Vec ℝ) (spacing : ℝ) {p q : Int × Int} (k count : Nat) {n : Nat} (few : n < 4)
    (east : q.1 = p.1 + (2 * k + 1 + n / 2 : Nat) * (heading n).1)
    (north : q.2 = p.2 + (2 * k + 1 + n / 2 : Nat) * (heading n).2) :
    spiralFrom Vec.offset spacing (gridPlace center spacing p) (4 * k + n) (count + 1) =
      gridPlace center spacing q ::
        spiralFrom Vec.offset spacing (gridPlace center spacing q) (4 * k + (n + 1)) count := by
  obtain ⟨turned, length⟩ : (4 * k + n) % 4 = n ∧ (4 * k + n) / 2 + 1 = 2 * k + 1 + n / 2 := by omega
  have next : (gridPlace center spacing p).offset (quarters ((4 * k + n) % 4))
      ((((4 * k + n) / 2 + 1 : Nat) : ℝ) * spacing) = gridPlace center spacing q := by
    rw [turned, length, offset_gridPlace center spacing p few, ← east, ← north]
  rw [spiralFrom, next]
  rfl

/-- The four legs of turn number `k`, which starts where the turn before it ended. -/
theorem spiralFrom_turn (center : Vec ℝ) (spacing : ℝ) (k rest : Nat) :
    spiralFrom Vec.offset spacing (gridPlace center spacing (-k, -k)) (4 * k) (rest + 4) =
      (corners k).map (gridPlace center spacing) ++
        spiralFrom Vec.offset spacing (gridPlace center spacing (-(k + 1 : Nat), -(k + 1 : Nat))) (4 * (k + 1))
          rest := by
  have north := spiralFrom_leg center spacing (p := (-k, -k)) (q := (-k, k + 1)) (n := 0) k (rest + 3)
    (by decide) (by simp [heading]) (by simp [heading]; ring)
  have east := spiralFrom_leg center spacing (p := (-k, k + 1)) (q := (k + 1, k + 1)) (n := 1) k (rest + 2)
    (by decide) (by simp [heading]; ring) (by simp [heading])
  have south := spiralFrom_leg center spacing (p := (k + 1, k + 1)) (q := (k + 1, -(k + 1))) (n := 2) k (rest + 1)
    (by decide) (by simp [heading]) (by simp [heading]; ring)
  have west := spiralFrom_leg center spacing (p := (k + 1, -(k + 1))) (q := (-(k + 1), -(k + 1))) (n := 3) k rest
    (by decide) (by simp [heading]; ring) (by simp [heading])
  rw [← Nat.add_zero (4 * k), north, east, south, west]
  push_cast
  rfl

/-- So many turns of the spiral, from turn number `k` on. -/
theorem spiralFrom_eq (center : Vec ℝ) (spacing : ℝ) (k turns : Nat) :
    spiralFrom Vec.offset spacing (gridPlace center spacing (-k, -k)) (4 * k) (turns * 4) =
      ((List.range' k turns).flatMap corners).map (gridPlace center spacing) := by
  induction turns generalizing k with
  | zero => rfl
  | succ turns ih =>
    rw [Nat.succ_mul turns, spiralFrom_turn, ih, List.range'_succ, List.flatMap_cons, List.map_append]

theorem spiral_eq (center : Vec ℝ) (spacing : ℝ) (turns : Nat) :
    spiral Vec.offset center spacing turns = (allCorners turns).map (gridPlace center spacing) := by
  have start : gridPlace center spacing (-(0 : Nat), -(0 : Nat)) = center := by simp [gridPlace]
  unfold spiral allCorners
  rw [List.range_eq_range', ← spiralFrom_eq, start]

theorem norm_gridPlace_sub (center : Vec ℝ) (apart : 0 < spacing) (p : Int × Int) :
    (gridPlace center spacing p - center).norm = √(square p : ℝ) * spacing := by
  show √((center.x + p.1 * spacing - center.x) ^ 2 + (center.y + p.2 * spacing - center.y) ^ 2) = _
  have scaled : (center.x + p.1 * spacing - center.x) ^ 2 + (center.y + p.2 * spacing - center.y) ^ 2 =
      (square p : ℝ) * spacing ^ 2 := by
    unfold square
    push_cast; ring
  rw [scaled, Real.sqrt_mul' _ (sq_nonneg spacing), Real.sqrt_sq apart.le]

theorem norm_gridPlace_le (center : Vec ℝ) (apart : 0 < spacing) (le : square p ≤ square q) :
    (gridPlace center spacing p - center).norm ≤ (gridPlace center spacing q - center).norm := by
  rw [norm_gridPlace_sub center apart, norm_gridPlace_sub center apart]
  exact mul_le_mul_of_nonneg_right (Real.sqrt_le_sqrt (Int.cast_le.2 le)) apart.le

theorem gridPlace_injective (center : Vec ℝ) (apart : 0 < spacing) :
    Function.Injective (gridPlace center spacing) := by
  intro p q same
  have coordinate {a b : Int} {c : ℝ} (h : c + a * spacing = c + b * spacing) : a = b :=
    Int.cast_injective (mul_right_cancel₀ apart.ne' (add_left_cancel h))
  obtain ⟨east, north⟩ := (Vec.mk.injEq ..).mp same
  exact Prod.ext (coordinate east) (coordinate north)

/-! ### The layout -/

/-- A spiral is laid out if its legs can be counted and there is space for its corners. -/
theorem layOut_spiral {α β : Type} [Scalar α] (move : β → α → α → β) (center : β) (spacing : α) (turns : Nat) :
    layOut move ⟨.spiral, turns⟩ center spacing =
      if maxCount < turns * 4 then .error .productTooLarge
      else if maxBytes < turns * 4 * pointSize then .error .spaceTooLarge
      else .ok (spiral move center spacing turns) := by
  unfold layOut reserve
  dsimp only
  by_cases many : maxCount < turns * 4
  · rw [if_pos ⟨rfl, many⟩, if_pos many]; rfl
  · rw [if_neg fun h => many h.2, if_neg many]
    split <;> rfl

/-- A spiral of so many turns around a center, without rounding. If its legs can be counted, it is laid out exactly if
there is space for its corners, four for each turn, which are the corners of squares around the center but for the first
of each turn. No two of them are in one place, none is closer to the center than one before it, and if the layout is cut
short, none of those that are left out is closer than one of those that are left. -/
theorem spiral_outward (center : Vec ℝ) {spacing : ℝ} (apart : 0 < spacing) (turns : Nat) :
    (layOut Vec.offset ⟨.spiral, turns⟩ center spacing =
      if maxCount < turns * 4 then .error .productTooLarge
      else if maxBytes < turns * 4 * pointSize then .error .spaceTooLarge
      else .ok (spiral Vec.offset center spacing turns)) ∧
    (spiral Vec.offset center spacing turns).length = 4 * turns ∧
    spiral Vec.offset center spacing turns =
      ((List.range turns).flatMap corners).map (gridPlace center spacing) ∧
    (spiral Vec.offset center spacing turns).Nodup ∧
    (spiral Vec.offset center spacing turns).Pairwise (fun p q => (p - center).norm ≤ (q - center).norm) ∧
    ∀ room, ∀ p ∈ (spiral Vec.offset center spacing turns).take room,
      ∀ q ∈ (spiral Vec.offset center spacing turns).drop room, (p - center).norm ≤ (q - center).norm := by
  have outward : (spiral Vec.offset center spacing turns).Pairwise
      fun p q => (p - center).norm ≤ (q - center).norm := by
    rw [spiral_eq, List.pairwise_map]
    exact (pairwise_square turns).imp (norm_gridPlace_le center apart)
  refine ⟨layOut_spiral Vec.offset center spacing turns, ?_, spiral_eq center spacing turns, ?_, outward, ?_⟩
  · rw [spiral_eq, List.length_map, length_allCorners]
  · rw [spiral_eq]
    exact (nodup_allCorners turns).map (gridPlace_injective center apart)
  · intro room
    rw [← List.take_append_drop room (spiral Vec.offset center spacing turns)] at outward
    exact (List.pairwise_append.1 outward).2.2

/-- Two turns, three metres apart. -/
theorem spiral_outward_twice :
    (0 : ℝ) < 3 ∧ layOut Vec.offset ⟨.spiral, 2⟩ (⟨0, 0⟩ : Vec ℝ) 3 =
      .ok [⟨0, 3⟩, ⟨3, 3⟩, ⟨3, -3⟩, ⟨-3, -3⟩, ⟨-3, 6⟩, ⟨6, 6⟩, ⟨6, -6⟩, ⟨-6, -6⟩] := by
  have apart : (0 : ℝ) < 3 := by norm_num
  obtain ⟨laid, -, closed, -⟩ := spiral_outward ⟨0, 0⟩ apart 2
  refine ⟨apart, ?_⟩
  rw [laid, if_neg (by decide), if_neg (by decide), closed]
  norm_num [List.range_succ, corners, gridPlace]

/-- The legs of this spiral can be counted, but no memory has space for its corners. -/
theorem spiral_without_space :
    100000000000000000 * 4 ≤ maxCount ∧
      layOut Vec.offset ⟨.spiral, 100000000000000000⟩ (⟨0, 0⟩ : Vec ℝ) 1 = .error .spaceTooLarge := by
  refine ⟨by decide, ?_⟩
  rw [layOut_spiral, if_neg (by decide), if_pos (by decide)]

end Pattern

end GateNav
