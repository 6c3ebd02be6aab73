import Mathlib.Data.Finset.Card
import Mathlib.Data.Fintype.Basic
import Mathlib.Tactic.Linarith
import GateNav.Proofs.Belief.Ranges
import GateNav.Proofs.Window.Sorted

/-!
# Outliers leave no trace

As many samples are cut off above the middle ones as below, or one more. So if a sample that is averaged does not exceed
`x`, there are more samples that do not than were cut off below (`lt_countP_le_of_mem_middle`), and likewise above. The
mean is never below all samples that are averaged, nor above all of them. Hence, if no more samples are spoilt than
were cut off below, one of the others does not exceed the value, and one is not below it, however far off the spoilt
ones are (`Window.value_between_others`).
-/

namespace GateNav.Window
variable {xs ys : List Rat} {x y : Rat}

/-! ### Counting places -/

theorem countP_eq_card (p : Rat → Prop) [DecidablePred p] (xs : List Rat) :
    xs.countP (p ·) = (Finset.univ.filter fun i : Fin xs.length => p (xs.get i)).card := by
  conv_lhs => rw [← List.ofFn_get xs, ← Multiset.coe_countP]
  rw [← Fin.univ_val_map, Multiset.countP_map]
  rfl

/-- If there are more samples of a kind than places in `spoilt`, there is one at another place. -/
theorem exists_notMem_of_lt_countP {p : Rat → Prop} [DecidablePred p] {spoilt : Finset (Fin xs.length)}
    (more : spoilt.card < xs.countP (p ·)) : ∃ i ∉ spoilt, p (xs.get i) := by
  rw [countP_eq_card] at more
  obtain ⟨i, holds, other⟩ := Finset.exists_mem_notMem_of_card_lt_card more
  exact ⟨i, other, (Finset.mem_filter.1 holds).2⟩

/-! ### What is cut off -/

theorem length_lt_countP_le (upward : (xs ++ ys).Pairwise (· ≤ ·)) (later : y ∈ ys) (le : y ≤ x) :
    xs.length < (xs ++ ys).countP (· ≤ x) := by
  have earlier : xs.countP (· ≤ x) = xs.length := by
    refine List.countP_eq_length.2 fun a ha => decide_eq_true ?_
    exact ((List.pairwise_append.1 upward).2.2 a ha y later).trans le
  have one : 0 < ys.countP (· ≤ x) := List.countP_pos_iff.2 ⟨y, later, decide_eq_true le⟩
  rw [List.countP_append, earlier]
  omega

theorem length_lt_countP_ge (upward : (xs ++ ys).Pairwise (· ≤ ·)) (earlier : y ∈ xs) (ge : x ≤ y) :
    ys.length < (xs ++ ys).countP (x ≤ ·) := by
  have later : ys.countP (x ≤ ·) = ys.length := by
    refine List.countP_eq_length.2 fun b hb => decide_eq_true ?_
    exact ge.trans ((List.pairwise_append.1 upward).2.2 y earlier b hb)
  have one : 0 < xs.countP (x ≤ ·) := List.countP_pos_iff.2 ⟨y, earlier, decide_eq_true ge⟩
  rw [List.countP_append, later]
  omega

/-- Below each of the middle ones lie all samples that are cut off below. -/
theorem lt_countP_le_of_mem_middle {proportion : Rat} (upward : xs.Pairwise (· ≤ ·)) (mem : y ∈ middle proportion xs)
    (le : y ≤ x) : (xs.length - keep proportion xs.length) / 2 < xs.countP (· ≤ x) := by
  unfold middle at mem
  dsimp only at mem
  generalize hs : (xs.length - keep proportion xs.length) / 2 = start at mem ⊢
  have cut : (xs.take start).length = start := by rw [List.length_take]; omega
  have parts : (xs.take start ++ xs.drop start).Pairwise (· ≤ ·) := by rwa [List.take_append_drop]
  have below := length_lt_countP_le parts (List.mem_of_mem_take mem) le
  rwa [List.take_append_drop, cut] at below

/-- Above each of the middle ones lie all samples that are cut off above, and these are no fewer. -/
theorem lt_countP_ge_of_mem_middle {proportion : Rat} (upward : xs.Pairwise (· ≤ ·)) (mem : y ∈ middle proportion xs)
    (ge : x ≤ y) : (xs.length - keep proportion xs.length) / 2 < xs.countP (x ≤ ·) := by
  unfold middle at mem
  dsimp only at mem
  rw [List.take_drop] at mem
  generalize he : (xs.length - keep proportion xs.length) / 2 + keep proportion xs.length = stop at mem
  have parts : (xs.take stop ++ xs.drop stop).Pairwise (· ≤ ·) := by rwa [List.take_append_drop]
  have above := length_lt_countP_ge parts (List.mem_of_mem_drop mem) ge
  rw [List.take_append_drop, List.length_drop] at above
  have within : keep proportion xs.length ≤ xs.length := Nat.min_le_right _ _
  omega

/-! ### The mean -/

/-- One of the samples does not exceed their mean, and one is not below it. -/
theorem exists_le_mean (some_left : xs ≠ []) :
    (∃ y ∈ xs, y ≤ xs.sum / xs.length) ∧ ∃ y ∈ xs, xs.sum / xs.length ≤ y := by
  have count : (0 : Rat) < xs.length := Nat.cast_pos.2 (List.length_pos_iff.2 some_left)
  have same : (xs.map fun _ => xs.sum / xs.length).sum = (xs.map id).sum := by
    rw [List.map_const', List.sum_replicate, nsmul_eq_mul, mul_div_cancel₀ _ count.ne', List.map_id]
  exact ⟨List.exists_le_of_sum_le some_left _ _ same.ge, List.exists_le_of_sum_le some_left _ _ same.le⟩

theorem middle_ne_nil {proportion : Rat} (some_left : xs ≠ []) : middle proportion xs ≠ [] := by
  have kept := (keep_in_range proportion (List.length_pos_iff.2 some_left)).1
  rw [← List.length_pos_iff, length_middle]
  exact kept

/-- The mean of the middle ones has more samples on either side of it than are cut off below. -/
theorem lt_countP_mean (proportion : Rat) (some_left : xs ≠ []) :
    (xs.length - keep proportion xs.length) / 2 < xs.countP (· ≤ mean proportion (sort xs)) ∧
      (xs.length - keep proportion xs.length) / 2 < xs.countP (mean proportion (sort xs) ≤ ·) := by
  have perm := sort_perm xs
  have kept_some : middle proportion (sort xs) ≠ [] :=
    middle_ne_nil fun none => some_left (List.perm_nil.1 (none ▸ perm).symm)
  obtain ⟨⟨low, low_mem, low_le⟩, high, high_mem, le_high⟩ := exists_le_mean kept_some
  rw [length_middle, ← mean_eq] at low_le le_high
  have below := lt_countP_le_of_mem_middle (pairwise_sort xs) low_mem low_le
  have above := lt_countP_ge_of_mem_middle (pairwise_sort xs) high_mem le_high
  rw [length_sort, perm.countP_eq] at below above
  exact ⟨below, above⟩

/-- The value of a window does not depend on the order in which its samples came. It lies between two samples at places
that are not spoilt, as long as no more places are spoilt than samples are cut off below the middle ones; what the
samples at the spoilt places are makes no difference. -/
theorem value_between_others (w : Window Rat) (some_left : w.samples ≠ []) (spoilt : Finset (Fin w.samples.length))
    (few : spoilt.card ≤ (w.samples.length - keep w.proportion w.samples.length) / 2) :
    ∃ x, (∀ order : List Rat, order.Perm w.samples → ({ w with samples := order } : Window Rat).value = .ok (some x)) ∧
      (∃ i ∉ spoilt, w.samples.get i ≤ x) ∧ ∃ i ∉ spoilt, x ≤ w.samples.get i := by
  obtain ⟨below, above⟩ := lt_countP_mean w.proportion some_left
  refine ⟨mean w.proportion (sort w.samples), ?_, ?_, ?_⟩
  · intro order perm
    have same : sort order = sort w.samples :=
      sort_eq_of_perm (perm.trans (sort_perm w.samples).symm) (pairwise_sort w.samples)
    have some_samples : order ≠ [] := by
      rintro rfl
      exact some_left (List.nil_perm.1 perm)
    rw [value_of_ne_nil some_samples, same]
  · exact exists_notMem_of_lt_countP (few.trans_lt below)
  · exact exists_notMem_of_lt_countP (few.trans_lt above)

end GateNav.Window

namespace GateNav

/-- Three of these six samples are averaged, one is cut off below and two above. The one of a thousand is spoilt. -/
def Exact.spoilt : Window Rat := ⟨[3, 1000, 5, 4, 9, 7], 6, 1 / 2, 1⟩

theorem Window.value_between_others_spike :
    Exact.spoilt.value = .ok (some (16 / 3)) ∧
      (⟨[1000, 9, 7, 5, 4, 3], 6, 1 / 2, 1⟩ : Window Rat).value = .ok (some (16 / 3)) ∧
      (∃ i ∉ ({1} : Finset (Fin 6)), Exact.spoilt.samples.get i ≤ 16 / 3) ∧
      ∃ i ∉ ({1} : Finset (Fin 6)), 16 / 3 ≤ Exact.spoilt.samples.get i := by
  obtain ⟨x, value, below, above⟩ :=
    value_between_others Exact.spoilt (by decide) ({1} : Finset (Fin 6)) (by decide +kernel)
  have first : Exact.spoilt.value = .ok (some (16 / 3)) := by decide +kernel
  cases (value Exact.spoilt.samples (.refl _)).symm.trans first
  exact ⟨first, value [1000, 9, 7, 5, 4, 3] (by decide), below, above⟩

end GateNav
