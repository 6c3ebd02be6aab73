import Mathlib.Algebra.Order.Field.Basic
import Mathlib.Tactic.Linarith
import GateNav.Proofs.Belief.Ranges
import GateNav.Proofs.Window.Sorted

/-!
# How far a sample moves the value of a window

A full window gives up its oldest sample for a new one. In order, the samples before and after are those that stay with
one more inserted, and the sum of the middle ones does not fall as what is inserted grows (`sum_middle_mono`). It is
least with a sample below all others and greatest with one above all others. Between the two the middle moves on by one
place, so all but its first and its last sample cancel out (`sum_middle_append_le`). That bounds the way of the value by
the range of all samples over the number of those that are averaged (`Window.smooth`).
-/

namespace GateNav.Window
variable {xs ys : List Rat} {x y low high : Rat}

/-! ### Inserting a sample -/

theorem orderedInsert_of_forall_le (h : ∀ b ∈ xs, x ≤ b) : xs.orderedInsert (· ≤ ·) x = x :: xs := by
  cases xs with
  | nil => rfl
  | cons b xs => exact List.orderedInsert_cons_of_le _ _ (h b List.mem_cons_self)

theorem orderedInsert_of_forall_ge (upward : xs.Pairwise (· ≤ ·)) (h : ∀ b ∈ xs, b ≤ x) :
    xs.orderedInsert (· ≤ ·) x = xs ++ [x] := by
  have appended : (xs ++ [x]).Pairwise (· ≤ ·) :=
    List.pairwise_append.2 ⟨upward, List.pairwise_singleton _ _, fun b hb c hc => List.mem_singleton.1 hc ▸ h b hb⟩
  refine ((List.perm_orderedInsert _ x xs).trans ?_).eq_of_pairwise' (upward.orderedInsert x _) appended
  exact (List.perm_append_singleton x xs).symm

/-- Place by place, the samples in order do not fall as the one that is inserted grows. -/
theorem forall₂_orderedInsert (upward : xs.Pairwise (· ≤ ·)) (h : x ≤ y) :
    List.Forall₂ (· ≤ ·) (xs.orderedInsert (· ≤ ·) x) (xs.orderedInsert (· ≤ ·) y) := by
  induction xs generalizing x with
  | nil => exact .cons h .nil
  | cons b xs ih =>
    by_cases hy : y ≤ b
    · rw [List.orderedInsert_cons_of_le _ _ (h.trans hy), List.orderedInsert_cons_of_le _ _ hy]
      exact .cons h (List.forall₂_same.2 fun _ _ => le_rfl)
    · rw [List.orderedInsert_of_not_le _ _ hy]
      by_cases hx : x ≤ b
      · -- One place on, `b` is inserted on the left where `y` is inserted on the right.
        rw [List.orderedInsert_cons_of_le _ _ hx,
          ← orderedInsert_of_forall_le fun _ hc => List.rel_of_pairwise_cons upward hc]
        exact .cons hx (ih upward.of_cons (le_of_not_ge hy))
      · rw [List.orderedInsert_of_not_le _ _ hx]
        exact .cons le_rfl (ih upward.of_cons h)

/-! ### The middle ones -/

theorem sum_middle_mono (proportion : Rat) (h : List.Forall₂ (· ≤ ·) xs ys) :
    (middle proportion xs).sum ≤ (middle proportion ys).sum := by
  unfold middle
  rw [h.length_eq]
  exact (List.forall₂_take _ (List.forall₂_drop _ h)).sum_le_sum

/-- One place on, the first sample goes and another one comes, and all others stay. -/
theorem sum_take_tail_le {n : Nat} (long : n < xs.length) (within : ∀ x ∈ xs, low ≤ x ∧ x ≤ high) :
    (xs.tail.take n).sum ≤ (xs.take n).sum + (high - low) := by
  cases xs with
  | nil => cases long
  | cons first rest =>
    have both : first + (rest.take n).sum = ((first :: rest).take n).sum + (first :: rest)[n] := by
      rw [← List.sum_cons, ← List.take_succ_cons, List.take_succ_eq_append_getElem long, List.sum_append,
        List.sum_singleton]
    have least := (within first List.mem_cons_self).1
    have greatest := (within _ (List.getElem_mem long)).2
    rw [List.tail_cons]
    linarith

/-- A sample above all others in place of one below all others moves the middle on by one place. -/
theorem sum_middle_append_le (proportion : Rat) (some_range : low ≤ high) (within : ∀ x ∈ xs, low ≤ x ∧ x ≤ high) :
    (middle proportion (xs ++ [high])).sum ≤ (middle proportion (low :: xs)).sum + (high - low) := by
  unfold middle
  simp only [List.length_append, List.length_cons, List.length_nil, Nat.zero_add]
  generalize hk : keep proportion (xs.length + 1) = kept
  generalize hs : (xs.length + 1 - kept) / 2 = start
  have in_range := keep_in_range proportion (n := xs.length + 1) (Nat.succ_pos _)
  have all : ((low :: xs).drop start).take kept = ((low :: (xs ++ [high])).drop start).take kept := by
    rw [← List.cons_append, List.drop_append_of_le_length (by rw [List.length_cons]; omega),
      List.take_append_of_le_length (by rw [List.length_drop, List.length_cons]; omega)]
  have next : (xs ++ [high]).drop start = ((low :: (xs ++ [high])).drop start).tail := by
    rw [List.tail_drop, List.drop_succ_cons]
  have long : kept < ((low :: (xs ++ [high])).drop start).length := by
    simp only [List.length_drop, List.length_cons, List.length_append, List.length_nil]
    omega
  rw [all, next]
  refine sum_take_tail_le long fun z hz => ?_
  have member := List.mem_of_mem_drop hz
  rw [List.mem_cons, List.mem_append, List.mem_singleton] at member
  rcases member with rfl | inside | rfl
  · exact ⟨le_rfl, some_range⟩
  · exact within z inside
  · exact ⟨some_range, le_rfl⟩

/-- Whatever is inserted, the sum of the middle ones stays within the range of all samples. -/
theorem abs_sum_middle_le (proportion : Rat) (upward : xs.Pairwise (· ≤ ·))
    (within : ∀ b ∈ xs, low ≤ b ∧ b ≤ high) (hx : low ≤ x ∧ x ≤ high) (hy : low ≤ y ∧ y ≤ high) :
    |(middle proportion (xs.orderedInsert (· ≤ ·) y)).sum - (middle proportion (xs.orderedInsert (· ≤ ·) x)).sum| ≤
      high - low := by
  have least := orderedInsert_of_forall_le fun b hb => (within b hb).1
  have greatest := orderedInsert_of_forall_ge upward fun b hb => (within b hb).2
  have range := sum_middle_append_le proportion (hx.1.trans hx.2) within
  rw [← least, ← greatest] at range
  have above {z : Rat} (hz : low ≤ z) := sum_middle_mono proportion (forall₂_orderedInsert upward hz)
  have below {z : Rat} (hz : z ≤ high) := sum_middle_mono proportion (forall₂_orderedInsert upward hz)
  rw [abs_le]
  constructor
  · linarith [above hy.1, below hx.2]
  · linarith [above hx.1, below hy.2]

/-! ### A full window -/

variable {w : Window Rat}

@[simp] theorem proportion_push : (w.push y).proportion = w.proportion := rfl

/-- A full window with a new sample holds those that stay and the new one. -/
theorem samples_push_of_full {oldest : Rat} {rest : List Rat} (full : w.samples.length = w.capacity)
    (holds : w.samples = oldest :: rest) : (w.push y).samples = rest ++ [y] := by
  unfold push
  dsimp only
  rw [if_pos full, holds, List.tail_cons]

/-- A full window, whatever it is built with, and a new sample: the value moves by no more than the range of the samples
before and the new one, over the number of samples that are averaged. It does not fall if the new sample is not less
than the one that is given up for it, and it does not rise if it is not greater. -/
theorem smooth (w : Window Rat) (places : 1 ≤ w.capacity) (full : w.samples.length = w.capacity) (y : Rat) :
    ∃ before after, w.value = .ok (some before) ∧ (w.push y).value = .ok (some after) ∧
      (∀ low ∈ (w.samples ++ [y]).min?, ∀ high ∈ (w.samples ++ [y]).max?,
        |after - before| ≤ (high - low) / (keep w.proportion w.capacity : Rat)) ∧
      ∀ oldest ∈ w.samples.head?, (oldest ≤ y → before ≤ after) ∧ (y ≤ oldest → after ≤ before) := by
  obtain ⟨oldest, rest, holds⟩ := List.exists_cons_of_length_pos (Nat.lt_of_lt_of_eq places full.symm)
  have pushed := samples_push_of_full (y := y) full holds
  have before : sort w.samples = (sort rest).orderedInsert (· ≤ ·) oldest := sort_of_perm_cons (holds ▸ .refl _)
  have after : sort (w.push y).samples = (sort rest).orderedInsert (· ≤ ·) y :=
    sort_of_perm_cons (pushed ▸ List.perm_append_singleton y rest)
  have count : rest.length + 1 = w.capacity := by rw [← full, holds, List.length_cons]
  have kept : (0 : Rat) < (keep w.proportion w.capacity : Rat) :=
    Nat.cast_pos.2 (keep_in_range w.proportion places).1
  have upward := pairwise_sort rest
  refine ⟨_, _, value_of_ne_nil (holds ▸ List.cons_ne_nil _ _),
    value_of_ne_nil (pushed ▸ List.append_ne_nil_of_right_ne_nil _ (List.cons_ne_nil _ _)), ?_, ?_⟩
  all_goals
    rw [mean_eq, mean_eq, before, after, proportion_push, List.orderedInsert_length, List.orderedInsert_length,
      length_sort, count]
  · intro low hlow high hhigh
    have range : ∀ x ∈ w.samples ++ [y], low ≤ x ∧ x ≤ high := fun x hx =>
      ⟨(List.le_min?_iff hlow).1 le_rfl x hx, (List.max?_le_iff hhigh).1 le_rfl x hx⟩
    rw [holds] at range
    have within : ∀ b ∈ sort rest, low ≤ b ∧ b ≤ high := fun b hb =>
      range b (List.mem_append_left _ (List.mem_cons_of_mem _ ((sort_perm rest).mem_iff.1 hb)))
    rw [← sub_div, abs_div, abs_of_pos kept]
    exact div_le_div_of_nonneg_right
      (abs_sum_middle_le w.proportion upward within (range oldest (by simp)) (range y (by simp))) kept.le
  · rintro _ ho
    obtain rfl : oldest = _ := by simpa [holds] using ho
    have rises {a b : Rat} (h : a ≤ b) := div_le_div_of_nonneg_right
      (sum_middle_mono w.proportion (forall₂_orderedInsert upward h)) kept.le
    exact ⟨rises, rises⟩

end GateNav.Window

namespace GateNav

/-- A full window whose oldest sample is its least one. The lower two of its three samples are averaged. -/
def Exact.spread : Window Rat := (((Window.empty 3 (1 / 2) 1).push 3).push 9).push 4

theorem Window.smooth_spike :
    Exact.spread.value = .ok (some (7 / 2)) ∧ (Exact.spread.push 100).value = .ok (some (13 / 2)) ∧
      |(13 / 2 : Rat) - 7 / 2| ≤ (100 - 3) / 2 ∧ (7 / 2 : Rat) ≤ 13 / 2 := by
  obtain ⟨before, after, hb, ha, way, sides⟩ := smooth Exact.spread (by decide) (by decide) 100
  have first : Exact.spread.value = .ok (some (7 / 2)) := by decide +kernel
  have second : (Exact.spread.push 100).value = .ok (some (13 / 2)) := by decide +kernel
  cases hb.symm.trans first
  cases ha.symm.trans second
  have kept : keep Exact.spread.proportion Exact.spread.capacity = 2 := by decide +kernel
  have range := way 3 (by decide +kernel) 100 (by decide +kernel)
  rw [kept] at range
  exact ⟨first, second, range, (sides 3 (by decide +kernel)).1 (by decide +kernel)⟩

end GateNav
