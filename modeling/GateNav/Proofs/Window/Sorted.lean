import Mathlib.Algebra.Order.BigOperators.Group.List
import Mathlib.Algebra.Order.Ring.Rat
import Mathlib.Data.List.Sort
import GateNav.Window

/-!
# Exact windows in order

On fractions all samples can be compared, so a window that holds a sample has a value, which is the mean of the middle
ones of its samples in order (`Window.value_of_ne_nil`). What `Window.sort` makes of a list is the one arrangement of it
in upward order (`sort_perm`, `pairwise_sort`), and a further sample is inserted into it (`sort_of_perm_cons`).
-/

namespace GateNav.Window

theorem insertDown_eq (x : Rat) (xs : List Rat) : Sorting.insertDown less x xs = xs.orderedInsert (· ≥ ·) x := by
  induction xs with
  | nil => rfl
  | cons y ys ih =>
    rw [Sorting.insertDown, List.orderedInsert_cons, ih]
    by_cases above : y ≤ x
    · rw [if_neg (by simpa [less] using above), if_pos above]
    · rw [if_pos (by simpa [less] using above), if_neg above]

/-- The samples are inserted one after the other. -/
theorem sort_eq (xs : List Rat) : sort xs = (xs.reverse.insertionSort (· ≥ ·)).reverse := by
  have insert : Sorting.insertDown (less : Rat → Rat → Bool) = List.orderedInsert (· ≥ ·) :=
    funext fun x => funext (insertDown_eq x)
  unfold sort Sorting.byInsertion Sorting.extend List.insertionSort
  rw [List.foldr_reverse, insert, List.reverse_nil]

theorem sort_perm (xs : List Rat) : (sort xs).Perm xs := by
  rw [sort_eq]
  exact (List.reverse_perm _).trans ((List.perm_insertionSort _ _).trans (List.reverse_perm xs))

theorem length_sort (xs : List Rat) : (sort xs).length = xs.length := (sort_perm xs).length_eq

theorem pairwise_sort (xs : List Rat) : (sort xs).Pairwise (· ≤ ·) := by
  rw [sort_eq, List.pairwise_reverse]
  exact List.pairwise_insertionSort (· ≥ ·) _

theorem sort_eq_of_perm {xs ys : List Rat} (h : xs.Perm ys) (upward : ys.Pairwise (· ≤ ·)) : sort xs = ys :=
  ((sort_perm xs).trans h).eq_of_pairwise' (pairwise_sort xs) upward

/-- A further sample is inserted among those in order. -/
theorem sort_of_perm_cons {xs ys : List Rat} {x : Rat} (h : xs.Perm (x :: ys)) :
    sort xs = (sort ys).orderedInsert (· ≤ ·) x := by
  refine sort_eq_of_perm (h.trans ?_) ((pairwise_sort ys).orderedInsert x _)
  exact ((sort_perm ys).symm.cons x).trans (List.perm_orderedInsert _ x _).symm

theorem sum_eq (xs : List Rat) : sum xs = xs.sum := by
  unfold sum
  rw [List.sum_eq_foldl]
  rfl

theorem mean_eq (proportion : Rat) (sorted : List Rat) :
    mean proportion sorted = (middle proportion sorted).sum / (keep proportion sorted.length : Rat) := by
  unfold mean
  rw [sum_eq]

theorem all_comparable (xs : List Rat) : xs.all comparable = true := by
  simp [comparable]

/-- An exact window that holds a sample has a value. -/
theorem value_of_ne_nil {w : Window Rat} (some_left : w.samples ≠ []) :
    w.value = .ok (some (mean w.proportion (sort w.samples))) := by
  rw [value_of_comparable (all_comparable _), value?, if_neg (by simpa using some_left)]

end GateNav.Window
