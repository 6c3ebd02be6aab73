import GateNav.Fault
import GateNav.Scalar
import GateNav.Sorting.Runs

/-!
# Trimmed moving average

A `Window` holds the last samples of a series. Its value is the mean of the middle part of the sorted
samples, so that a few outliers on either side leave no trace.

Where all samples can be compared, `value?` is the value. `value` also says what happens where some cannot: the mean of
what the sorting of many samples makes of them, or a halt where their comparisons contradict each other. The two agree
on samples that can be compared (`value_of_comparable`) and on few samples (`value_of_length_le`).
-/

namespace GateNav

/-- The last `capacity` samples of a series, oldest first. -/
structure Window (α : Type) where
  samples : List α
  capacity : Nat
  /-- Fraction of the sorted samples that is averaged. -/
  proportion : α
  /-- Samples needed before the value is trusted. -/
  minSamples : Nat
deriving DecidableEq, Repr

namespace Window
variable {α : Type} [Scalar α]

/-- An empty window. Each argument is moved into its range: at least one place, a fraction above zero and
at most one, and no more samples asked for than there are places. -/
def empty (capacity : Nat) (proportion : α) (minSamples : Nat) : Window α where
  samples := []
  capacity := max capacity 1
  proportion :=
    if Scalar.isFinite proportion && Scalar.zero < proportion then Scalar.least proportion Scalar.one else Scalar.one
  minSamples := min (max minSamples 1) (max capacity 1)

def sampleSize : Nat := 8

/-- An empty window whose places are set aside, `size` bytes for each. -/
def build (size capacity : Nat) (proportion : α) (minSamples : Nat) : Checked α (Window α) := do
  reserve (max capacity 1) size
  return empty capacity proportion minSamples

/-- The window with a further sample; a full window loses its oldest one. -/
def push (w : Window α) (x : α) : Window α :=
  { w with samples := (if w.samples.length = w.capacity then w.samples.tail else w.samples) ++ [x] }

def clear (w : Window α) : Window α := { w with samples := [] }

/-- Enough samples to trust the value. -/
def ready (w : Window α) : Bool := w.minSamples ≤ w.samples.length

/-- The comparison that samples are sorted by. -/
def less (x y : α) : Bool := x < y

/-- The sample can be compared with itself, and so with all others. -/
def comparable (x : α) : Bool := x ≤ x

/-- The samples in upward order; samples that compare neither way keep the order of arrival. -/
def sort (xs : List α) : List α := Sorting.byInsertion less xs

/-- The samples in upward order, if their comparisons agree with each other. -/
def sort? (xs : List α) : Option (List α) := if xs.all comparable then some (sort xs) else Sorting.stable? less xs

/-- The sum from left to right. It starts at negative zero, which changes no number it is added to. -/
def sum (xs : List α) : α := xs.foldl (· + ·) (-Scalar.zero)

/-- How many of `n` samples are averaged. -/
def keep (proportion : α) (n : Nat) : Nat := min (max (Scalar.round ((n : α) * proportion)) 1) n

/-- The middle ones of sorted samples, as far as they are averaged. -/
def middle (proportion : α) (sorted : List α) : List α :=
  let n := sorted.length
  let kept := keep proportion n
  (sorted.drop ((n - kept) / 2)).take kept

/-- The mean of the middle ones of sorted samples. -/
def mean (proportion : α) (sorted : List α) : α :=
  sum (middle proportion sorted) / (keep proportion sorted.length : α)

/-- The value of a window whose samples can be compared, if it holds one. -/
def value? (w : Window α) : Option α := if w.samples.isEmpty then none else some (mean w.proportion (sort w.samples))

/-- The value of the window, if it holds a sample. There is a halt where the comparisons of the samples contradict each
other. -/
def value (w : Window α) : Checked α (Option α) :=
  if w.samples.isEmpty then return none
  else
    match sort? w.samples with
    | some sorted => return some (mean w.proportion sorted)
    | none => throw .noOrder

theorem sort?_of_comparable {xs : List α} (h : xs.all comparable) : sort? xs = some (sort xs) := by
  simp [sort?, h]

theorem sort?_of_length_le {xs : List α} (h : xs.length ≤ Sorting.insertionLimit) : sort? xs = some (sort xs) := by
  simp only [sort?, Sorting.stable?, h, ↓reduceIte, sort, ite_self]

theorem value_of_sort? {w : Window α} (h : sort? w.samples = some (sort w.samples)) : w.value = .ok w.value? := by
  unfold value value?; rw [h]; split <;> rfl

/-- Samples that can be compared have a value. -/
theorem value_of_comparable {w : Window α} (h : w.samples.all comparable) : w.value = .ok w.value? :=
  value_of_sort? (sort?_of_comparable h)

/-- Few samples have a value, whatever they are. -/
theorem value_of_length_le {w : Window α} (h : w.samples.length ≤ Sorting.insertionLimit) : w.value = .ok w.value? :=
  value_of_sort? (sort?_of_length_le h)

end Window

end GateNav
