import GateNav.Sorting.Parts

/-!
# Sorting by runs

A list is cut into runs. What is in order already, or in reverse order, makes one run if it is long enough; else some
things are taken together and sorted at once, or later. Neighbouring runs are merged in the order of a balanced tree
over the whole list. `stable? less` has an outcome wherever the comparisons agree with each other, and things that
compare neither way keep their order.
-/

namespace GateNav.Sorting
variable {α : Type}

/-- Things that stand together, perhaps sorted. -/
structure Run (α : Type) where
  sorted : Bool
  items : List α
deriving DecidableEq, Repr

/-- How runs are made and sorted. -/
structure Plan (α : Type) where
  less : α → α → Bool
  /-- Runs are sorted as soon as they are made. -/
  eager : Bool
  /-- Sorts a run that is not. -/
  sort? : List α → Option (List α)
  /-- The length of the whole list. -/
  total : Nat

namespace Plan

/-- The length from which on what is in order already makes a run. -/
def goodLength (p : Plan α) : Nat :=
  if p.total ≤ 4096 then min (p.total - p.total / 2) 64
  else
    let shift := (1 + p.total.log2) / 2
    ((1 <<< shift) + (p.total >>> shift)) / 2

/-- How many things after `x` are in order: each one less than the one before it, or none of them. -/
def ordered (p : Plan α) (falling : Bool) : α → List α → Nat
  | _, [] => 0
  | x, y :: ys => if p.less y x = falling then p.ordered falling y ys + 1 else 0

/-- The things in order at the front, upward. -/
def inOrder (p : Plan α) : List α → List α
  | x :: y :: ys =>
    let falling := p.less y x
    let run := (x :: y :: ys).take (p.ordered falling x (y :: ys) + 1)
    if falling then run.reverse else run
  | xs => xs

/-- The first run of a list. -/
def first? (p : Plan α) (xs : List α) : Option (Run α) :=
  let run := p.inOrder xs
  if p.goodLength ≤ xs.length ∧ p.goodLength ≤ run.length then some ⟨true, run⟩
  else if p.eager then do return ⟨true, ← small? p.less (xs.take smallLimit)⟩
  else some ⟨false, xs.take p.goodLength⟩

/-- The items of a run in upward order. -/
def settle? (p : Plan α) (r : Run α) : Option (List α) := if r.sorted then some r.items else p.sort? r.items

/-- Two neighbouring runs made one. Two that are not sorted are left so. -/
def join? (p : Plan α) (left right : Run α) : Option (Run α) :=
  if left.sorted || right.sorted then do
    let xs ← p.settle? left
    let ys ← p.settle? right
    return ⟨true, merge p.less xs ys⟩
  else some ⟨false, left.items ++ right.items⟩

/-- How deep in the tree two runs are joined that lie between `left`, `middle` and `right`. -/
def depth (p : Plan α) (left middle right : Nat) : Nat :=
  let scale := (4611686018427387904 + p.total - 1) / p.total
  let apart := Nat.xor (scale * (left + middle)) (scale * (middle + right))
  if apart = 0 then 64 else 63 - apart.log2

/-- The runs that are to be joined below `depth` are joined with the last one. -/
def collapse? (p : Plan α) (depth : Nat) : List (Run α × Nat) → Run α → Option (Run α × List (Run α × Nat))
  | [], last => some (last, [])
  | (top, d) :: rest, last =>
    if depth ≤ d then do p.collapse? depth rest (← p.join? top last) else some (last, (top, d) :: rest)

/-- The runs of `rest` are made and joined. The last run so far ends at `place`; `stack` holds those before it and the
depths at which they are joined. -/
def scan? (p : Plan α) : Nat → List (Run α × Nat) → Run α → Nat → List α → Option (Run α)
  | fuel + 1, stack, last, place, x :: xs => do
    let next ← p.first? (x :: xs)
    let count := next.items.length
    let depth := p.depth (place - last.items.length) place (place + count)
    let (last, stack) ← p.collapse? depth stack last
    p.scan? fuel ((last, depth) :: stack) next (place + count) ((x :: xs).drop count)
  | _, stack, last, _, _ => do return (← p.collapse? 0 stack last).1

/-- The list in upward order. -/
def run? (p : Plan α) (xs : List α) : Option (List α) := do
  let first ← p.first? xs
  let count := first.items.length
  p.settle? (← p.scan? xs.length [] first count (xs.drop count))

end Plan

variable (less : α → α → Bool)

/-- The list in upward order, by runs that are sorted at once. -/
def byEagerRuns? (xs : List α) : Option (List α) := Plan.run? ⟨less, true, some, xs.length⟩ xs

/-- The list in upward order, by splitting it around pivots: at most `limit` times one after the other. What is not
less than `bound`, if that is given, is known to be all there is; a pivot that is no greater splits off its equals. -/
def byParts? : Nat → Option α → List α → Option (List α)
  | limit, bound, xs =>
    if xs.length ≤ smallLimit then small? less xs
    else
      match limit with
      | 0 => byEagerRuns? less xs
      | limit + 1 =>
        let place := pivotPlace less xs.toArray
        match xs[place]? with
        | none => none
        | some pivot =>
          let (low, high) := splitAround (less · pivot) place false xs
          if bound.any (!less · pivot) || low.isEmpty then do
            let (equal, rest) := splitAround (!less pivot ·) place true xs
            return equal ++ (← byParts? limit none rest)
          else do
            let high ← byParts? limit (some pivot) high
            let low ← byParts? limit bound low
            return low ++ high

/-- The list in upward order, by parts. -/
def quick? (xs : List α) : Option (List α) := byParts? less (2 * xs.length.log2) none xs

/-- The list in upward order; things that compare neither way keep their order. -/
def stable? (xs : List α) : Option (List α) :=
  if xs.length ≤ insertionLimit then some (byInsertion less xs)
  else Plan.run? ⟨less, xs.length ≤ 2 * smallLimit, quick? less, xs.length⟩ xs

end GateNav.Sorting
