/-!
# Sorting few things

Sorting by a comparison `less` that need not be an order. `byInsertion` always has an outcome. `small?` sorts the two
halves and merges them from both ends at once; where the comparisons contradict each other the two ends may not meet,
and then there is no outcome.
-/

namespace GateNav.Sorting
variable {α : Type} (less : α → α → Bool)

/-- `x` put into things sorted downward, behind all that are greater. -/
def insertDown (x : α) : List α → List α
  | [] => [x]
  | y :: ys => if less x y then y :: insertDown x ys else x :: y :: ys

/-- More things put behind those that are sorted upward. -/
def extend (sorted xs : List α) : List α := (xs.foldl (fun down x => insertDown less x down) sorted.reverse).reverse

/-- The things in upward order; those that compare neither way keep their order. -/
def byInsertion (xs : List α) : List α := extend less [] xs

/-- Up to this length lists are sorted by insertion. -/
def insertionLimit : Nat := 20

/-- Up to this length lists are sorted by halves. -/
def smallLimit : Nat := 32

/-- The first `count` things of two lists that are merged, and what is left of the two. -/
def mergeFront : Nat → List α → List α → List α × List α × List α
  | count + 1, x :: xs, y :: ys =>
    if less y x then
      let (taken, xs, ys) := mergeFront count (x :: xs) ys
      (y :: taken, xs, ys)
    else
      let (taken, xs, ys) := mergeFront count xs (y :: ys)
      (x :: taken, xs, ys)
  | _, xs, ys => ([], xs, ys)

/-- The last `count` things, the last one first, of two lists that are merged and are given backward; and what is left
of the two. -/
def mergeBack : Nat → List α → List α → List α × List α × List α
  | count + 1, x :: xs, y :: ys =>
    if less y x then
      let (taken, xs, ys) := mergeBack count xs (y :: ys)
      (x :: taken, xs, ys)
    else
      let (taken, xs, ys) := mergeBack count (x :: xs) ys
      (y :: taken, xs, ys)
  | _, xs, ys => ([], xs, ys)

/-- Two lists of equal length, or the second one longer by one thing, merged from both ends. There is an outcome if the
two ends meet. -/
def mergeHalves? (xs ys : List α) : Option (List α) :=
  let (front, frontXs, frontYs) := mergeFront less xs.length xs ys
  let (back, backXs, _) := mergeBack less xs.length xs.reverse ys.reverse
  let passed := xs.length - frontXs.length
  let left := backXs.length
  if ys.length ≤ xs.length then if passed = left then some (front ++ back.reverse) else none
  else if passed < left then
    if passed + 1 = left then some (front ++ frontXs.take 1 ++ back.reverse) else none
  else if passed = left then some (front ++ frontYs.take 1 ++ back.reverse)
  else none

/-- Four things in upward order, by five comparisons. -/
def four (w x y z : α) : List α :=
  let (a, b) := if less x w then (x, w) else (w, x)
  let (c, d) := if less z y then (z, y) else (y, z)
  let first := less c a
  let last := less d b
  let least := if first then c else a
  let greatest := if last then b else d
  let left := if first then a else if last then c else b
  let right := if last then d else if first then b else c
  if less right left then [least, right, left, greatest] else [least, left, right, greatest]

/-- The first four things in upward order. -/
def firstFour : List α → List α
  | w :: x :: y :: z :: _ => four less w x y z
  | xs => xs

/-- The first things of the half of a list of `count` things in upward order: eight, four or one. -/
def firstSorted? (count : Nat) (half : List α) : Option (List α) :=
  if 16 ≤ count then mergeHalves? less (firstFour less half) (firstFour less (half.drop 4))
  else if 8 ≤ count then some (firstFour less half)
  else some (half.take 1)

/-- The half of a list of `count` things in upward order. -/
def half? (count : Nat) (half : List α) : Option (List α) := do
  let sorted ← firstSorted? less count half
  return extend less sorted (half.drop sorted.length)

/-- The things in upward order, by way of the two halves. -/
def small? (xs : List α) : Option (List α) :=
  if xs.length < 2 then some xs
  else do
    let middle := xs.length / 2
    let left ← half? less xs.length (xs.take middle)
    let right ← half? less xs.length (xs.drop middle)
    mergeHalves? less left right

end GateNav.Sorting
