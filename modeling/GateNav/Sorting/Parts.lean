import GateNav.Sorting.Small

/-!
# Merging runs and choosing pivots

Two lists are merged from the end of the shorter one. A pivot is the middle one of three, or of three such middle ones,
and splits a list into what belongs before it and what belongs behind it, both in their order.
-/

namespace GateNav.Sorting
variable {α : Type} (less : α → α → Bool)

/-- Two lists merged from the front. -/
def mergeUp (xs ys : List α) : List α :=
  let (taken, xs, ys) := mergeFront less (xs.length + ys.length) xs ys
  taken ++ xs ++ ys

/-- Two lists merged from the back. -/
def mergeDown (xs ys : List α) : List α :=
  let (taken, xs, ys) := mergeBack less (xs.length + ys.length) xs.reverse ys.reverse
  (taken ++ xs ++ ys).reverse

/-- Two lists merged. -/
def merge (xs ys : List α) : List α := if xs.length ≤ ys.length then mergeUp less xs ys else mergeDown less xs ys

/-- From this length on pivots are middle ones of middle ones. -/
def pivotDepthLimit : Nat := 64

/-- The comparison of what stands at two places. -/
def lessAt (xs : Array α) (i j : Nat) : Bool :=
  match xs[i]?, xs[j]? with
  | some x, some y => less x y
  | _, _ => false

/-- The place of the middle one of three. -/
def middle (xs : Array α) (a b c : Nat) : Nat :=
  let x := lessAt less xs a b
  if x = lessAt less xs a c then if lessAt less xs b c = x then b else c else a

/-- The place of the middle one of three that stand for `size` things each. -/
def middleOf (xs : Array α) (a b c size : Nat) : Nat :=
  if h : pivotDepthLimit ≤ size * 8 then
    have : size / 8 < size := by unfold pivotDepthLimit at h; omega
    let eighth := size / 8
    let each (start : Nat) : Nat := middleOf xs start (start + eighth * 4) (start + eighth * 7) eighth
    middle less xs (each a) (each b) (each c)
  else middle less xs a b c
termination_by size

/-- The place of the pivot. -/
def pivotPlace (xs : Array α) : Nat :=
  let eighth := xs.size / 8
  if xs.size < pivotDepthLimit then middle less xs 0 (eighth * 4) (eighth * 7)
  else middleOf less xs 0 (eighth * 4) (eighth * 7) eighth

/-- The list without what stands at `place`, split by `before`; the pivot, which stands there, joins the first part if
`first`, else the second. -/
def splitAround (before : α → Bool) (place : Nat) (first : Bool) (xs : List α) : List α × List α :=
  let (xs, behind) := (xs.take place, xs.drop place)
  let (pivot, behind) := (behind.take 1, behind.drop 1)
  let here (yes : Bool) : List α := if first = yes then pivot else []
  (xs.filter before ++ here true ++ behind.filter before,
    xs.filter (!before ·) ++ here false ++ behind.filter (!before ·))

end GateNav.Sorting
