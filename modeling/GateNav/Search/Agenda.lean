/-!
# Points still to be searched

An `Agenda` is a bounded queue. Each point taken counts as a visit; once the agenda is empty there is nothing
left to try.
-/

namespace GateNav

/-- A bounded queue that counts what is taken from it. -/
structure Agenda (β : Type) where
  points : List β
  capacity : Nat
  visited : Nat
deriving DecidableEq, Repr

namespace Agenda
variable {β : Type}

/-- The points in order, as many as there is room for; there is room for one at least. -/
def ofList (points : List β) (capacity : Nat) : Agenda β := ⟨points.take (max capacity 1), max capacity 1, 0⟩

/-- The next point, if there is one, and the agenda without it. -/
def next (a : Agenda β) : Option β × Agenda β :=
  match a.points with
  | [] => (none, a)
  | p :: rest => (some p, { a with points := rest, visited := a.visited + 1 })

/-- The points go ahead of all others, the last of them first, so that they keep their order; what finds no room is
lost from the end. -/
def putFirst (a : Agenda β) (points : List β) : Agenda β :=
  { a with points := (points.foldr List.cons a.points).take a.capacity }

def remaining (a : Agenda β) : Nat := a.points.length

def isExhausted (a : Agenda β) : Bool := a.points.isEmpty

theorem points_putFirst (a : Agenda β) (points : List β) :
    (a.putFirst points).points = (points ++ a.points).take a.capacity := by
  unfold putFirst
  dsimp only
  rw [List.foldr_cons_eq_append']

end Agenda

end GateNav
