import Mathlib.Data.List.Perm.Subperm
import Mathlib.Data.List.ReduceOption
import GateNav.Search.Agenda

/-!
# The agenda as a list

To whatever it is asked an agenda gives the answers of a plain list, from which the first point is taken and which is
cut to its room whenever points are put ahead of it. Besides, it counts the points it gives out
(`Agenda.answerAll_serve`). So what holds of such lists holds of agendas: no point comes out more often than it went in,
and as long as nothing is put ahead, the points come out one after the other until none is left
(`Agenda.answers_as_listed`).
-/

namespace GateNav.Agenda
variable {β : Type}

/-- What can be asked of an agenda. -/
inductive Request (β : Type) where
  | next
  | putFirst (points : List β)

/-- The points that go in with a request. -/
def Request.points : Request β → List β
  | .next => []
  | .putFirst points => points

/-- The answers to one request after the other, and what has become of the one that answers. -/
def answerAll {σ : Type} (answer : σ → Request β → Option β × σ) : σ → List (Request β) → List (Option β) × σ
  | s, [] => ([], s)
  | s, r :: requests =>
    let (point, s) := answer s r
    let (points, s) := answerAll answer s requests
    (point :: points, s)

/-- The point an agenda answers with, and the agenda after that. -/
def serve (a : Agenda β) : Request β → Option β × Agenda β
  | .next => a.next
  | .putFirst points => (none, a.putFirst points)

/-- The same for a plain list with room for so many points. -/
def listed (room : Nat) (q : List β) : Request β → Option β × List β
  | .next => (q.head?, q.tail)
  | .putFirst points => (none, (points ++ q).take room)

/-! ### Agendas and lists -/

theorem serve_eq (a : Agenda β) (r : Request β) :
    a.serve r = ((listed a.capacity a.points r).1,
      { points := (listed a.capacity a.points r).2
        capacity := a.capacity
        visited := a.visited + (listed a.capacity a.points r).1.toList.length }) := by
  obtain ⟨points, capacity, visited⟩ := a
  cases r with
  | next => cases points <;> rfl
  | putFirst laid =>
    refine Prod.ext rfl ?_
    rw [Agenda.mk.injEq]
    exact ⟨points_putFirst _ laid, rfl, rfl⟩

/-- An agenda answers as the list does, and counts the points it answers with. -/
theorem answerAll_serve (a : Agenda β) (requests : List (Request β)) :
    answerAll serve a requests = ((answerAll (listed a.capacity) a.points requests).1,
      { points := (answerAll (listed a.capacity) a.points requests).2
        capacity := a.capacity
        visited := a.visited + (answerAll (listed a.capacity) a.points requests).1.reduceOption.length }) := by
  induction requests generalizing a with
  | nil => rfl
  | cons r requests ih =>
    simp only [answerAll]
    rw [serve_eq, ih]
    cases (listed a.capacity a.points r).1 with
    | none => rfl
    | some p => simp [Nat.add_assoc, Nat.add_comm 1]

/-! ### What lists answer -/

variable {room : Nat} {q : List β}

theorem length_listed_le (fits : q.length ≤ room) (r : Request β) : (listed room q r).2.length ≤ room := by
  cases r with
  | next => exact Nat.le_trans (List.tail_sublist q).length_le fits
  | putFirst points => exact List.length_take_le _ _

theorem length_answerAll_le (fits : q.length ≤ room) (requests : List (Request β)) :
    (answerAll (listed room) q requests).2.length ≤ room := by
  induction requests generalizing q with
  | nil => exact fits
  | cons r requests ih => exact ih (length_listed_le fits r)

/-- A point is taken out or stays, unless it finds no room. -/
theorem subperm_listed (room : Nat) (q : List β) (r : Request β) :
    ((listed room q r).1.toList ++ (listed room q r).2).Subperm (q ++ r.points) := by
  cases r with
  | next => cases q <;> simp [listed, Request.points, List.Subperm.refl]
  | putFirst points =>
    have kept : ((points ++ q).take room).Subperm (points ++ q) := (List.take_sublist _ _).subperm
    exact kept.trans List.perm_append_comm.subperm

theorem subperm_answerAll (room : Nat) (q : List β) (requests : List (Request β)) :
    ((answerAll (listed room) q requests).1.reduceOption ++ (answerAll (listed room) q requests).2).Subperm
      (q ++ requests.flatMap Request.points) := by
  induction requests generalizing q with
  | nil => simp [answerAll, List.Subperm.refl]
  | cons r requests ih =>
    have first : (answerAll (listed room) q (r :: requests)).1.reduceOption =
        (listed room q r).1.toList ++ (answerAll (listed room) (listed room q r).2 requests).1.reduceOption := by
      simp only [answerAll]
      cases (listed room q r).1 <;> rfl
    have now := (List.subperm_append_right (requests.flatMap Request.points)).2 (subperm_listed room q r)
    have later := (List.subperm_append_left (listed room q r).1.toList).2 (ih (listed room q r).2)
    rw [List.append_assoc, List.append_assoc] at now
    rw [first, List.flatMap_cons, List.append_assoc]
    exact later.trans now

/-- As long as nothing is put ahead, the points come out in their order, and then no more. -/
theorem answerAll_replicate_next (room : Nat) (q : List β) (n : Nat) :
    answerAll (listed room) q (List.replicate n .next) =
      ((q.take n).map some ++ List.replicate (n - q.length) none, q.drop n) := by
  induction n generalizing q with
  | zero => simp [answerAll]
  | succ n ih =>
    rw [List.replicate_succ, answerAll]
    dsimp only [listed]
    rw [ih]
    cases q with
    | nil => simp [List.replicate_succ]
    | cons p q => simp

theorem reduceOption_answers (q : List β) (m : Nat) : (q.map some ++ List.replicate m none).reduceOption = q := by
  simp [List.reduceOption]

/-- An agenda gives the answers of a list that starts with as many points as there is room for, and is left with the
points that the list is left with. They are never more than there is room for. Those given out are counted, and together
with those left none of them is there more often than it was put in. If only the next point is asked for from then on,
all of them come out, in their order. -/
theorem answers_as_listed (points : List β) (capacity : Nat) (requests : List (Request β)) :
    ∃ answers last, answerAll serve (ofList points capacity) requests = (answers, last) ∧
      answerAll (listed (max capacity 1)) (points.take (max capacity 1)) requests = (answers, last.points) ∧
      last.capacity = max capacity 1 ∧ last.remaining ≤ last.capacity ∧
      last.visited = answers.reduceOption.length ∧
      (answers.reduceOption ++ last.points).Subperm (points ++ requests.flatMap Request.points) ∧
      ∀ n, answerAll serve last (List.replicate n .next) =
        ((last.points.take n).map some ++ List.replicate (n - last.remaining) none,
          { last with points := last.points.drop n, visited := last.visited + min n last.remaining }) := by
  have same := answerAll_serve (ofList points capacity) requests
  refine ⟨_, _, same, rfl, rfl, ?_, ?_, ?_, fun n => ?_⟩
  · exact length_answerAll_le (List.length_take_le _ _) requests
  · exact Nat.zero_add _
  · refine (subperm_answerAll _ _ requests).trans ((List.subperm_append_right _).2 ?_)
    exact (List.take_sublist _ points).subperm
  · rw [answerAll_serve, answerAll_replicate_next, reduceOption_answers, List.length_take]
    rfl

end GateNav.Agenda
