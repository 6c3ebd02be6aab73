import GateNav.Proofs.Exact
import GateNav.Proofs.Navigator.Course

/-!
# What is known of the last search

The outcome of a navigator is read off its phase, unless the last search was broken off. An abort takes the navigator to
rest, a second one after a search that was broken off as well as one after a search that has ended by itself. The first
does no harm, but with the second the outcome of that search is lost (`Journal.Forgets`).
-/

namespace GateNav
variable {α : Type}

/-- The search has ended by itself: it was not broken off. -/
def Outcome.byItself : Outcome → Bool
  | .error (.aborted _) => false
  | _ => true

namespace Navigator
variable {n : Navigator α} {dismissed : Prop} {o : Outcome}

/-- What a navigator at rest remembers is the outcome it gives, unless it is dismissed after a search that has ended by
itself. -/
theorem Recalls.outcome (h : n.Recalls dismissed o) (remembers : dismissed → o.byItself = false) :
    n.outcome? = some o := by
  unfold outcome?
  cases h with
  | traversed unbroken kept =>
    have on : ¬ dismissed := fun gone => nomatch remembers gone
    rw [unbroken, kept on]
  | notFound unbroken kept =>
    have on : ¬ dismissed := fun gone => nomatch remembers gone
    rw [unbroken, kept on]
  | aborted broken => rw [broken]

theorem Recalls.no_outcome (h : n.Recalls dismissed o) (gone : dismissed) (itself : o.byItself = true) :
    n.outcome? = none := by
  unfold outcome?
  cases h with
  | traversed unbroken _ lost | notFound unbroken _ lost => rw [unbroken, lost gone]
  | aborted => cases itself

theorem Employs.no_outcome [Scalar α] [Trig α] {p : Pilot α} {taken : Nat} (h : n.Employs p taken) :
    n.outcome? = none := by
  have on := h.sails.on
  unfold outcome?
  rw [h.unbroken, h.phase]
  cases phase : p.phase
  case traversed | notFound => rw [phase] at on; cases on
  all_goals rfl

end Navigator

namespace Journal
variable [Scalar α] [Trig α] [Numeral α] (L : Journal α)

/-- The last search has ended by itself, and there was an abort since. -/
def Forgets (t : Nat) : Prop :=
  ∃ s e o, L.Ends s e o ∧ e ≤ t ∧ L.Quiet e t ∧ o.byItself = true ∧ L.Dismissed e t

variable {L} {s s' e e' t : Nat} {o o' : Outcome} {r r' : Option Outcome}

theorem Goes.not_rests (goes : L.Goes s t) (rests : L.Rests s' e t o) : False := by
  obtain ⟨p, employs⟩ := goes.employs
  have idle := rests.idle
  rw [employs.busy] at idle; cases idle

theorem Quiet.not_ends (quiet : L.Quiet 0 t) (ends : L.Ends s e o) (le : e ≤ t) : False := by
  have no_search := quiet s (Nat.zero_le s) (Nat.lt_of_lt_of_le ends.lt le)
  rw [ends.isSearch] at no_search; cases no_search

/-- No search ends after the last one. -/
theorem Ends.le_of_ends (h : L.Ends s e o) (quiet : L.Quiet e t) (h' : L.Ends s' e' o') (le : e' ≤ t) : e' ≤ e := by
  obtain ⟨i, rfl, given, goes⟩ := h'.goes
  by_contra later
  have still : L.Quiet e i := fun j he hi => quiet j he (by omega)
  exact goes.not_rests (h.rests (by omega) (Nat.le_of_lt given) still)

theorem Ends.outcome (h : L.Ends s e o) : (L.navigator e).outcome? = some o :=
  h.rests_self.recalls.outcome fun gone => absurd gone dismissed_self

/-- After any orders there is only one outcome that the last search can have. -/
theorem Due.unique (h : L.Due t r) (h' : L.Due t r') (ht : t ≤ L.length) : r = r' := by
  -- A search that is on has a pilot, one that has ended has none, and of two that have ended one is the last.
  cases h with
  | fresh quiet =>
    cases h' with
    | fresh | underway => rfl
    | ended ends le => exact (quiet.not_ends ends le).elim
  | underway goes =>
    cases h' with
    | fresh | underway => rfl
    | ended ends le quiet => exact (goes.not_rests (ends.rests le ht quiet)).elim
  | ended ends le quiet =>
    cases h' with
    | fresh quiet' => exact (quiet'.not_ends ends le).elim
    | underway goes => exact (goes.not_rests (ends.rests le ht quiet)).elim
    | ended ends' le' quiet' =>
      have same := Nat.le_antisymm (ends'.le_of_ends quiet' ends le) (ends.le_of_ends quiet ends' le')
      subst same
      exact ends.outcome.symm.trans ends'.outcome

theorem Forgets.no_outcome (h : L.Forgets t) (ht : t ≤ L.length) : (L.navigator t).outcome? = none := by
  obtain ⟨s, e, o, ends, le, quiet, itself, gone⟩ := h
  exact (ends.rests le ht quiet).recalls.no_outcome gone itself

theorem Due.outcome (h : L.Due t r) (ht : t ≤ L.length) (remembers : ¬ L.Forgets t) :
    (L.navigator t).outcome? = r := by
  cases h with
  | fresh quiet =>
    obtain ⟨-, off, unbroken⟩ := quiet.off ht
    unfold Navigator.outcome?
    rw [unbroken, off]
  | underway goes =>
    obtain ⟨p, employs⟩ := goes.employs
    exact employs.no_outcome
  | ended ends le quiet =>
    refine (ends.rests le ht quiet).recalls.outcome fun gone => ?_
    by_contra itself
    exact remembers ⟨_, _, _, ends, le, quiet, by simpa using itself, gone⟩

/-- After any orders the last search has one outcome, or none while it is on and before the first one. The navigator
gives this outcome if it has not forgotten it, and else none. -/
theorem outcome_unless_forgotten (L : Journal α) :
    ∀ t ≤ L.length, ∃ r, L.Due t r ∧ (∀ r', L.Due t r' → r' = r) ∧
      (¬ L.Forgets t → (L.navigator t).outcome? = r) ∧ (L.Forgets t → (L.navigator t).outcome? = none) := by
  intro t ht
  obtain ⟨r, due⟩ := L.due ht
  exact ⟨r, due, fun r' due' => due'.unique due ht, due.outcome ht, fun forgets => forgets.no_outcome ht⟩

end Journal

/-- A search that is broken off twice. -/
def Exact.insistent (t : Nat) : Order Rat := if t = 0 then .search gate else .abort

def Exact.brokenOff : Journal Rat :=
  .ofOrders ⟨prompt, carefree⟩ navigator build_eq insistent 3 (by decide +kernel)

/-- The second abort does no harm: the outcome due is given. -/
theorem Journal.outcome_unless_forgotten_insistent :
    3 ≤ Exact.brokenOff.length ∧ Exact.brokenOff.Due 3 (some (.error (.aborted .spin))) ∧
      ¬ Exact.brokenOff.Forgets 3 ∧ (Exact.brokenOff.navigator 3).outcome? = some (.error (.aborted .spin)) := by
  have given : (Exact.brokenOff.navigator 3).outcome? = some (.error (.aborted .spin)) := by decide +kernel
  obtain ⟨r, due, -, remembered, forgotten⟩ := outcome_unless_forgotten Exact.brokenOff 3 (Nat.le_refl 3)
  have remembers : ¬ Exact.brokenOff.Forgets 3 := by
    intro forgets
    rw [forgotten forgets] at given
    cases given
  have same := (remembered remembers).symm.trans given
  subst same
  exact ⟨Nat.le_refl 3, due, remembers, given⟩

/-- A search in vain, and an abort after it. -/
def Exact.afterthought (t : Nat) : Order Rat :=
  if t = 0 then .search gate else if t ≤ 4 then .tick lookout else .abort

/-- Six orders: the last of them is to break off a search that has ended by itself. -/
def Exact.idleAbort : Journal Rat :=
  .ofOrders ⟨prompt, carefree⟩ navigator build_eq afterthought 6 (by decide +kernel)

/-- An abort takes the outcome of a search away that has ended by itself. -/
theorem Journal.outcome_lost :
    ∃ L : Journal Rat, L.Due 6 (some (.error (.notFound 1))) ∧ 6 ≤ L.length ∧ (L.navigator 6).outcome? = none := by
  have order : Exact.idleAbort.order 5 = .abort := rfl
  have given : (Exact.idleAbort.navigator 5).outcome? = some (.error (.notFound 1)) := by decide +kernel
  have lost : (Exact.idleAbort.navigator 6).outcome? = none := by decide +kernel
  have remembers : ¬ Exact.idleAbort.Forgets 5 := by
    intro forgets
    rw [forgets.no_outcome (by decide)] at given
    cases given
  obtain ⟨r, due⟩ := Exact.idleAbort.due (t := 5) (by decide)
  have same := (due.outcome (by decide) remembers).symm.trans given
  subst same
  cases due with
  | ended ends le quiet =>
    have still : Exact.idleAbort.Quiet _ 6 := quiet.succ (by rw [order]; rfl)
    exact ⟨Exact.idleAbort, .ended ends (Nat.le_succ_of_le le) still, Nat.le_refl 6, lost⟩

end GateNav
