import GateNav.Proofs.Navigator.Construction
import GateNav.Proofs.Navigator.Halts
import GateNav.Proofs.Navigator.Outcome
import GateNav.Trial

/-!
# The report of a trial

A report draws on three sources: the transitions that the trial has kept, the navigator that it ends with, and the
outcome, for which a search that goes on is broken off. While a trial is on (`Trial.Underway`), a cycle takes place in
any case, since the gate of the scenarios has not the largest id and their rover can turn. So a trial ends by itself or
with its last cycle, and in every case the three sources agree (`simulate_consistent`).
-/

namespace GateNav
variable {α : Type}

/-- The rover of the scenarios can turn either way. -/
class Scalar.Steerable (α : Type) [Scalar α] : Prop where
  turns : -(Drive.default : Drive α).turnRate ≤ (Drive.default : Drive α).turnRate

instance : Scalar.Steerable Rat := ⟨by decide +kernel⟩

instance : Scalar.Steerable Float := ⟨by decide +kernel⟩

/-! ### What a report says -/

/-- The last transition tells how the search ended: where it led to an end, that is the final phase, reached in the last
cycle. From anywhere else the search was broken off, at the demand of the caller or for lack of cycles. -/
structure Report.Concludes (r : Report α) (last : Transition) (maxCycles : Nat) (abort : Bool) : Prop where
  traversed : r.outcome = .ok () ↔ r.finalPhase = .traversed
  notFound : (∃ visited, r.outcome = .error (.notFound visited)) ↔ r.finalPhase = .notFound
  ended : r.finalPhase.isTerminal = true → last = ⟨r.cycles, r.finalPhase⟩
  broken : r.finalPhase.isTerminal = false →
    r.outcome = .error (.aborted last.phase) ∧ r.finalPhase = .off ∧
      (abort = true ∧ r.cycles = 0 ∨ r.cycles = maxCycles)

/-- The report of a trial with at most so many cycles agrees with its course. -/
structure Report.Consistent (r : Report α) (maxCycles : Nat) (abort : Bool) : Prop where
  bounded : r.cycles ≤ maxCycles
  begins : r.transitions.head? = some ⟨0, .spin⟩
  ordered : r.transitions.Pairwise (·.cycle < ·.cycle)
  within : ∀ t ∈ r.transitions, t.cycle ≤ r.cycles
  changes : r.transitions.IsChain (·.phase ≠ ·.phase)
  concludes : ∃ last, r.transitions.getLast? = some last ∧ r.Concludes last maxCycles abort

/-! ### The transitions -/

/-- The transitions up to this cycle, the last one first. -/
structure Transition.Lead (ts : List Transition) (cycles : Nat) (phase : Phase) : Prop where
  begins : ts.getLast? = some ⟨0, .spin⟩
  ordered : ts.Pairwise fun t before => before.cycle < t.cycle
  changes : ts.IsChain (·.phase ≠ ·.phase)
  within : ∀ t ∈ ts, t.cycle ≤ cycles
  ends : ts.head?.map (·.phase) = some phase

namespace Trial
variable {t u : Trial α} {cycles later : Nat} {phase : Phase}

theorem lead_reach (next : Phase) (h : Transition.Lead t.transitions cycles phase) (lt : cycles < later) :
    Transition.Lead (t.reach later next).transitions later next ∧
      (next ≠ phase → (t.reach later next).transitions.head? = some ⟨later, next⟩) := by
  unfold reach
  rw [h.ends]
  have earlier : ∀ x ∈ t.transitions, x.cycle < later := fun x hx => Nat.lt_of_le_of_lt (h.within x hx) lt
  split
  · next same =>
    have same := Option.some.inj same
    subst same
    have within : ∀ x ∈ t.transitions, x.cycle ≤ later := fun x hx => Nat.le_of_lt (earlier x hx)
    exact ⟨⟨h.begins, h.ordered, h.changes, within, h.ends⟩, fun other => absurd rfl other⟩
  · next other =>
    dsimp only
    refine ⟨⟨?_, List.pairwise_cons.2 ⟨earlier, h.ordered⟩, ?_, ?_, rfl⟩, fun _ => rfl⟩
    · rw [List.getLast?_cons, h.begins]
      rfl
    · refine List.isChain_cons.2 ⟨fun x hx => ?_, h.changes⟩
      have led := h.ends
      rw [hx] at led
      cases led
      exact fun same => other (congrArg some same.symm)
    · intro x hx
      rcases List.mem_cons.1 hx with rfl | hx
      · exact Nat.le_refl _
      · exact Nat.le_of_lt (earlier x hx)

/-! ### A trial that is on -/

variable [Scalar α] [Trig α]

/-- The search of a trial is on after so many cycles. -/
structure Underway (t : Trial α) (cycles : Nat) : Prop where
  employs : ∃ p taken, t.navigator.Employs p taken
  answered : t.navigator.Answered
  waypoint : t.navigator.waypoint = some Scenario.waypoint
  drive : t.field.drive = .default
  counts : t.navigator.cycles = cycles
  leads : Transition.Lead t.transitions cycles t.navigator.phase

/-- The search of a trial has ended in this cycle. -/
structure Over (t : Trial α) (cycles : Nat) : Prop where
  idle : t.navigator.pilot = none
  unbroken : t.navigator.abortedIn = none
  terminal : t.navigator.phase.isTerminal = true
  counts : t.navigator.cycles = cycles
  leads : Transition.Lead t.transitions cycles t.navigator.phase
  last : t.transitions.head? = some ⟨cycles, t.navigator.phase⟩

/-- The field of a scenario follows whatever steering. -/
theorem exists_apply [Scalar.Steerable α] {f : Field α} (drive : f.drive = .default) (steering : Steering α) :
    ∃ g, f.apply steering = .ok g ∧ g.drive = .default := by
  have turns (bearing : α) : ∃ r, f.rover.turnToward f.drive.turnRate bearing = .ok r := by
    unfold Rover.turnToward
    rw [drive, if_pos Scalar.Steerable.turns]
    exact ⟨_, rfl⟩
  unfold Field.apply
  cases steering with
  | hold => exact ⟨f, rfl, drive⟩
  | heading bearing =>
    obtain ⟨r, hr⟩ := turns bearing
    dsimp only
    rw [hr]
    exact ⟨_, rfl, drive⟩
  | point goal =>
    dsimp only
    split
    · exact ⟨f, rfl, drive⟩
    · obtain ⟨r, hr⟩ := turns (goal.toLocal f.origin - f.rover.position).bearing
      rw [hr]
      simp only [bind, Except.bind]
      split <;> exact ⟨_, rfl, drive⟩

/-- A trial that is on takes a frame in: no post is on the gate of a scenario that could not be told from the others. -/
theorem Underway.exists_tick (h : t.Underway cycles) (few : cycles < maxCount) (frame : Frame α) :
    ∃ m command events, t.navigator.tick frame = .ok ⟨(m, command), events⟩ := by
  obtain ⟨p, taken, employs⟩ := h.employs
  have layout : ∀ q ∈ t.navigator.pilot, q.LaysOut := by
    intro q busy
    have same : p = q := Option.some.inj (employs.busy.symm.trans busy)
    exact same ▸ employs.sails.layout
  cases tick : t.navigator.tick frame with
  | ok r => exact ⟨r.result.1, r.result.2, r.events, rfl⟩
  | error halt =>
    have room : t.navigator.cycles ≤ maxCount := h.counts ▸ Nat.le_of_lt few
    rcases ((Navigator.tick_eq_error h.answered layout room).1 tick).2 with full | ⟨w, hw, -, last, -⟩
    · rw [h.counts] at full
      exact absurd full (Nat.ne_of_lt few)
    · rw [h.waypoint] at hw
      cases hw
      exact absurd last (show ¬ Scenario.postId = Int32.maxValue by decide)

/-- One cycle of a trial that is on: it is on after it as well, or the cycle was its last. -/
theorem Underway.step [Scalar.Steerable α] (h : t.Underway cycles) (few : cycles < maxCount) :
    ∃ u command, t.step = .ok (u, command) ∧
      ((command.phase.isTerminal = false ∧ u.Underway (cycles + 1)) ∨
        (command.phase.isTerminal = true ∧ u.Over (cycles + 1))) := by
  obtain ⟨m, command, met, tick⟩ := h.exists_tick few t.field.observe.result.1
  obtain ⟨g, follows, drive⟩ := exists_apply (f := t.field.observe.result.2) h.drive command.steering
  obtain ⟨p, taken, employs⟩ := h.employs
  have ticks := Navigator.ticks_of_tick tick
  have counted : m.cycles = cycles + 1 ∧ command.cycle = cycles + 1 ∧ command.phase = m.phase := by
    rw [← h.counts]
    cases ticks <;> exact ⟨rfl, rfl, rfl⟩
  obtain ⟨counts, cycle, phase⟩ := counted
  have reached := lead_reach m.phase h.leads (Nat.lt_succ_self cycles)
  have stepped : ∃ u, t.step = .ok (u, command) ∧ u.navigator = m ∧ u.field = g ∧
      u.transitions = (t.reach (cycles + 1) m.phase).transitions := by
    unfold Trial.step
    dsimp only
    rw [show t.field.observe = ⟨t.field.observe.result, t.field.observe.events⟩ from rfl]
    simp only [tick, bind, Except.bind, follows, cycle, phase]
    refine ⟨_, rfl, ?_, ?_, ?_⟩
    all_goals unfold reach log; dsimp only; split <;> rfl
  obtain ⟨u, step, rfl, rfl, transitions⟩ := stepped
  refine ⟨u, command, step, ?_⟩
  rw [← transitions] at reached
  rcases employs.ticks ticks with ⟨on, q, still⟩ | ⟨terminal, -, idle, -, unbroken, -⟩
  · have waypoint := ticks.waypoint.trans h.waypoint
    exact .inl ⟨on, ⟨⟨q, _, still⟩, h.answered.ticks ticks, waypoint, drive, counts, reached.1⟩⟩
  · refine .inr ⟨terminal, idle, unbroken, phase ▸ terminal, counts, reached.1, reached.2 fun same => ?_⟩
    -- Until now the search was on, so this phase is new.
    have on := employs.sails.on
    rw [← employs.phase, ← same, ← phase, terminal] at on
    cases on

/-- A trial that is on goes through all the cycles it is given, or its search ends in one of them. -/
theorem Underway.advance [Scalar.Steerable α] {n : Nat} (h : t.Underway cycles) (few : cycles + n ≤ maxCount) :
    ∃ u, t.advance n = .ok u ∧ (u.Underway (cycles + n) ∨ ∃ last ≤ cycles + n, u.Over last) := by
  induction n generalizing t cycles with
  | zero => exact ⟨t, rfl, .inl h⟩
  | succ n ih =>
    obtain ⟨u, command, step, after⟩ := h.step (by omega)
    unfold Trial.advance
    simp only [step, bind, Except.bind]
    rcases after with ⟨on, underway⟩ | ⟨terminal, ended⟩
    · rw [if_neg (by simp [on])]
      have ends := ih underway (by omega)
      rwa [Nat.add_right_comm, Nat.add_assoc] at ends
    · rw [if_pos terminal]
      exact ⟨u, rfl, .inr ⟨cycles + 1, by omega, ended⟩⟩

end Trial

/-! ### The report -/

theorem Navigator.abort_of_busy [Scalar α] {n : Navigator α} {p : Pilot α} (busy : n.pilot = some p) :
    n.abort = ⟨{ n with pilot := none, abortedIn := some n.phase, phase := .off },
      [.searchAborted n.phase n.cycles]⟩ := by
  unfold Navigator.abort
  rw [busy]

namespace Transition.Lead
variable {ts : List Transition} {cycles maxCycles : Nat} {phase : Phase}

/-- What the transitions say is said in their order, too. -/
theorem consistent {r : Report α} {abort : Bool} (h : Lead ts cycles phase) (bounded : cycles ≤ maxCycles)
    (counts : r.cycles = cycles) (transitions : r.transitions = ts.reverse)
    (concludes : ∃ last, ts.head? = some last ∧ r.Concludes last maxCycles abort) :
    r.Consistent maxCycles abort := by
  constructor
  case bounded => exact counts ▸ bounded
  all_goals rw [transitions]
  case begins => rw [List.head?_reverse, h.begins]
  case ordered => exact List.pairwise_reverse.2 h.ordered
  case within =>
    intro t ht
    rw [counts]
    exact h.within t (List.mem_reverse.1 ht)
  case changes =>
    rw [List.isChain_reverse]
    exact h.changes.imp fun _ _ other => other.symm
  case concludes => rwa [List.getLast?_reverse]

end Transition.Lead

namespace Trial
variable [Scalar α] [Trig α] {t : Trial α} {cycles : Nat} {scenario : Scenario} {setup : Setup α} {abort : Bool}

/-- The report on a search that is broken off. -/
theorem Underway.conclude (h : t.Underway cycles) (bounded : cycles ≤ setup.run.maxCycles)
    (reason : abort = true ∧ cycles = 0 ∨ cycles = setup.run.maxCycles) :
    (t.conclude scenario setup abort).report.Consistent setup.run.maxCycles abort := by
  obtain ⟨p, taken, employs⟩ := h.employs
  obtain ⟨last, begins, phase⟩ := Option.map_eq_some_iff.1 h.leads.ends
  have report : ∃ position, (t.conclude scenario setup abort).report =
      ⟨scenario, setup.traverse.pattern, t.navigator.cycles, .off, position, t.transitions.reverse,
        .error (.aborted t.navigator.phase)⟩ := by
    have broken := Navigator.abort_of_busy employs.busy
    unfold Trial.conclude
    rw [employs.no_outcome]
    cases abort with
    | true =>
      simp only [if_true, broken]
      exact ⟨_, rfl⟩
    | false =>
      simp only [Bool.false_eq_true, if_false, log, broken]
      exact ⟨_, rfl⟩
  obtain ⟨position, report⟩ := report
  rw [report]
  refine h.leads.consistent bounded h.counts rfl ⟨last, begins, ⟨?_, ?_, nofun, fun _ => ⟨?_, rfl, ?_⟩⟩⟩
  · exact ⟨nofun, nofun⟩
  · exact ⟨nofun, nofun⟩
  · rw [phase]
  · rwa [← h.counts] at reason

omit [Scalar α] [Trig α] in
/-- The report on a search that has ended by itself. -/
theorem Over.conclude (h : t.Over cycles) (bounded : cycles ≤ setup.run.maxCycles) :
    (t.conclude scenario setup abort).report.Consistent setup.run.maxCycles abort := by
  have report (o : Outcome) (given : t.navigator.outcome? = some o) :
      (t.conclude scenario setup abort).report = ⟨scenario, setup.traverse.pattern, t.navigator.cycles,
        t.navigator.phase, t.field.rover.position, t.transitions.reverse, o⟩ := by
    unfold Trial.conclude
    rw [given]
  have last : (⟨cycles, t.navigator.phase⟩ : Transition) = ⟨t.navigator.cycles, t.navigator.phase⟩ := by rw [h.counts]
  rcases Phase.eq_of_isTerminal h.terminal with phase | phase
  · rw [report (.ok ()) (by unfold Navigator.outcome?; rw [h.unbroken, phase])]
    refine h.leads.consistent bounded h.counts rfl ⟨_, h.last, ⟨?_, ?_, fun _ => last, ?_⟩⟩
    all_goals rw [phase]
    · exact ⟨fun _ => rfl, fun _ => rfl⟩
    · exact ⟨nofun, nofun⟩
    · exact nofun
  · rw [report (.error (.notFound t.navigator.visited)) (by unfold Navigator.outcome?; rw [h.unbroken, phase])]
    refine h.leads.consistent bounded h.counts rfl ⟨_, h.last, ⟨?_, ?_, fun _ => last, ?_⟩⟩
    all_goals rw [phase]
    · exact ⟨nofun, nofun⟩
    · exact ⟨fun _ => rfl, fun _ => ⟨_, rfl⟩⟩
    · exact nofun

/-! ### The whole trial -/

variable [Numeral α] {halt : Halt α} {e : SettingsError}

omit [Trig α] in
theorem rejected_of_build (h : Navigator.build setup.settings = .ok (.error e)) :
    setup.settings.validate = .error e := by
  cases valid : setup.settings.validate with
  | error e' =>
    rw [Navigator.build_of_invalid valid] at h
    cases h
    rfl
  | ok =>
    unfold Navigator.build at h
    rw [valid] at h
    obtain ⟨b, -, h⟩ := Checked.bind_eq_ok.1 h
    cases h

/-- The settings that a navigator was built under stand in the way of no search. -/
theorem not_rejected {n : Navigator α} {w : Waypoint α} (built : Navigator.build setup.settings = .ok (.ok n)) :
    n.search w ≠ .ok (.error e) := by
  obtain ⟨valid, b, -, rfl⟩ := Navigator.of_build built
  have valid : setup.traverse.validate = .ok () := TraverseSettings.validate_eq_ok.2 (Settings.validate_eq_ok.1 valid).2
  intro rejected
  obtain ⟨p, hp, h⟩ := Checked.bind_eq_ok.1 rejected
  unfold Pilot.build at hp
  rw [show (Navigator.start setup.settings b).settings.traverse = setup.traverse from rfl, valid] at hp
  obtain ⟨q, -, hp⟩ := Checked.bind_eq_ok.1 hp
  cases hp
  cases h

/-- There is no room for what a trial under these settings begins with. -/
def Halts (setup : Setup α) (halt : Halt α) : Prop :=
  Navigator.build setup.settings = .error halt ∨
    ∃ n, Navigator.build setup.settings = .ok (.ok n) ∧ n.search Scenario.waypoint = .error halt

/-- How a trial can begin. -/
inductive Starts (scenario : Scenario) (setup : Setup α) : Checked α (Except SettingsError (Trial α)) → Prop
  | halt {halt : Halt α} (halts : Halts setup halt) : Starts scenario setup (.error halt)
  | reject {e : SettingsError} (invalid : setup.settings.validate = .error e) : Starts scenario setup (.ok (.error e))
  | begin {t : Trial α} (valid : setup.settings.validate = .ok ()) (possible : ∀ halt, ¬ Halts setup halt)
      (underway : t.Underway 0) : Starts scenario setup (.ok (.ok t))

theorem underway_begun {n : Navigator α} {started : Noted α (Navigator α)} {t : Trial α}
    (built : Navigator.build setup.settings = .ok (.ok n)) (begun : n.search Scenario.waypoint = .ok (.ok started))
    (navigator : t.navigator = started.result) (drive : t.field.drive = .default)
    (transitions : t.transitions = [⟨0, started.result.phase⟩]) : t.Underway 0 := by
  obtain ⟨-, b, prepared, rfl⟩ := Navigator.of_build built
  obtain ⟨_, -, blank⟩ := Checked.bind_eq_ok.1 prepared
  cases blank
  obtain ⟨p, events, hp, result, -⟩ := Navigator.of_search begun
  have spin : p.phase = .spin := by
    obtain ⟨points, -, rfl⟩ := Pilot.of_start (Pilot.of_build hp).2
    rfl
  have blank : (Navigator.start setup.settings (Belief.start setup.settings.tracking)).Answered :=
    ⟨Belief.names_start, fun _ busy => by cases busy⟩
  rw [result] at navigator transitions
  have phase : t.navigator.phase = .spin := by rw [navigator]; exact spin
  constructor
  case drive => exact drive
  case leads =>
    rw [transitions, phase, spin]
    exact ⟨rfl, List.pairwise_singleton _ _, List.isChain_singleton _, by simp, rfl⟩
  all_goals rw [navigator]
  case employs => exact ⟨p, 0, Navigator.employs_begun hp⟩
  case answered => exact (Navigator.Obeys.search hp).answered blank
  case counts => rfl

theorem starts_start (scenario : Scenario) (setup : Setup α) : Starts scenario setup (start scenario setup) := by
  unfold start
  cases built : Navigator.build setup.settings with
  | error halt => exact .halt (.inl built)
  | ok r =>
    cases r with
    | error e => exact .reject (rejected_of_build built)
    | ok n =>
      simp only [bind, Except.bind]
      cases begun : n.search Scenario.waypoint with
      | error halt => exact .halt (.inr ⟨n, built, begun⟩)
      | ok r =>
        cases r with
        | error e => exact absurd begun (not_rejected built)
        | ok started =>
          refine .begin (Navigator.of_build built).1 ?_ (underway_begun built begun ?_ ?_ ?_)
          · rintro halt (halts | ⟨m, built', halts⟩)
            · rw [built] at halts
              cases halts
            · rw [built] at built'
              cases built'
              rw [begun] at halts
              cases halts
          all_goals rfl

theorem valid_of_halts (h : Halts setup halt) : setup.settings.validate = .ok () := by
  cases valid : setup.settings.validate with
  | ok => rfl
  | error e =>
    have rejected := Navigator.build_of_invalid valid
    rcases h with halts | ⟨n, built, -⟩
    · rw [rejected] at halts
      cases halts
    · rw [rejected] at built
      cases built

theorem halts_unique {other : Halt α} (h : Halts setup halt) (h' : Halts setup other) : halt = other := by
  rcases h with halts | ⟨n, built, halts⟩
  · rcases h' with halts' | ⟨n, built, -⟩
    · exact Except.error.inj (halts.symm.trans halts')
    · cases halts.symm.trans built
  · rcases h' with halts' | ⟨n', built', halts'⟩
    · cases built.symm.trans halts'
    · cases built.symm.trans built'
      exact Except.error.inj (halts.symm.trans halts')

/-- A trial that has begun comes to a report. -/
theorem Underway.exists_result [Scalar.Steerable α] (h : t.Underway 0) (scenario : Scenario) (setup : Setup α)
    (abort : Bool) (few : setup.run.maxCycles ≤ maxCount) (begins : start scenario setup = .ok (.ok t)) :
    ∃ result, simulate scenario setup abort = .ok (.ok result) ∧
      result.report.Consistent setup.run.maxCycles abort := by
  unfold simulate
  simp only [begins, bind, Except.bind]
  cases abort with
  | true => exact ⟨_, rfl, h.conclude (Nat.zero_le _) (.inl ⟨rfl, rfl⟩)⟩
  | false =>
    have room : 0 + setup.run.maxCycles ≤ maxCount := by rwa [Nat.zero_add]
    obtain ⟨u, ends, after⟩ := h.advance room
    rw [if_neg Bool.false_ne_true, ends]
    refine ⟨_, rfl, ?_⟩
    rw [Nat.zero_add] at after
    rcases after with underway | ⟨last, within, ended⟩
    · exact underway.conclude (Nat.le_refl _) (.inr rfl)
    · exact ended.conclude within

end Trial

/-- The trial of any scenario ends, and its report agrees with it. Take any settings whose cycles can be counted, and
let the search be broken off before its first cycle or not. An error is reported exactly if the settings of the
navigation are invalid, and it is theirs. There is a halt exactly if there is no room for what the trial begins with.
In all other cases there is a report, and it is consistent. -/
theorem simulate_consistent [Scalar α] [Trig α] [Numeral α] [Scalar.Steerable α] (scenario : Scenario)
    (setup : Setup α) (abort : Bool) (few : setup.run.maxCycles ≤ maxCount) :
    (∀ e, simulate scenario setup abort = .ok (.error e) ↔ setup.settings.validate = .error e) ∧
    (∀ halt, simulate scenario setup abort = .error halt ↔ Trial.Halts setup halt) ∧
    (setup.settings.validate = .ok () → (∀ halt, ¬ Trial.Halts setup halt) →
      ∃ result, simulate scenario setup abort = .ok (.ok result) ∧
        result.report.Consistent setup.run.maxCycles abort) := by
  have starts := Trial.starts_start scenario setup
  generalize begins : Trial.start scenario setup = r at starts
  cases starts with
  | @halt halt halts =>
    have ends : simulate scenario setup abort = .error halt := by
      unfold simulate
      rw [begins]
      rfl
    have valid := Trial.valid_of_halts halts
    rw [ends, valid]
    refine ⟨fun e => ⟨nofun, nofun⟩, fun other => ?_, fun _ possible => absurd halts (possible halt)⟩
    constructor
    · intro same
      cases same
      exact halts
    · exact fun halts' => congrArg Except.error (Trial.halts_unique halts halts')
  | @reject e invalid =>
    have ends : simulate scenario setup abort = .ok (.error e) := by
      unfold simulate
      rw [begins]
      rfl
    rw [ends, invalid]
    refine ⟨fun e' => by simp, fun halt => ⟨nofun, fun halts => ?_⟩, nofun⟩
    rw [Trial.valid_of_halts halts] at invalid
    cases invalid
  | @begin t valid possible underway =>
    obtain ⟨result, ends, consistent⟩ := underway.exists_result scenario setup abort few begins
    rw [ends, valid]
    refine ⟨fun e => ⟨nofun, nofun⟩, fun halt => ?_, fun _ _ => ⟨result, rfl, consistent⟩⟩
    exact ⟨nofun, fun halts => absurd halts (possible halt)⟩

/-- Settings with just as many cycles as it takes to visit the only search point, from wherever the rover stands. -/
def Exact.brief : Setup Rat := ⟨⟨4⟩, prompt, { carefree with arrivalTolerance := 20 }⟩

/-- The search ends in vain in the last of the cycles, and it is not taken for one that was broken off. -/
theorem simulate_consistent_brief :
    ∃ result, simulate .empty Exact.brief false = .ok (.ok result) ∧ result.report.Consistent 4 false ∧
      result.report.finalPhase = .notFound ∧ (∃ visited, result.report.outcome = .error (.notFound visited)) ∧
      result.report.transitions.getLast? = some ⟨4, .notFound⟩ := by
  obtain ⟨-, halts, reports⟩ := simulate_consistent .empty Exact.brief false (by decide)
  have ends : (match simulate .empty Exact.brief false with
      | .ok (.ok result) => decide (result.report.finalPhase = .notFound ∧ result.report.cycles = 4)
      | _ => false) = true := by decide +kernel
  have possible (halt : Halt Rat) : ¬ Trial.Halts Exact.brief halt := by
    rw [← halts]
    intro h
    rw [h] at ends
    cases ends
  obtain ⟨result, h, consistent⟩ := reports (by decide +kernel) possible
  rw [h] at ends
  obtain ⟨phase, cycles⟩ := of_decide_eq_true ends
  obtain ⟨last, transitions, concludes⟩ := consistent.concludes
  have ended := concludes.ended (by rw [phase]; rfl)
  rw [phase, cycles] at ended
  exact ⟨result, h, consistent, phase, concludes.notFound.2 phase, ended ▸ transitions⟩

end GateNav
