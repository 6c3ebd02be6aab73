import GateNav.Proofs.Belief.Chronicle
import GateNav.Proofs.Belief.Mirror
import GateNav.Proofs.Pilot.Answers

/-!
# What does not depend on the layout of search points

How search points are laid out shows in a search only once one of them is taken, and that is after a whole sweep. What
is left of the work without the layout is `Cycle.bare`; as long as no sweep ends, a cycle makes of the bare work what
it makes of the whole one (`Cycle.run_bare`), with one lemma for each function of the phases. So two pilots whose
settings differ in the layout alone go through the same phases, steer alike and learn the same
(`Pilot.layout_hidden`).
-/

namespace GateNav
variable {α : Type}

section Related
variable {β γ : Type}

theorem Checked.Related.imp {R S : β → γ → Prop} {x : Checked α β} {y : Checked α γ} (h : Related R x y)
    (weaker : ∀ {b c}, R b c → S b c) : Related S x y := by
  cases h with
  | halt h => exact .halt h
  | answer related => exact .answer (weaker related)

variable {f : β → γ} {x y : Checked α β}

theorem Checked.related_of_map (h : f <$> y = f <$> x) : Related (fun a b => f b = f a) x y := by
  cases x with
  | error e =>
    cases y with
    | error e' => cases h; exact .halt e
    | ok b => cases h
  | ok a =>
    cases y with
    | error e => cases h
    | ok b => exact .answer (Except.ok.inj h)

/-- If two computations agree up to `f`, and what comes next does not look further, then both do so to the end. -/
theorem Checked.map_bind_congr {β' γ' : Type} {k : β → Checked α β'} {f : β → β} {g : β' → γ'}
    (same : f <$> y = f <$> x) (next : ∀ b, g <$> k (f b) = g <$> k b) : g <$> (y >>= k) = g <$> (x >>= k) := by
  have hidden (m : Checked α β) : g <$> (m >>= k) = (f <$> m) >>= fun b => g <$> k b := by
    rw [map_bind, bind_map_left]
    congr
    funext b
    exact (next b).symm
  rw [hidden, hidden, same]

end Related

variable [Scalar α]

/-- The settings of the maneuvers, without those of the layout. -/
def TraverseSettings.bare (s : TraverseSettings α) : TraverseSettings α :=
  { s with pattern := .diamond, rings := 0, spacing := Scalar.zero, maxPoints := 0 }

/-- The pilot without the layout of search points, and without those that it has laid out. -/
def Pilot.bare (p : Pilot α) : Pilot α :=
  { p with settings := p.settings.bare, pattern := ⟨.diamond, 0⟩, agenda := ⟨[], 0, 0⟩ }

/-- The work without the layout of search points. The events are left out too, for they count those laid out. -/
def Cycle.bare (c : Cycle α) : Cycle α := { c with pilot := c.pilot.bare, events := [] }

def Move.bare (m : Move α) : Move α := { m with cycle := m.cycle.bare }

/-- A sweep ends in this cycle. -/
def Cycle.endsSweep [Trig α] (c : Cycle α) : Bool :=
  c.pilot.phase = .spin && !c.worthInspecting && c.nextSweep.isExhausted

namespace Cycle

section Parts
variable {c : Cycle α}

theorem worthInspecting_bare : c.bare.worthInspecting = c.worthInspecting := rfl

theorem lostSide?_bare : c.bare.lostSide? = c.lostSide? := rfl

theorem aligned_bare {bearing : α} : c.bare.aligned bearing = c.aligned bearing := rfl

end Parts

variable [Trig α] {c d : Cycle α} {q : Pose α} {radius : α} {progress : Progress} {side : Side}

theorem turnToward_bare {whenAligned otherwise : Phase} :
    c.bare.turnToward q whenAligned otherwise = (c.turnToward q whenAligned otherwise).bare := by
  unfold turnToward
  dsimp only
  rw [show c.bare.pose = c.pose from rfl, aligned_bare]
  split <;> rfl

theorem driveLeg_bare (h : c.driveLeg q radius = (progress, d)) : c.bare.driveLeg q radius = (progress, d.bare) := by
  unfold driveLeg at h ⊢
  rw [show c.bare.pose = c.pose from rfl, show c.bare.pilot.settings.offCourseTolerance =
    c.pilot.settings.offCourseTolerance from rfl]
  split at h
  · next near => rw [if_pos near]; cases h; rfl
  · next far =>
    rw [if_neg far]
    dsimp only at h ⊢
    split at h
    · next off => rw [if_pos off]; cases h; rfl
    · next on => rw [if_neg on]; cases h; rfl

theorem planPassage_bare : c.bare.planPassage = (fun r => (r.1, r.2.bare)) <$> c.planPassage := by
  unfold planPassage
  rw [show draft? c.bare.waypoint c.bare.pilot = draft? c.waypoint c.pilot from rfl, map_bind]
  congr
  funext draft
  cases draft <;> rfl

/-- Around a post all is the same but for the points, provided that they fit. -/
theorem searchAround_bare (layout : c.pilot.LaysOut) (id : Option Int32) :
    bare <$> c.bare.searchAround id q = bare <$> c.searchAround id q := by
  unfold searchAround
  rw [show c.bare.pilot.searchedAround = c.pilot.searchedAround from rfl]
  split
  · rfl
  · obtain ⟨points, laid⟩ := layout q c.pilot.settings.spacing
    dsimp only [withPilot]
    unfold Pilot.searchPoints
    rw [laid]
    rfl

/-! ### Search -/

theorem spin_bare (phase : c.pilot.phase = .spin) (on : c.endsSweep = false) : c.bare.spin.bare = c.spin.bare := by
  unfold endsSweep at on
  unfold spin
  rw [worthInspecting_bare]
  cases worth : c.worthInspecting with
  | true => rfl
  | false =>
    rw [phase, worth] at on
    have on : c.nextSweep.isExhausted = false := by simpa using on
    have on' : c.bare.nextSweep.isExhausted = false := on
    simp only [Bool.false_eq_true, if_false, on, on']
    -- Whether the sweep begins now shows in the events alone.
    split <;> split <;> rfl

theorem spinWait_bare : c.bare.spinWait.bare = c.spinWait.bare := by
  unfold spinWait
  dsimp only
  rw [show c.bare.hold.pickSide? = c.hold.pickSide? from rfl]
  split
  · rfl
  · rw [show c.bare.hold.belief.settled = c.hold.belief.settled from rfl]
    split
    · rfl
    · rw [show c.bare.hold.belief = c.hold.belief from rfl]
      split <;> rfl

theorem turn_bare : c.bare.turn.bare = c.turn.bare := by
  unfold turn
  rw [show c.bare.pilot.goal = c.pilot.goal from rfl]
  split
  · rw [show c.bare.belief = c.belief from rfl, show c.bare.pilot.aim = c.pilot.aim from rfl]
    split
    · rw [turnToward_bare]; rfl
    · rfl
  · rw [worthInspecting_bare]
    split
    · rfl
    · rw [turnToward_bare]; rfl
  · rfl

theorem locate_bare : c.bare.locate = (fun r => (r.1, r.2.bare)) <$> c.locate := by
  unfold locate
  rw [show c.bare.belief.gateSettled = c.belief.gateSettled from rfl]
  split
  · exact planPassage_bare (c := c.record)
  · rfl

theorem headForGate_bare : c.bare.headForGate.bare = c.headForGate.bare := by
  unfold headForGate
  cases passage : c.pilot.passage <;> simp [Pilot.center?, withPilot, note, bare, Pilot.bare, passage] <;> rfl

theorem approachPost_bare (layout : c.pilot.LaysOut) :
    Move.bare <$> c.bare.approachPost side = Move.bare <$> c.approachPost side := by
  unfold approachPost
  dsimp only
  rw [show c.bare.belief = c.belief from rfl]
  split
  · next location _ _ =>
    generalize aimed : c.withPilot { c.pilot with aim := some location } = d
    have fits : d.pilot.LaysOut := by rw [← aimed]; exact layout
    rw [show c.bare.withPilot { c.bare.pilot with aim := some location } = d.bare from congrArg bare aimed,
      show d.bare.pilot.settings.approachDistance = d.pilot.settings.approachDistance from rfl]
    cases leg : d.driveLeg location d.pilot.settings.approachDistance with
    | mk progress e =>
      rw [driveLeg_bare leg]
      cases progress with
      | arrived =>
        obtain ⟨-, rfl⟩ := of_driveLeg_arrived leg
        have around := searchAround_bare (c := d.hold) (q := location) fits (c.belief.tracker side).id?
        have ends := congrArg ((fun c => c.abandon.goTo .spin) <$> ·) around
        simp only [Functor.map_map] at ends ⊢
        exact ends
      | offCourse | driving => rfl
  · rfl

theorem driveToPost_bare (layout : c.pilot.LaysOut) :
    Move.bare <$> c.bare.driveToPost side = Move.bare <$> c.driveToPost side := by
  unfold driveToPost
  rw [locate_bare, map_bind, map_bind, bind_map_left]
  cases h : c.locate with
  | error halt => rfl
  | ok r =>
    obtain ⟨located, d⟩ := r
    have fits : d.pilot.LaysOut := by
      rcases locate_eq_ok h with ⟨-, -, g, -, rfl⟩ | ⟨-, -, rfl⟩
      · exact layout
      · unfold withPilot Pilot.LaysOut
        rwa [Pilot.survey_pattern]
    cases located with
    | true => exact congrArg Except.ok headForGate_bare
    | false => exact approachPost_bare fits

theorem driveToSearchPoint_bare : (c.bare.driveToSearchPoint q).bare = (c.driveToSearchPoint q).bare := by
  unfold driveToSearchPoint
  rw [worthInspecting_bare]
  split
  · rfl
  · rw [show c.bare.pilot.settings.arrivalTolerance = c.pilot.settings.arrivalTolerance from rfl]
    cases leg : c.driveLeg q c.pilot.settings.arrivalTolerance with
    | mk progress d =>
      rw [driveLeg_bare leg]
      cases progress <;> rfl

theorem drive_bare (layout : c.pilot.LaysOut) : Move.bare <$> c.bare.drive = Move.bare <$> c.drive := by
  unfold drive
  rw [show c.bare.pilot.goal = c.pilot.goal from rfl]
  split
  · exact driveToPost_bare layout
  · exact congrArg Except.ok driveToSearchPoint_bare
  · rfl

/-! ### In front of the gate -/

theorem turnToCenter_bare : c.bare.turnToCenter.bare = c.turnToCenter.bare := by
  unfold turnToCenter
  rw [lostSide?_bare, show c.bare.pilot.passage = c.pilot.passage from rfl]
  split
  · rfl
  · rfl
  · rw [turnToward_bare]; rfl

theorem replan_bare : c.bare.replan = bare <$> c.replan := by
  unfold replan
  rw [show c.bare.belief = c.belief from rfl]
  split
  · rw [show c.bare.record = c.record.bare from rfl, planPassage_bare, Functor.map_map, Functor.map_map]
  · rfl

theorem driveToPassage_bare : c.bare.driveToPassage.bare = c.driveToPassage.bare := by
  unfold driveToPassage
  rw [show c.bare.pilot.passage = c.pilot.passage from rfl]
  split
  · rfl
  · next g _ =>
    rw [show c.bare.pilot.settings.standoff = c.pilot.settings.standoff from rfl]
    cases leg : c.driveLeg g.center c.pilot.settings.standoff with
    | mk progress d =>
      rw [driveLeg_bare leg]
      cases progress with
      | arrived =>
        dsimp only
        rw [show d.bare.pilot.settledCycles = d.pilot.settledCycles from rfl, show d.bare.belief = d.belief from rfl]
        split <;> rfl
      | offCourse | driving => rfl

theorem driveToCenter_bare : Move.bare <$> c.bare.driveToCenter = Move.bare <$> c.driveToCenter := by
  unfold driveToCenter
  rw [lostSide?_bare]
  split
  · rfl
  · rw [replan_bare, Functor.map_map, Functor.map_map, Functor.map_map]
    congr
    funext d
    exact driveToPassage_bare

theorem face_bare : c.bare.face.bare = c.face.bare := by
  unfold face
  rw [show c.bare.pilot.passage = c.pilot.passage from rfl]
  split
  · rfl
  · next g _ =>
    rw [show c.bare.pose = c.pose from rfl]
    dsimp only
    rw [aligned_bare]
    split
    · rfl
    · split
      · rfl
      · rw [show c.bare.pilot.knownPosts = c.pilot.knownPosts from rfl]
        split <;> rfl

/-! ### Around and through the gate -/

theorem finishDetour_bare : Move.bare <$> c.bare.finishDetour = Move.bare <$> c.finishDetour := by
  have surveyed : c.bare.withPilot (c.bare.pilot.survey c.bare.belief) =
      (c.withPilot (c.pilot.survey c.belief)).bare := by
    rw [show c.bare.belief = c.belief from rfl]
    unfold Pilot.survey
    split <;> rfl
  unfold finishDetour
  rw [surveyed, planPassage_bare, map_bind, map_bind, bind_map_left]
  congr
  funext ⟨planned, d⟩
  dsimp only
  rw [show d.bare.pilot.rightSide = d.pilot.rightSide from rfl]
  cases planned && !d.pilot.rightSide with
  | true => cases passage : d.pilot.passage <;> simp [withPilot, note, bare, Pilot.bare, passage] <;> rfl
  | false => cases passage : d.pilot.passage <;> simp [withPilot, bare, Pilot.bare, passage] <;> rfl

theorem turnToFarPost_bare : Move.bare <$> c.bare.turnToFarPost = Move.bare <$> c.turnToFarPost := by
  unfold turnToFarPost
  rw [show c.bare.pilot.detour = c.pilot.detour from rfl]
  split
  · exact finishDetour_bare
  · rw [turnToward_bare]; rfl

theorem driveToFarPost_bare : Move.bare <$> c.bare.driveToFarPost = Move.bare <$> c.driveToFarPost := by
  unfold driveToFarPost
  rw [show c.bare.pilot.detour = c.pilot.detour from rfl]
  split
  · exact finishDetour_bare
  · next leg rest _ =>
    rw [show c.bare.pilot.settings.arrivalTolerance = c.pilot.settings.arrivalTolerance from rfl]
    cases way : c.driveLeg leg c.pilot.settings.arrivalTolerance with
    | mk progress d =>
      rw [driveLeg_bare way]
      cases progress with
      | arrived =>
        dsimp only
        split
        · exact finishDetour_bare (c := d.withPilot { d.pilot with detour := rest })
        · rfl
      | offCourse | driving => rfl

theorem turnThrough_bare : c.bare.turnThrough.bare = c.turnThrough.bare := by
  unfold turnThrough
  rw [show c.bare.pilot.through = c.pilot.through from rfl]
  split
  · rfl
  · rw [turnToward_bare]; rfl

theorem driveThrough_bare : c.bare.driveThrough.bare = c.driveThrough.bare := by
  unfold driveThrough
  rw [show c.bare.pilot.through = c.pilot.through from rfl]
  split
  · rfl
  · next leg rest _ =>
    rw [show c.bare.pilot.settings.arrivalTolerance = c.pilot.settings.arrivalTolerance from rfl]
    cases way : c.driveLeg leg c.pilot.settings.arrivalTolerance with
    | mk progress d =>
      rw [driveLeg_bare way]
      cases progress with
      | arrived => cases rest <;> rfl
      | offCourse | driving => rfl

/-! ### One cycle -/

theorem advance_bare (layout : c.pilot.LaysOut) (on : c.endsSweep = false) :
    Move.bare <$> c.bare.advance c.pilot.phase = Move.bare <$> c.advance c.pilot.phase := by
  cases phase : c.pilot.phase
  case spin => exact congrArg Except.ok (spin_bare phase on)
  case spinWait => exact congrArg Except.ok spinWait_bare
  case turn => exact congrArg Except.ok turn_bare
  case drive => exact drive_bare layout
  case turnToCenter => exact congrArg Except.ok turnToCenter_bare
  case driveToCenter => exact driveToCenter_bare
  case face => exact congrArg Except.ok face_bare
  case turnToFarPost => exact turnToFarPost_bare
  case driveToFarPost => exact driveToFarPost_bare
  case turnThrough => exact congrArg Except.ok turnThrough_bare
  case driveThrough => exact congrArg Except.ok driveThrough_bare
  all_goals rfl

theorem run_bare (layout : c.pilot.LaysOut) (on : c.endsSweep = false) : bare <$> c.bare.run = bare <$> c.run := by
  have same := advance_bare layout on
  unfold run
  rw [show c.bare.pilot.phase = c.pilot.phase from rfl]
  refine Checked.map_bind_congr (f := Move.bare) same ?_
  rintro ⟨next, d⟩
  refine congrArg Except.ok ?_
  dsimp only [Move.bare]
  split <;> split <;> rfl

end Cycle

/-! ### Searches under two layouts -/

/-- One call of a search: what is asked of the belief, and then a pose and a waypoint that are shown with it. -/
structure Call (α : Type) where
  requests : List (Belief.Request α)
  pose : Pose α
  waypoint : Option (Waypoint α)

variable [Trig α]

namespace Cycle

/-- The work that a call begins with, once the requests are served. -/
def facing (c : Cycle α) (k : Call α) : Checked α (Cycle α) :=
  c.pilot.atWork k.pose k.waypoint <$> c.belief.serveAll k.requests

def call (c : Cycle α) (k : Call α) : Checked α (Cycle α) := c.facing k >>= run

/-- In none of the calls a sweep ends. -/
def sweepsOn (c : Cycle α) : List (Call α) → Bool
  | [] => true
  | k :: calls =>
    match c.facing k with
    | .error _ => true
    | .ok work => !work.endsSweep &&
      match work.run with
      | .error _ => true
      | .ok d => d.sweepsOn calls

variable {c d c' d' : Cycle α} {k : Call α} {calls : List (Call α)}

theorem laysOut_of_facing (layout : c.pilot.LaysOut) (h : c.facing k = .ok c') : c'.pilot.LaysOut := by
  obtain ⟨b, -, rfl⟩ := Checked.map_eq_ok.1 h
  exact layout

theorem laysOut_of_run (layout : c.pilot.LaysOut) (h : c.run = .ok c') : c'.pilot.LaysOut := by
  obtain ⟨next, q, b, move, -, after⟩ := pilot_of_run h
  have orders : c'.pilot.orders = c.pilot.orders := by rw [after, Pilot.moved_orders, move.orders]
  have pattern : c'.pilot.pattern = c.pilot.pattern := congrArg (·.2.1) orders
  unfold Pilot.LaysOut
  rwa [pattern]

theorem endsSweep_of_bare (same : d.bare = c.bare) : d.endsSweep = c.endsSweep :=
  show d.bare.endsSweep = c.bare.endsSweep from congrArg endsSweep same

theorem related_facing (same : d.bare = c.bare) :
    Checked.Related (fun a b => b.bare = a.bare) (c.facing k) (d.facing k) := by
  have belief : d.belief = c.belief := congrArg (·.belief) same
  have pilot : d.pilot.bare = c.pilot.bare := congrArg (·.pilot) same
  unfold facing
  rw [belief]
  cases c.belief.serveAll k.requests with
  | error halt => exact .halt halt
  | ok b =>
    refine .answer ?_
    unfold Pilot.atWork bare
    rw [pilot]

/-- Two pilots whose work is the same but for the layout make the same of one more cycle. -/
theorem related_run (layout : c.pilot.LaysOut) (layout' : d.pilot.LaysOut) (same : d.bare = c.bare)
    (on : c.endsSweep = false) : Checked.Related (fun a b => b.bare = a.bare) c.run d.run := by
  refine Checked.related_of_map ?_
  rw [← run_bare layout on, ← run_bare layout' ((endsSweep_of_bare same).trans on), same]

/-- Work that is the same but for the layout, where search points fit in either. -/
structure Coincides (c d : Cycle α) : Prop where
  bare : d.bare = c.bare
  fits : c.pilot.LaysOut
  fits' : d.pilot.LaysOut

theorem related_call (h : c.Coincides d) (on : c.sweepsOn (k :: calls) = true) :
    Checked.Related (fun a b => a.Coincides b ∧ a.sweepsOn calls = true) (c.call k) (d.call k) := by
  have begins := related_facing (k := k) h.bare
  have fits : ∀ a, c.facing k = .ok a → a.pilot.LaysOut := fun a ha => laysOut_of_facing h.fits ha
  have fits' : ∀ b, d.facing k = .ok b → b.pilot.LaysOut := fun b hb => laysOut_of_facing h.fits' hb
  rw [sweepsOn] at on
  unfold call
  generalize c.facing k = x at begins fits on ⊢
  generalize d.facing k = y at begins fits' ⊢
  cases begins with
  | halt halt => exact .halt halt
  | @answer a b same =>
    obtain ⟨still, on⟩ := Bool.and_eq_true_iff.1 on
    have fits := fits a rfl
    have fits' := fits' b rfl
    have ends : Checked.Related (fun a b => b.bare = a.bare) a.run b.run :=
      related_run fits fits' same (by simpa using still)
    have kept : ∀ c, a.run = .ok c → c.pilot.LaysOut := fun c hc => laysOut_of_run fits hc
    have kept' : ∀ d, b.run = .ok d → d.pilot.LaysOut := fun d hd => laysOut_of_run fits' hd
    show Checked.Related _ a.run b.run
    generalize a.run = x at ends kept on ⊢
    generalize b.run = y at ends kept' ⊢
    cases ends with
    | halt halt => exact .halt halt
    | answer same => exact .answer ⟨⟨same, kept _ rfl, kept' _ rfl⟩, on⟩

theorem related_calls (h : c.Coincides d) (on : c.sweepsOn calls = true) :
    Checked.Related Coincides (calls.foldlM call c) (calls.foldlM call d) := by
  induction calls generalizing c d with
  | nil => exact .answer h
  | cons k calls ih =>
    rw [List.foldlM_cons, List.foldlM_cons]
    exact (related_call h on).bind fun next => ih next.1 next.2

end Cycle

namespace Pilot

/-- A new pilot, and a belief that was formed before, until the first call. -/
def ready (p : Pilot α) (b : Belief α) : Cycle α := p.atWork p.area.pose none b

theorem coincides_of_start {s s' : TraverseSettings α} {area : Waypoint α} {p p' : Pilot α} (same : s'.bare = s.bare)
    (h : start s area = .ok p) (h' : start s' area = .ok p') (b : Belief α) : (p.ready b).Coincides (p'.ready b) := by
  refine ⟨?_, laysOut_of_start h, laysOut_of_start h'⟩
  obtain ⟨points, -, rfl⟩ := of_start h
  obtain ⟨points', -, rfl⟩ := of_start h'
  unfold ready atWork Cycle.bare bare
  dsimp only
  rw [same]

/-- How search points are laid out makes no difference before one is taken. Take two pilots for the same waypoint whose
valid settings differ at most in the pattern, the rings, the spacing and the most points, and the same belief. Give both
the same calls, each of which may ask anything of the belief before the pilot is shown it. As long as in none of them a
sweep ends, either both halt in the same call and in the same way, or both answer all of them, and then all but the
settings of the layout and the agenda are the same: the phase and the steering, the passage and the side of it, the
posts known and all else the pilot remembers, and the whole belief. So the next sweep ends in the same call, too. -/
theorem layout_hidden [Numeral α] {s s' : TraverseSettings α} (same : s'.bare = s.bare) {area : Waypoint α}
    {p p' : Pilot α} {events events' : List (Event α)} (built : build s area = .ok (.ok ⟨p, events⟩))
    (built' : build s' area = .ok (.ok ⟨p', events'⟩)) (b : Belief α) (calls : List (Call α))
    (on : (p.ready b).sweepsOn calls = true) :
    Checked.Related (fun c d => d.bare = c.bare ∧
        ∀ k, Checked.Related (fun x y => y.endsSweep = x.endsSweep) (c.facing k) (d.facing k))
      (calls.foldlM Cycle.call (p.ready b)) (calls.foldlM Cycle.call (p'.ready b)) := by
  obtain ⟨-, started⟩ := of_build built
  obtain ⟨-, started'⟩ := of_build built'
  have begins := coincides_of_start same started started' b
  refine (Cycle.related_calls begins on).imp fun still => ⟨still.bare, fun k => ?_⟩
  exact (Cycle.related_facing still.bare).imp Cycle.endsSweep_of_bare

end Pilot

/-- As carefree as the other, but the points lie on a spiral, and there are more of them. -/
def Exact.spiralling : TraverseSettings Rat :=
  { carefree with pattern := .spiral, rings := 3, spacing := 2, maxPoints := 4 }

/-- Nothing is asked of the belief, and the rover stands where it will find the lone post. -/
def Exact.waiting : Call Rat := ⟨[], place 4 0 0, some gate⟩

/-- The belief that a lone post stands five metres east of the gate. -/
def Exact.lonePost : Belief Rat := { Belief.start prompt with trackers := ⟨post .left 3 5, .start .right prompt⟩ }

/-- In four calls both search around the post, each after its own fashion, and only the points tell them apart. -/
theorem Pilot.layout_hidden_around_post :
    ∃ p p' c d, Pilot.build Exact.carefree Exact.gate = .ok (.ok p) ∧
      Pilot.build Exact.spiralling Exact.gate = .ok (.ok p') ∧
      (List.replicate 4 Exact.waiting).foldlM Cycle.call (p.1.ready Exact.lonePost) = .ok c ∧
      (List.replicate 4 Exact.waiting).foldlM Cycle.call (p'.1.ready Exact.lonePost) = .ok d ∧
      c.pilot.searchedAround = [3] ∧ c.pilot.agenda.points ≠ d.pilot.agenda.points ∧ d.bare = c.bare := by
  have reseeds : (match Pilot.build Exact.carefree Exact.gate, Pilot.build Exact.spiralling Exact.gate with
      | .ok (.ok ⟨p, _⟩), .ok (.ok ⟨p', _⟩) =>
        (p.ready Exact.lonePost).sweepsOn (List.replicate 4 Exact.waiting) &&
        match (List.replicate 4 Exact.waiting).foldlM Cycle.call (p.ready Exact.lonePost),
          (List.replicate 4 Exact.waiting).foldlM Cycle.call (p'.ready Exact.lonePost) with
        | .ok c, .ok d => c.pilot.searchedAround == [3] && decide (c.pilot.agenda.points ≠ d.pilot.agenda.points)
        | _, _ => false
      | _, _ => false) = true := by decide +kernel
  split at reseeds
  · next p events p' events' built built' =>
    obtain ⟨on, reseeds⟩ := Bool.and_eq_true_iff.1 reseeds
    have hidden := layout_hidden (by decide +kernel) built built' Exact.lonePost (List.replicate 4 Exact.waiting) on
    split at reseeds
    · next c d ends ends' =>
      rw [ends, ends'] at hidden
      obtain ⟨around, apart⟩ := Bool.and_eq_true_iff.1 reseeds
      cases hidden with
      | answer same =>
        exact ⟨_, _, c, d, built, built', ends, ends', eq_of_beq around, of_decide_eq_true apart, same.1⟩
    · cases reseeds
  · cases reseeds

end GateNav
