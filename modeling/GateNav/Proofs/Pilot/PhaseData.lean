import GateNav.Proofs.Pilot.Answers

/-!
# What each phase relies on

A phase finds in the pilot what the phases before it have left there: a goal to turn toward, the passage that was
planned, the points left on the way. `Pilot.Ready p phase` says that the pilot holds all that the phase relies on,
and `Phase.followers` which phases can come next. Both are kept by every cycle, so that no phase of a search ever
falls back on the answer it has for want of its data.
-/

namespace GateNav

namespace Phase

/-- The rover stands or turns on the spot, looking for posts. -/
def looksAround : Phase → Bool
  | spin | spinWait => true
  | _ => false

/-- The rover is on its way to a post or a search point. -/
def pursues : Phase → Bool
  | turn | drive => true
  | _ => false

/-- The rover looks for the posts, on the spot or on its way. -/
abbrev Searching (phase : Phase) : Prop := phase.looksAround = true ∨ phase.pursues = true

/-- The rover is on its way around the far post. -/
def detours : Phase → Bool
  | turnToFarPost | driveToFarPost => true
  | _ => false

/-- The rover is on its way through the gate. -/
def passes : Phase → Bool
  | turnThrough | driveThrough => true
  | _ => false

/-- The gate has been located. -/
def atGate : Phase → Bool
  | turnToCenter | driveToCenter | face | turnToFarPost | driveToFarPost | turnThrough | driveThrough
  | traversed => true
  | _ => false

/-- The phases that can follow in the next cycle. -/
def followers : Phase → List Phase
  | spin => [spin, spinWait, turn, notFound]
  | spinWait => [spin, spinWait, turn]
  | turn => [spin, spinWait, turn, drive]
  | drive => [spin, spinWait, turn, drive, turnToCenter]
  | turnToCenter => [spin, turnToCenter, driveToCenter]
  | driveToCenter => [spin, turnToCenter, driveToCenter, face]
  | face => [face, turnToFarPost, turnThrough]
  | turnToFarPost => [turnToFarPost, driveToFarPost]
  | driveToFarPost => [turnToFarPost, driveToFarPost, turnThrough]
  | turnThrough => [turnThrough, driveThrough]
  | driveThrough => [turnThrough, driveThrough, traversed]
  | other => [other]

end Phase

variable {α : Type}

namespace Pilot

/-- The pilot holds what the phase relies on. -/
structure Ready (p : Pilot α) (phase : Phase) : Prop where
  searching : phase.isGate = true
  goal : phase.pursues = true → p.goal.isSome = true
  /-- Whoever goes to a post knows where it was last believed to be. -/
  aim : phase.pursues = true → ∀ side, p.goal = some (.post side) → p.aim.isSome = true
  passage : phase.atGate = true → p.passage.isSome = true
  /-- A passage leads between two posts. -/
  posts : p.passage.isSome = true → p.known.left.isSome = true ∧ p.known.right.isSome = true
  detour : phase.detours = true → p.detour ≠ []
  through : phase.passes = true → p.through ≠ []
  /-- A sweep is only on while the rover looks around, and it is not over. -/
  sweep : ∀ s ∈ p.sweep, phase.looksAround = true ∧ s.stop < s.stops

/-- The gate is located: its passage is planned and both posts are known. -/
def Located (p : Pilot α) : Prop :=
  p.passage.isSome = true ∧ p.known.left.isSome = true ∧ p.known.right.isSome = true

/-- What is known to `p`, the passage and the post on either side, is known to `q` as well, if not the same. -/
structure Retains (p q : Pilot α) : Prop where
  passage : p.passage.isSome = true → q.passage.isSome = true
  left : p.known.left.isSome = true → q.known.left.isSome = true
  right : p.known.right.isSome = true → q.known.right.isSome = true

theorem Retains.refl (p : Pilot α) : p.Retains p := ⟨id, id, id⟩

theorem Retains.trans {p q r : Pilot α} (h : p.Retains q) (k : q.Retains r) : p.Retains r :=
  ⟨k.passage ∘ h.passage, k.left ∘ h.left, k.right ∘ h.right⟩

section Ready
variable {p : Pilot α} {b : Belief α} {phase executed next : Phase}

theorem retains_trust : p.Retains (p.trust b) where
  passage := id
  left h := by simp [trust, h]
  right h := by simp [trust, h]

theorem retains_survey : p.Retains (p.survey b) := by
  unfold survey
  split
  · exact retains_trust
  · exact .refl p

theorem retains_adopt [Scalar α] [Trig α] {pose : Pose α} {draft : Option (Passage α)} :
    p.Retains (p.adopt pose draft) := by
  cases draft with
  | none => exact .refl p
  | some g => exact ⟨fun _ => rfl, id, id⟩

theorem retains_moved : p.Retains (p.moved b executed next) := by
  unfold moved
  split
  · exact ⟨id, retains_trust.left, retains_trust.right⟩
  · exact ⟨id, id, id⟩

theorem Ready.located (h : p.Ready phase) (atGate : phase.atGate = true) : p.Located :=
  ⟨h.passage atGate, h.posts (h.passage atGate)⟩

theorem Ready.no_sweep (h : p.Ready phase) (away : phase.looksAround = false) : p.sweep = none := by
  cases sweep : p.sweep with
  | none => rfl
  | some s => have := (h.sweep s sweep).1; simp [away] at this

theorem Ready.of_looking (looking : phase.looksAround = true)
    (posts : p.passage.isSome = true → p.known.left.isSome = true ∧ p.known.right.isSome = true)
    (sweep : ∀ s ∈ p.sweep, s.stop < s.stops) : p.Ready phase := by
  constructor
  case posts => exact posts
  case sweep => exact fun s hs => ⟨looking, sweep s hs⟩
  all_goals cases phase <;> first | rfl | (intro; contradiction) | contradiction

theorem Ready.of_pursuit (pursuit : phase.pursues = true) {goal : Goal α} (heading : p.goal = some goal)
    (aim : ∀ side, goal = .post side → p.aim.isSome = true)
    (posts : p.passage.isSome = true → p.known.left.isSome = true ∧ p.known.right.isSome = true)
    (sweep : p.sweep = none) : p.Ready phase := by
  constructor
  case goal => intro; rw [heading]; rfl
  case aim => intro _ side hs; exact aim side (Option.some.inj (heading.symm.trans hs))
  case posts => exact posts
  case sweep => intro s hs; rw [sweep] at hs; cases hs
  all_goals cases phase <;> first | rfl | (intro; contradiction) | contradiction

theorem Ready.of_located (located : phase.atGate = true) (gate : p.Located)
    (detour : phase.detours = true → p.detour ≠ []) (through : phase.passes = true → p.through ≠ [])
    (sweep : p.sweep = none) : p.Ready phase := by
  constructor
  case passage => exact fun _ => gate.1
  case posts => exact fun _ => gate.2
  case detour => exact detour
  case through => exact through
  case sweep => intro s hs; rw [sweep] at hs; cases hs
  all_goals cases phase <;> first | rfl | (intro; contradiction) | contradiction

/-- What is remembered in addition does no harm. -/
theorem Ready.trust (h : p.Ready phase) : (p.trust b).Ready phase :=
  { h with posts := fun hp => ⟨retains_trust.left (h.posts hp).1, retains_trust.right (h.posts hp).2⟩ }

theorem Ready.survey (h : p.Ready phase) : (p.survey b).Ready phase := by
  unfold Pilot.survey
  split
  · exact h.trust
  · exact h

/-- A passage is only planned where both posts are known. -/
theorem posts_of_draft? [Scalar α] [Trig α] {waypoint : Option (Waypoint α)} {g : Passage α}
    (h : Cycle.draft? waypoint p = .ok (some g)) : p.known.left.isSome = true ∧ p.known.right.isSome = true := by
  unfold Cycle.draft? at h
  split at h
  · next left right => exact ⟨by rw [left]; rfl, by rw [right]; rfl⟩
  · cases h

theorem Located.knownPosts_ne_nil [Scalar α] (h : p.Located) : p.knownPosts ≠ [] := by
  obtain ⟨post, left⟩ := Option.isSome_iff_exists.1 h.2.1
  simp [knownPosts, Sided.toList, left]

theorem farthest?_isSome [Scalar α] [Trig α] (pose : Pose α) {posts : List (KnownPost α)} (h : posts ≠ []) :
    (farthest? pose posts).isSome = true := by
  rcases List.eq_nil_or_concat posts with rfl | ⟨init, last, rfl⟩
  · exact absurd rfl h
  · simp only [farthest?, List.concat_eq_append, List.foldl_append, List.foldl_cons, List.foldl_nil]
    split
    · rfl
    · split <;> rfl

theorem Ready.adopt [Scalar α] [Trig α] {waypoint : Option (Waypoint α)} {draft : Option (Passage α)}
    (h : p.Ready phase) (pose : Pose α) (plan : Cycle.draft? waypoint p = .ok draft) :
    (p.adopt pose draft).Ready phase := by
  cases draft with
  | none => exact h
  | some g => exact { h with passage := fun _ => rfl, posts := fun _ => posts_of_draft? plan }

theorem Ready.moved (h : p.Ready phase) : (p.moved b executed next).Ready phase := by
  unfold Pilot.moved
  split
  · exact { h.trust with }
  · exact { h with }

end Ready

end Pilot

theorem Passage.legs_ne_nil [Scalar α] [Trig α] {g : Passage α} {pose : Pose α} {tolerance : α} :
    g.legs pose tolerance ≠ [] := by
  unfold legs; split <;> nofun

namespace Cycle
variable [Scalar α] [Trig α] {c : Cycle α} {executed next : Phase} {p q : Pilot α} {b : Belief α}

theorem Approaches.ready {pose : Pose α} {side : Side} (h : Approaches pose b p side next q)
    (ready : p.Ready .drive) (goal : p.goal = some (.post side)) : q.Ready next := by
  cases h with
  | lose | reachAgain | reach => exact .of_looking rfl ready.posts nofun
  | stray | drive => exact .of_pursuit rfl goal (fun _ _ => rfl) ready.posts (ready.no_sweep rfl)

theorem Searches.ready (h : c.Searches executed next q b) (ready : c.pilot.Ready executed) : q.Ready next := by
  cases h with
  | inspect | vanish | wait | inspectTurning | turnNowhere | inspectDriving | driveNowhere =>
    exact .of_looking rfl ready.posts fun s hs => (ready.sweep s hs).2
  | sweep dull open_ =>
    refine .of_looking rfl ready.posts fun s hs => ?_
    cases hs
    simpa [Sweep.isExhausted] using open_
  | loseAim | reachPoint => exact .of_looking rfl ready.posts nofun
  | takePoint => exact .of_pursuit rfl rfl nofun ready.posts rfl
  | approach => exact .of_pursuit rfl rfl (fun _ _ => rfl) ready.posts rfl
  | facePost goal held aim | turnToPost goal held aim =>
    exact .of_pursuit rfl goal (fun _ _ => by rw [aim]; rfl) ready.posts (ready.no_sweep rfl)
  | facePoint goal | turnToPoint goal | strayFromPoint goal | driveToPoint goal =>
    exact .of_pursuit rfl goal nofun ready.posts (ready.no_sweep rfl)
  | locate goal sight draft =>
    have adopted := ready.trust.adopt c.pose draft
    exact .of_located rfl ⟨rfl, adopted.posts rfl⟩ nofun nofun (adopted.no_sweep rfl)
  | driveToPost goal unlocated move => exact move.ready ready.survey (by rwa [Pilot.survey_goal])
  | runOut => exact ⟨rfl, nofun, nofun, nofun, ready.posts, nofun, nofun, nofun⟩

theorem Replans.ready (h : c.Replans p) (ready : c.pilot.Ready executed) : p.Ready executed := by
  cases h with
  | anew sight plan => exact ready.trust.adopt _ plan
  | leave => exact ready

theorem DrivesUp.ready {pose : Pose α} (h : DrivesUp pose b p next q) (ready : p.Ready .driveToCenter) :
    q.Ready next := by
  cases h with
  | blind passage => have := ready.passage rfl; simp [passage] at this
  | rest | settle | stray | drive =>
    exact .of_located rfl (ready.located rfl) nofun nofun (ready.no_sweep rfl)

theorem Nears.ready (h : c.Nears executed next q b) (ready : c.pilot.Ready executed) : q.Ready next := by
  cases h with
  | loseFacing | loseDriving => exact .of_looking rfl ready.posts nofun
  | turnBlindly held passage => have := ready.passage rfl; simp [passage] at this
  | faceNothing passage => have := ready.passage rfl; simp [passage] at this
  | noPost passage aligned behind far =>
    have := Pilot.farthest?_isSome c.pose (ready.located rfl).knownPosts_ne_nil
    simp [far] at this
  | faceCenter | turnToCenter | turnToFace =>
    exact .of_located rfl (ready.located rfl) nofun nofun (ready.no_sweep rfl)
  | driveUp held plan move => exact move.ready (plan.ready ready)
  | lineUp =>
    exact .of_located rfl (ready.located rfl) nofun
      (fun _ => Passage.legs_ne_nil) (ready.no_sweep rfl)
  | goAround =>
    exact .of_located rfl (ready.located rfl) (fun _ => nofun) nofun
      (ready.no_sweep rfl)

theorem Finishes.ready {pose : Pose α} {waypoint : Option (Waypoint α)} (h : Finishes pose waypoint b p next q)
    (ready : p.Ready executed) (located : executed.atGate = true) : q.Ready next := by
  cases h with
  | lineUp plan =>
    have adopted := ready.survey.adopt pose plan
    exact .of_located rfl (adopted.located located) nofun
      (fun _ => Passage.legs_ne_nil) (adopted.no_sweep (by cases executed <;> first | rfl | contradiction))
  | giveUp plan passage =>
    have := (ready.survey.adopt pose plan).passage located
    rw [passage] at this; cases this

theorem Passes.ready (h : c.Passes executed next q b) (ready : c.pilot.Ready executed) : q.Ready next := by
  cases h with
  | endTurning detour finish | endDriving detour finish => exact absurd detour (ready.detour rfl)
  | reachEnd detour near finish =>
    -- With the detour behind it the pilot is only ready for a phase that asks for no more than the passage.
    refine finish.ready (?_ : Pilot.Ready _ .face) rfl
    exact .of_located rfl (ready.located rfl) nofun nofun (ready.no_sweep rfl)
  | faceLeg detour | turnToLeg detour | strayFromLeg detour | driveToLeg detour =>
    exact .of_located rfl (ready.located rfl) (fun _ => ready.detour rfl) nofun
      (ready.no_sweep rfl)
  | reachLeg =>
    exact .of_located rfl (ready.located rfl) (fun _ => nofun) nofun
      (ready.no_sweep rfl)
  | turnPast through | drivePast through => exact absurd through (ready.through rfl)
  | facePoint | turnToPoint | strayFromPoint | driveToPoint =>
    exact .of_located rfl (ready.located rfl) nofun (fun _ => ready.through rfl)
      (ready.no_sweep rfl)
  | reachPoint =>
    exact .of_located rfl (ready.located rfl) nofun (fun _ => nofun)
      (ready.no_sweep rfl)
  | traverse =>
    exact .of_located rfl (ready.located rfl) nofun nofun (ready.no_sweep rfl)

/-- Every move leaves what the next phase relies on. -/
theorem Advances.ready (h : c.Advances executed next q b) (ready : c.pilot.Ready executed) : q.Ready next := by
  cases h with
  | searches h => exact h.ready ready
  | nears h => exact h.ready ready
  | passes h => exact h.ready ready
  | idle => exact { ready with }

/-- The moves of the phases that search are those of the search. -/
theorem Advances.of_searching (h : c.Advances executed next q b)
    (searching : executed.Searching) : c.Searches executed next q b := by
  cases h with
  | searches h => exact h
  | nears h => cases h <;> rcases searching with h | h <;> cases h
  | passes h => cases h <;> rcases searching with h | h <;> cases h
  | idle h =>
    revert searching h
    cases executed <;> simp [Phase.Searching, Phase.looksAround, Phase.pursues, Phase.isTerminal, Phase.isGate]

/-! ### What is not forgotten -/

theorem Approaches.retains {pose : Pose α} {side : Side} (h : Approaches pose b p side next q) : p.Retains q := by
  cases h <;> exact ⟨id, id, id⟩

theorem Searches.retains (h : c.Searches executed next q b) : c.pilot.Retains q := by
  cases h
  case locate => exact ⟨fun _ => rfl, Pilot.retains_trust.left, Pilot.retains_trust.right⟩
  case driveToPost move => exact Pilot.retains_survey.trans move.retains
  all_goals exact ⟨id, id, id⟩

theorem Replans.retains (h : c.Replans p) : c.pilot.Retains p := by
  cases h with
  | anew => exact Pilot.retains_trust.trans Pilot.retains_adopt
  | leave => exact .refl c.pilot

theorem DrivesUp.retains {pose : Pose α} (h : DrivesUp pose b p next q) : p.Retains q := by
  cases h <;> exact ⟨id, id, id⟩

theorem Nears.retains (h : c.Nears executed next q b) : c.pilot.Retains q := by
  cases h
  case driveUp plan move => exact plan.retains.trans move.retains
  all_goals exact ⟨id, id, id⟩

theorem Finishes.retains {pose : Pose α} {waypoint : Option (Waypoint α)} (h : Finishes pose waypoint b p next q) :
    p.Retains q := by
  have kept {draft : Option (Passage α)} : p.Retains ((p.survey b).adopt pose draft) :=
    Pilot.retains_survey.trans Pilot.retains_adopt
  cases h <;> exact ⟨kept.passage, kept.left, kept.right⟩

theorem Passes.retains (h : c.Passes executed next q b) : c.pilot.Retains q := by
  cases h
  case endTurning finish | endDriving finish | reachEnd finish =>
    exact ⟨finish.retains.passage, finish.retains.left, finish.retains.right⟩
  all_goals exact ⟨id, id, id⟩

/-- No move forgets a passage or a post. -/
theorem Advances.retains (h : c.Advances executed next q b) : c.pilot.Retains q := by
  cases h with
  | searches h => exact h.retains
  | nears h => exact h.retains
  | passes h => exact h.retains
  | idle => exact ⟨id, id, id⟩

/-! ### Which phase follows -/

theorem Searches.follows (h : c.Searches executed next q b) : next ∈ executed.followers := by
  cases h
  case driveToPost move => cases move <;> decide
  all_goals decide

theorem Nears.follows (h : c.Nears executed next q b) (ready : c.pilot.Ready executed) :
    next ∈ executed.followers := by
  cases h
  case driveUp move => cases move <;> decide
  case faceNothing passage => have := ready.passage rfl; simp [passage] at this
  case noPost far =>
    have := Pilot.farthest?_isSome c.pose (ready.located rfl).knownPosts_ne_nil
    simp [far] at this
  all_goals decide

theorem Finishes.follows {pose : Pose α} {waypoint : Option (Waypoint α)} (h : Finishes pose waypoint b p next q)
    (passage : p.passage.isSome = true) : next = .turnThrough := by
  cases h with
  | lineUp => rfl
  | @giveUp draft plan lost =>
    have kept : ((p.survey b).adopt pose draft).passage.isSome = true :=
      Pilot.retains_adopt.passage (Pilot.retains_survey.passage passage)
    rw [lost] at kept; cases kept

theorem Passes.follows (h : c.Passes executed next q b) (ready : c.pilot.Ready executed) :
    next ∈ executed.followers := by
  cases h
  case endTurning detour _ | endDriving detour _ => exact absurd detour (ready.detour rfl)
  case turnPast through | drivePast through => exact absurd through (ready.through rfl)
  case reachEnd finish => rw [finish.follows (ready.passage rfl)]; decide
  all_goals decide

theorem Advances.follows (h : c.Advances executed next q b) (ready : c.pilot.Ready executed) :
    next ∈ executed.followers := by
  cases h with
  | searches h => exact h.follows
  | nears h => exact h.follows ready
  | passes h => exact h.follows ready
  | idle => cases executed <;> decide

end Cycle

namespace Pilot
variable [Scalar α] [Trig α] {p p' : Pilot α} {v : View α}

theorem ready_of_start {settings : TraverseSettings α} {area : Waypoint α} (h : start settings area = .ok p) :
    p.Ready p.phase := by
  obtain ⟨points, -, rfl⟩ := of_start h
  exact .of_looking rfl nofun nofun

theorem ready_of_shown (h : p.shown v = .ok p') (ready : p.Ready p.phase) : p'.Ready p'.phase := by
  obtain ⟨next, q, b, hq, rfl⟩ := of_shown h
  exact (hq.ready ready).moved

theorem retains_of_shown (h : p.shown v = .ok p') : p.Retains p' := by
  obtain ⟨next, q, b, hq, rfl⟩ := of_shown h
  exact hq.retains.trans retains_moved

theorem follows_of_shown (h : p.shown v = .ok p') (ready : p.Ready p.phase) : p'.phase ∈ p.phase.followers := by
  obtain ⟨next, q, b, hq, rfl⟩ := of_shown h
  exact hq.follows ready

end Pilot

namespace Logbook
variable [Scalar α] [Trig α] [Numeral α] (L : Logbook α) {i j : Nat}

theorem ready (hi : i ≤ L.length) : (L.pilot i).Ready (L.pilot i).phase :=
  L.invariant (P := fun p => p.Ready p.phase) (Pilot.ready_of_start L.starts) Pilot.ready_of_shown hi

theorem follows (hi : i < L.length) : (L.pilot (i + 1)).phase ∈ (L.pilot i).phase.followers :=
  Pilot.follows_of_shown (L.step i hi) (L.ready (Nat.le_of_lt hi))

/-- What the followers of a phase inherit from it holds from then on. -/
theorem phase_of_le {P : Phase → Prop} (inherit : ∀ phase next, next ∈ phase.followers → P phase → P next)
    (hij : i ≤ j) (hj : j ≤ L.length) (h : P (L.pilot i).phase) : P (L.pilot j).phase := by
  induction j with
  | zero => rwa [Nat.le_zero.1 hij] at h
  | succ j ih =>
    rcases Nat.eq_or_lt_of_le hij with rfl | earlier
    · exact h
    · exact inherit _ _ (L.follows hj) (ih (Nat.le_of_lt_succ earlier) (Nat.le_of_lt hj))

theorem retains (hij : i ≤ j) (hj : j ≤ L.length) : (L.pilot i).Retains (L.pilot j) := by
  induction j with
  | zero => rw [Nat.le_zero.1 hij]; exact .refl _
  | succ j ih =>
    rcases Nat.eq_or_lt_of_le hij with rfl | earlier
    · exact .refl _
    · exact (ih (Nat.le_of_lt_succ earlier) (Nat.le_of_lt hj)).trans (Pilot.retains_of_shown (L.step j hj))

/-- Throughout a search every phase finds what it relies on, only its followers come after a phase, no passage and no
post that was known is forgotten, and there is an answer to the next view. -/
theorem phases_supplied :
    (∀ i ≤ L.length, (L.pilot i).Ready (L.pilot i).phase) ∧
    (∀ i < L.length, (L.pilot (i + 1)).phase ∈ (L.pilot i).phase.followers) ∧
    (∀ i j, i ≤ j → j ≤ L.length → (L.pilot i).Retains (L.pilot j)) ∧
    ∀ v : View α, v.Numbered → ∃ p, (L.pilot L.length).shown v = .ok p :=
  ⟨fun _ hi => L.ready hi, fun _ hi => L.follows hi, fun _ _ hij hj => L.retains hij hj,
    fun _ numbered => L.exists_shown (Nat.le_refl _) numbered⟩

end Logbook

end GateNav
