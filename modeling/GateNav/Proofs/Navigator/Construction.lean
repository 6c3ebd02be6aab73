import GateNav.Proofs.Exact
import GateNav.Proofs.Navigator.Ticks
import GateNav.Proofs.Search.Layout
import GateNav.Proofs.Settings.Validate

/-!
# When a navigator can be built

The checks of the settings reject what is too small, and a navigator under settings that fail them is not built but
their error is reported. But no check bounds the size of a window or the rings of a pattern from above. Settings that
pass all checks may still ask for a window that no memory can hold, or for more search points than can be counted or
held. Then there is a halt in place of an error, when the navigator is built or when a search is begun
(`Navigator.build_halts_iff`, `Navigator.build_halts`).
-/

namespace GateNav
variable {α : Type} [Scalar α]

theorem Belief.prepare_eq_error {s : TrackingSettings α} {halt : Halt α} :
    prepare s = .error halt ↔ halt = .spaceTooLarge ∧ maxBytes < s.windowSize * Window.sampleSize := by
  unfold prepare
  rw [Checked.bind_eq_error, reserve_eq_error]
  simp [pure, Except.pure]

theorem Belief.exists_prepare {s : TrackingSettings α} (h : s.windowSize * Window.sampleSize ≤ maxBytes) :
    ∃ b, prepare s = .ok b :=
  Checked.bind_exists ⟨(), reserve_eq_ok.2 h⟩ fun _ => ⟨_, rfl⟩

namespace Navigator
variable [Numeral α] {s : Settings α} {n : Navigator α}

theorem build_of_invalid {e : SettingsError} (h : s.validate = .error e) : build s = .ok (.error e) := by
  unfold build
  rw [h]
  rfl

theorem build_eq_error (valid : s.validate = .ok ()) {halt : Halt α} :
    build s = .error halt ↔ halt = .spaceTooLarge ∧ maxBytes < s.tracking.windowSize * Window.sampleSize := by
  unfold build
  rw [valid]
  dsimp only
  rw [Checked.bind_eq_error, Belief.prepare_eq_error]
  simp [pure, Except.pure]

theorem exists_build (valid : s.validate = .ok ()) (fits : s.tracking.windowSize * Window.sampleSize ≤ maxBytes) :
    ∃ n, build s = .ok (.ok n) := by
  obtain ⟨b, prepared⟩ := Belief.exists_prepare fits
  refine ⟨start s b, ?_⟩
  unfold build
  rw [valid, prepared]
  rfl

variable [Trig α] {w : Waypoint α}

/-- A pilot is built if its search points fit, and else it halts as their layout does. -/
theorem search_eq (valid : n.settings.traverse.validate = .ok ()) :
    (∀ halt, n.search w = .error halt ↔ (Pattern.ofSettings n.settings.traverse).Exceeds halt) ∧
    ((Pattern.ofSettings n.settings.traverse).Fits → ∃ started, n.search w = .ok (.ok started)) := by
  cases laid : (Pattern.ofSettings n.settings.traverse).points w.pose n.settings.traverse.spacing with
  | error halt =>
    have exceeds := (Pattern.points_eq_error w.pose n.settings.traverse.spacing).1 laid
    have halts : n.search w = .error halt := by
      unfold search Pilot.build Pilot.start Pilot.searchPoints
      rw [valid]
      simp only [laid, bind, Except.bind]
    constructor
    · intro halt'
      rw [halts, ← Pattern.points_eq_error w.pose n.settings.traverse.spacing, laid,
        Except.error.injEq, Except.error.injEq]
    · exact fun fits => absurd exceeds (fits.not_exceeds halt)
  | ok points =>
    have begins : ∃ started, n.search w = .ok (.ok started) := by
      unfold search Pilot.build Pilot.start Pilot.searchPoints
      rw [valid]
      simp only [laid, bind, Except.bind, pure, Except.pure]
      exact ⟨_, rfl⟩
    constructor
    · intro halt'
      obtain ⟨started, h⟩ := begins
      rw [h, ← Pattern.points_eq_error w.pose n.settings.traverse.spacing, laid]
      simp
    · exact fun _ => begins

/-- Settings that fail a check are reported with its error and with nothing else. Under all others a navigator is built,
unless the window is larger than any memory, and then a search can be begun for every waypoint, or for none: it begins
unless the legs of the pattern cannot be counted or its points are more than any memory can hold. -/
theorem build_halts_iff (s : Settings α) :
    (∀ e, s.validate = .error e → build s = .ok (.error e)) ∧
    (s.validate = .ok () →
      (∀ halt, build s = .error halt ↔
        halt = .spaceTooLarge ∧ maxBytes < s.tracking.windowSize * Window.sampleSize) ∧
      (s.tracking.windowSize * Window.sampleSize ≤ maxBytes → ∃ n, build s = .ok (.ok n)) ∧
      ∀ n, build s = .ok (.ok n) → ∀ w : Waypoint α,
        (∀ halt, n.search w = .error halt ↔ (Pattern.ofSettings s.traverse).Exceeds halt) ∧
        ((Pattern.ofSettings s.traverse).Fits → ∃ started, n.search w = .ok (.ok started))) := by
  refine ⟨fun e invalid => build_of_invalid invalid, fun valid => ⟨fun _ => build_eq_error valid, ?_, ?_⟩⟩
  · exact exists_build valid
  · intro n built w
    obtain ⟨-, b, -, rfl⟩ := of_build built
    exact search_eq (n := start s b) (TraverseSettings.validate_eq_ok.2 (Settings.validate_eq_ok.1 valid).2)

end Navigator

theorem Navigator.build_halts_iff_carefree :
    ∃ n started, Navigator.build ⟨Exact.prompt, Exact.carefree⟩ = .ok (.ok n) ∧
      n.search Exact.gate = .ok (.ok started) := by
  have valid : (⟨Exact.prompt, Exact.carefree⟩ : Settings Rat).validate = .ok () := by decide +kernel
  obtain ⟨-, built, begins⟩ := (build_halts_iff ⟨Exact.prompt, Exact.carefree⟩).2 valid
  obtain ⟨n, hn⟩ := built (by decide)
  obtain ⟨started, h⟩ := (begins n hn Exact.gate).2 ⟨by decide, by decide⟩
  exact ⟨n, started, hn, h⟩

/-- Settings with a window for more samples than any memory can hold. -/
def Exact.vast : Settings Rat := ⟨{ prompt with windowSize := 4611686018427387904 }, carefree⟩

/-- Settings with a spiral of more legs than can be counted. -/
def Exact.endless : Settings Rat :=
  ⟨prompt, { carefree with pattern := .spiral, rings := 4611686018427387904 }⟩

/-- Both pass all checks. With the first no navigator can be built, with the second no search be begun. -/
theorem Navigator.build_halts :
    Exact.vast.validate = .ok () ∧ Navigator.build Exact.vast = .error .spaceTooLarge ∧
      Exact.endless.validate = .ok () ∧
      ∃ n, Navigator.build Exact.endless = .ok (.ok n) ∧ n.search Exact.gate = .error .productTooLarge := by
  refine ⟨by decide +kernel, by decide +kernel, by decide +kernel, ?_⟩
  exact ⟨.start Exact.endless (.start Exact.endless.tracking), by decide +kernel, by decide +kernel⟩

end GateNav
