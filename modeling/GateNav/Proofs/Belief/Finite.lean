import GateNav.Proofs.Belief.Chronicle
import GateNav.Proofs.Window.Comparison

/-!
# Finite samples

A sighting that is infinite or undefined in any part is like no other, not even like one that is the same. It can be
taken for a post, when none is held or in the place of another one, but then it stands alone: the next sighting is not
like it, so it is the only sample of its window until another post takes its place. So all samples of a window of two or
more are finite, and its samples are sorted by a total order (`Belief.samples_finite`).
-/

namespace GateNav
variable {α : Type} [Scalar α]

/-- Both measurements are finite. -/
structure Sighting.Finite (seen : Sighting α) : Prop where
  bearing : Scalar.isFinite seen.bearing = true
  distance : Scalar.isFinite seen.distance = true

theorem isFinite_of_isPositive {x : α} (h : isPositive x = true) : Scalar.isFinite x = true :=
  ((Bool.and_eq_true ..).mp h).1

/-- Where each two neighbours have a property, all of several things have it. -/
theorem forall_of_isChain {β : Type} {R : β → β → Prop} {P : β → Prop} (both : ∀ a b, R a b → P a ∧ P b) {xs : List β}
    (chain : xs.IsChain R) (several : 2 ≤ xs.length) : ∀ x ∈ xs, P x := by
  induction chain with
  | nil => cases several
  | singleton => exact absurd several (by simp)
  | @cons_cons a b l related rest ih =>
    rw [List.forall_mem_cons]
    refine ⟨(both a b related).1, ?_⟩
    cases l with
    | nil => simpa using (both a b related).2
    | cons => exact ih (by simp)

variable {s : TrackingSettings α}

namespace Tracker
variable {a b : Sighting α} {t : Tracker α} {h : Chronicle α}

/-- The samples of a window are measurements of sightings that were taken. -/
theorem isFinite_of_mem_ofSeries {f : Sighting α → α} (finite : ∀ seen ∈ h.taken, Scalar.isFinite (f seen) = true)
    {x : α} (hx : x ∈ (Window.ofSeries s (h.taken.map f)).samples) : Scalar.isFinite x = true := by
  obtain ⟨seen, hs, rfl⟩ := List.mem_map.1 (List.mem_of_mem_drop hx)
  exact finite seen hs

variable [Scalar.Absorbing α] [Scalar.Comparable α]

/-- Sightings that are alike are finite. -/
theorem finite_of_similar (valid : s.Valid) (alike : similar s a b = true) : a.Finite ∧ b.Finite := by
  unfold similar at alike
  rw [Bool.and_eq_true, decide_eq_true_eq, decide_eq_true_eq] at alike
  have bearings := Bearing.isFinite_of_gap_le alike.1
  have distances := Scalar.isFinite_of_abs_sub_le (isFinite_of_isPositive valid.distanceTolerance) alike.2
  exact ⟨⟨bearings.2, distances.2⟩, ⟨bearings.1, distances.1⟩⟩

theorem Follows.finite_of_taken (hf : t.Follows s h) (valid : s.Valid) (several : 2 ≤ h.taken.length) :
    ∀ seen ∈ h.taken, seen.Finite := by
  have both (a b : Sighting α) : similar s a b = true → a.Finite ∧ b.Finite := finite_of_similar valid
  exact forall_of_isChain both hf.alike several

theorem Follows.isFinite_of_mem (hf : t.Follows s h) (valid : s.Valid) {w : Window α}
    (window : w = t.bearings ∨ w = t.distances) (several : 2 ≤ w.samples.length) :
    ∀ x ∈ w.samples, Scalar.isFinite x = true := by
  have taken {f : Sighting α → α} (many : 2 ≤ (Window.ofSeries s (h.taken.map f)).samples.length) :
      ∀ seen ∈ h.taken, seen.Finite := by
    refine hf.finite_of_taken valid (many.trans ?_)
    simp [Window.ofSeries, List.rtake]
  rcases window with rfl | rfl
  · rw [hf.bearings] at several ⊢
    exact fun x => isFinite_of_mem_ofSeries fun seen hs => (taken several seen hs).bearing
  · rw [hf.distances] at several ⊢
    exact fun x => isFinite_of_mem_ofSeries fun seen hs => (taken several seen hs).distance

end Tracker

namespace Belief
variable [Scalar.Absorbing α] [Scalar.Comparable α] [Scalar.Ordered α] [Scalar.Asymmetric α] [Trig α] [Numeral α]
  {b last : Belief α} {requests : List (Request α)}

/-- Under valid settings, and whatever was asked of the belief with whatever sightings, all samples of a window of two
or more are finite. The comparison by which samples are sorted is a total order on those of any window, no two of them
count as equal because they do not compare, and sorting them never ends in a halt. -/
theorem samples_finite (begins : Belief.build s = .ok (.ok b)) (served : b.serveAll requests = .ok last) (side : Side)
    {w : Window α} (window : w = (last.tracker side).bearings ∨ w = (last.tracker side).distances) :
    (2 ≤ w.samples.length → ∀ x ∈ w.samples, Scalar.isFinite x = true) ∧
    (∀ x y : α, Window.less x y = (Window.compare x y == .lt)) ∧
    Std.TransCmp (fun x y : { x // x ∈ w.samples } => Window.compare x.1 y.1) ∧
    w.samples.Pairwise (fun x y => (Window.compare? x y).isSome = true) ∧
    w.value = .ok w.value? := by
  obtain ⟨valid, rfl⟩ := of_build begins
  obtain ⟨h, recorded⟩ := (recorded_start valid).of_serveAll valid served
  have finite := (recorded.trackers side).toFollows.isFinite_of_mem valid window
  refine ⟨finite, Window.less_eq_compare, ?_⟩
  by_cases several : 2 ≤ w.samples.length
  · have numbers : ∀ x ∈ w.samples, IsNumber x := fun x hx =>
      Scalar.Absorbing.isNumber_of_isFinite (finite several x hx)
    refine ⟨Window.transCmp_of_isNumber numbers, ?_, Window.value_of_comparable ?_⟩
    · exact List.pairwise_of_forall_mem_list fun x hx y hy => Window.isSome_compare? (numbers x hx) (numbers y hy)
    · exact List.all_eq_true.2 fun x hx => decide_eq_true (numbers x hx)
  -- One sample is not compared with any.
  · have few : w.samples.length ≤ 1 := by omega
    refine ⟨Window.transCmp_of_length_le few, ?_, Window.value_of_length_le (few.trans (by decide))⟩
    match w.samples, few with
    | [], _ => exact .nil
    | [x], _ => exact List.pairwise_singleton _ x

end Belief

/-- A post is given up for another one at the first miss. -/
def Float64.fickle : TrackingSettings Float := { TrackingSettings.default with missThreshold := 0 }

/-- A post is seen on the left under an undefined bearing, and then twice straight ahead. -/
def Float64.clearing : List (Belief.Request Float) :=
  [.setSightings ⟨⟨3, undefined, 3⟩, .none⟩, .update .origin none, .setSightings ⟨⟨3, 0, 3⟩, .none⟩,
    .update .origin none, .update .origin none]

/-- The undefined bearing is taken, and then it is given up. -/
theorem Belief.samples_finite_clearing :
    (Chronicle.of Float64.fickle .left (Float64.clearing.take 2)).taken.map (fun seen => Scalar.isFinite seen.bearing) =
      [false] ∧
    ∃ b last : Belief Float, Belief.build Float64.fickle = .ok (.ok b) ∧ b.serveAll Float64.clearing = .ok last ∧
      (last.tracker .left).bearings.samples.length = 2 ∧
      ∀ x ∈ (last.tracker .left).bearings.samples, Scalar.isFinite x = true := by
  have begins : Belief.build Float64.fickle = .ok (.ok (.start Float64.fickle)) := rfl
  have numbered : ∀ r ∈ Float64.clearing, r.Numbered := by
    intro r hr
    simp only [Float64.clearing, List.mem_cons, List.not_mem_nil, or_false] at hr
    rcases hr with rfl | rfl | rfl | rfl | rfl
    · trivial
    · exact nofun
    · trivial
    · exact nofun
    · exact nofun
  have valid := (of_build begins).1
  obtain ⟨last, served, recorded⟩ := (recorded_start valid).serveAll valid numbered
  have two : (last.tracker .left).bearings.samples.length = 2 := by
    rw [(recorded.trackers .left).bearings]
    decide +kernel
  exact ⟨by decide +kernel, _, last, begins, served, two,
    (samples_finite begins served .left (.inl rfl)).1 two.ge⟩

end GateNav
