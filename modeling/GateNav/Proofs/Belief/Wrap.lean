import Mathlib.Algebra.Order.Field.Basic
import Mathlib.Tactic.Linarith
import Mathlib.Tactic.Ring
import GateNav.Proofs.Bearing
import GateNav.Proofs.Belief.Chronicle
import GateNav.Proofs.Belief.Ranges
import GateNav.Proofs.Window.Sorted

/-!
# The smoothed bearing and the readings

A bearing is taken for the post that is held if it is near the last one on the circle, but a window averages its samples
as plain numbers. As long as no two samples in a row lie on different sides of the wrap, or if only one of them is
averaged, the smoothed bearing stays as near to the last one as the samples do. Otherwise it is off by parts of a turn,
one for each sample averaged that lies beyond the wrap (`Belief.smoothed_near`): of two bearings close to straight
behind, one on either side, the smoothed one is straight ahead (`Belief.smoothed_across_wrap`).
-/

namespace GateNav
open Bearing

namespace Window
variable {p d c : Rat} {xs : List Rat}

/-! ### Samples and their mean -/

/-- Where each sample is near the one before it, all are near the last one. -/
theorem near_last (some_way : 0 ≤ d) (chain : xs.IsChain fun a b => Near p d b a) (last : xs.getLast? = some c) :
    ∀ x ∈ xs, Near p ((xs.length - 1) * d) x c := by
  induction xs with
  | nil => cases last
  | cons x xs ih =>
    cases xs with
    | nil =>
      cases last
      intro y hy
      rw [List.mem_singleton.1 hy]
      exact near_self (by simp)
    | cons next rest =>
      rw [List.isChain_cons_cons] at chain
      rw [List.getLast?_cons_cons] at last
      have rest_near := ih chain.2 last
      have count : ((x :: next :: rest).length - 1 : Rat) * d = d + ((next :: rest).length - 1) * d := by
        push_cast [List.length_cons]; ring
      rw [count, List.forall_mem_cons]
      exact ⟨chain.1.symm.trans (rest_near next List.mem_cons_self), fun y hy => (rest_near y hy).mono (by linarith)⟩

theorem exists_abs_sum_sub_le (near : ∀ x ∈ xs, Near p d x c) :
    ∃ z : Int, |xs.sum - xs.length * c - p * z| ≤ xs.length * d := by
  induction xs with
  | nil => exact ⟨0, by simp⟩
  | cons x xs ih =>
    rw [List.forall_mem_cons] at near
    obtain ⟨z, close⟩ := near.1
    obtain ⟨w, rest⟩ := ih near.2
    refine ⟨z + w, ?_⟩
    push_cast [List.sum_cons, List.length_cons]
    have parts : x + xs.sum - (xs.length + 1) * c - p * (z + w) =
      (x - c - p * z) + (xs.sum - xs.length * c - p * w) := by ring
    have bound := (abs_add_le (x - c - p * z) (xs.sum - xs.length * c - p * w)).trans (add_le_add close rest)
    rw [parts]
    linarith

/-- The mean of samples that are near `c` is near `c`, but for parts of the period. -/
theorem exists_abs_mean_sub_le (proportion : Rat) (some_left : xs ≠ []) (near : ∀ x ∈ xs, Near p d x c) :
    ∃ z : Int, |mean proportion (sort xs) - c - p * z / keep proportion xs.length| ≤ d := by
  have kept : (0 : Rat) < keep proportion xs.length :=
    Nat.cast_pos.2 (keep_in_range proportion (List.length_pos_iff.2 some_left)).1
  have members : ∀ x ∈ middle proportion (sort xs), Near p d x c := fun x hx =>
    near x ((sort_perm xs).mem_iff.1 (List.mem_of_mem_drop (List.mem_of_mem_take hx)))
  obtain ⟨z, close⟩ := exists_abs_sum_sub_le members
  rw [length_middle, length_sort] at close
  refine ⟨z, ?_⟩
  rw [mean_eq, length_sort]
  have scaled : (middle proportion (sort xs)).sum / keep proportion xs.length - c - p * z / keep proportion xs.length =
      ((middle proportion (sort xs)).sum - keep proportion xs.length * c - p * z) / keep proportion xs.length := by
    rw [sub_div, sub_div, mul_div_cancel_left₀ c kept.ne']
  rw [scaled, abs_div, abs_of_pos kept, div_le_iff₀ kept, mul_comm d]
  exact close

end Window

/-! ### The window of a tracker -/

namespace Tracker
variable {α : Type} [Scalar α] {s : TrackingSettings α} {t : Tracker α} {h : Chronicle α} {c : Sighting α}

/-- The window of the bearings ends with that of the sighting held. -/
theorem Follows.getLast?_samples (hf : t.Follows s h) (places : 1 ≤ s.windowSize) (held : t.held = some c) :
    t.bearings.samples.getLast? = some c.bearing := by
  have last : h.taken.getLast? = some c := hf.held.symm.trans held
  have some_taken : h.taken ≠ [] := by rintro none_taken; rw [none_taken] at last; cases last
  have count : 0 < h.taken.length := List.length_pos_iff.2 some_taken
  rw [hf.bearings, Window.ofSeries, List.rtake, List.getLast?_drop, List.length_map, if_neg (by omega),
    List.getLast?_map, last]
  rfl

/-- On the circle each bearing of the window is near the one before it. -/
theorem Follows.isChain_samples (hf : t.Follows s h) :
    t.bearings.samples.IsChain fun a b => gap b a ≤ s.bearingTolerance := by
  have alike : (h.taken.map (·.bearing)).IsChain fun a b => gap b a ≤ s.bearingTolerance := by
    refine (List.isChain_map _).2 (hf.alike.imp fun a b like => ?_)
    unfold similar at like
    rw [Bool.and_eq_true, decide_eq_true_eq] at like
    exact like.1
  rw [hf.bearings]
  exact alike.drop _

end Tracker

theorem isChain_and {β : Type} {R S : β → β → Prop} {l : List β} (hR : l.IsChain R) (hS : l.IsChain S) :
    l.IsChain fun a b => R a b ∧ S a b :=
  List.isChain_iff_getElem.2 fun i hi => ⟨hR.getElem i hi, hS.getElem i hi⟩

namespace Belief
variable [Trig Rat] [Numeral Rat] {s : TrackingSettings Rat} {b last : Belief Rat} {requests : List (Request Rat)}
  {c : Sighting Rat} {w : Window Rat}

/-- Under valid settings, and whatever was asked of the belief, a post that is held has a smoothed bearing. It differs
from the bearing last taken by no more than the tolerance for each sample but that one, and by a multiple of a turn over
the number of samples averaged. On the circle this multiple is nothing if only one sample is averaged, or if no two
samples in a row are more than half a turn apart as plain numbers. -/
theorem smoothed_near (begins : Belief.build s = .ok (.ok b)) (served : b.serveAll requests = .ok last) (side : Side)
    (held : (last.tracker side).held = some c) (window : (last.tracker side).bearings = w) :
    ∃ x, (last.tracker side).bearing? = some x ∧
      (∃ z : Int, |x - c.bearing - 360 * z / Window.keep w.proportion w.samples.length| ≤
        (w.samples.length - 1) * s.bearingTolerance) ∧
      (Window.keep w.proportion w.samples.length = 1 ∨ w.samples.IsChain (fun a b => |b - a| ≤ 180) →
        gap x c.bearing ≤ (w.samples.length - 1) * s.bearingTolerance) := by
  obtain ⟨valid, rfl⟩ := of_build begins
  obtain ⟨h, recorded⟩ := (recorded_start valid).of_serveAll valid served
  have follows := (recorded.trackers side).toFollows
  have ends := follows.getLast?_samples valid.windowSize held
  have chain := follows.isChain_samples
  rw [window] at ends chain
  have some_left : w.samples ≠ [] := by rintro nothing; rw [nothing] at ends; cases ends
  have some_way : 0 ≤ s.bearingTolerance := by
    have positive := valid.bearingTolerance
    rw [isPositive, Bool.and_eq_true, decide_eq_true_eq] at positive
    exact positive.2.le
  have value : (last.tracker side).bearing? = some (Window.mean w.proportion (Window.sort w.samples)) := by
    have post : (last.tracker side).hasPost = true := by rw [Tracker.hasPost, held]; rfl
    rw [Tracker.bearing?, if_pos post, window, Window.value?, if_neg (by simpa using some_left)]
  have circle := Window.near_last some_way (chain.imp fun a b close => near_iff.2 close) ends
  have parts := Window.exists_abs_mean_sub_le w.proportion some_left circle
  refine ⟨_, value, parts, ?_⟩
  -- With one sample the parts of a turn are whole turns. With no wrap between samples there are none: the samples are
  -- near each other with the period zero as well.
  rintro (single | plain)
  · obtain ⟨z, close⟩ := parts
    rw [single, Nat.cast_one, div_one] at close
    exact near_iff.1 ⟨z, close⟩
  · have steps := (isChain_and chain plain).imp fun a b close => (⟨0, by
      rw [gap_eq_abs close.2] at close
      simpa using close.1⟩ : Near 0 s.bearingTolerance b a)
    obtain ⟨z, close⟩ := Window.exists_abs_mean_sub_le w.proportion some_left
      (Window.near_last some_way steps ends)
    rw [zero_mul, zero_div, sub_zero] at close
    refine le_trans ?_ close
    simpa using gap_le_abs _ c.bearing 0

end Belief

/-- Two samples are averaged. -/
def Exact.paired : TrackingSettings Rat := { prompt with windowSize := 2 }

theorem Exact.build_paired : Belief.build paired = .ok (.ok (.start paired)) := by decide +kernel

/-- A post is seen on the left, under one bearing after the other. -/
def Exact.turning (bearings : List Rat) : List (Belief.Request Rat) :=
  bearings.flatMap fun bearing => [.setSightings ⟨⟨3, bearing, 3⟩, .none⟩, .update (place 0 0 0) none]

theorem Belief.smoothed_near_turning :
    ∃ b last : Belief Rat, Belief.build Exact.paired = .ok (.ok b) ∧
      b.serveAll (Exact.turning [170, 179]) = .ok last ∧ (last.tracker .left).held = some ⟨3, 179, 3⟩ ∧
      ∃ x, (last.tracker .left).bearing? = some x ∧ gap x 179 ≤ 15 := by
  have ends : (match (Belief.start Exact.paired).serveAll (Exact.turning [170, 179]) with
      | .ok last => decide ((last.tracker .left).held = some ⟨3, 179, 3⟩ ∧
        (last.tracker .left).bearings.samples = [170, 179])
      | .error _ => false) = true := by decide +kernel
  split at ends
  · next last served =>
    obtain ⟨held, samples⟩ := of_decide_eq_true ends
    obtain ⟨x, value, -, near⟩ := smoothed_near Exact.build_paired served .left held rfl
    have plain : ([170, 179] : List Rat).IsChain fun a b => |b - a| ≤ 180 := by decide +kernel
    rw [samples] at near
    refine ⟨_, last, Exact.build_paired, served, held, x, value, (near (.inr plain)).trans ?_⟩
    decide +kernel
  · cases ends

/-- A post goes by behind the rover, and its smoothed bearing is straight ahead. -/
theorem Belief.smoothed_across_wrap :
    ∃ b last : Belief Rat, Belief.build Exact.paired = .ok (.ok b) ∧
      b.serveAll (Exact.turning [179, -179]) = .ok last ∧ (last.tracker .left).held = some ⟨3, -179, 3⟩ ∧
      (last.tracker .left).bearings.samples = [179, -179] ∧ gap (-179) 179 ≤ Exact.paired.bearingTolerance ∧
      (last.tracker .left).bearing? = some 0 ∧
      ¬ gap 0 (-179) ≤ ((last.tracker .left).bearings.samples.length - 1) * Exact.paired.bearingTolerance := by
  have ends : (match (Belief.start Exact.paired).serveAll (Exact.turning [179, -179]) with
      | .ok last => decide ((last.tracker .left).held = some ⟨3, -179, 3⟩ ∧
        (last.tracker .left).bearings.samples = [179, -179] ∧ (last.tracker .left).bearing? = some 0)
      | .error _ => false) = true := by decide +kernel
  split at ends
  · next last served =>
    obtain ⟨held, samples, value⟩ := of_decide_eq_true ends
    refine ⟨_, last, Exact.build_paired, served, held, samples, by decide +kernel, value, ?_⟩
    rw [samples]
    decide +kernel
  · cases ends

end GateNav
