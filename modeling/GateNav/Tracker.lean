import GateNav.Event
import GateNav.Settings.Basic
import GateNav.Window

/-!
# Tracking one post

A `Tracker` turns the sightings in one part of the image into belief about a post. A sighting like the one
held, or any when none is held, is a hit: it is taken over and clears the misses. Any other is a miss, as is a
frame without one. After more misses than the threshold a post seen instead is taken for the new one, and
a post not seen is dropped. Misses count up to `maxTally` and stay there.

No sighting is like one that cannot be compared, so the samples of a window of more than one can be, and have a value.
-/

namespace GateNav

/-- Hits and misses stop counting here. -/
def maxTally : Nat := 4294967295

/-- The next count of hits or misses. -/
def nextTally (n : Nat) : Nat := min (n + 1) maxTally

/-- Belief about the post in one part of the image. -/
structure Tracker (α : Type) where
  side : Side
  /-- The sighting last taken for the post. -/
  held : Option (Sighting α)
  hits : Nat
  misses : Nat
  bearings : Window α
  distances : Window α
  /-- Where the post stands, as of the last update with a post held. -/
  location : Option (Pose α)
deriving DecidableEq, Repr

namespace Tracker
variable {α : Type} [Scalar α]

/-- Nothing seen yet. -/
def start (side : Side) (s : TrackingSettings α) : Tracker α where
  side := side
  held := none
  hits := 0
  misses := 0
  bearings := .empty s.windowSize s.proportion s.minSamples
  distances := .empty s.windowSize s.proportion s.minSamples
  location := none

def hasPost (t : Tracker α) : Bool := t.held.isSome

def id? (t : Tracker α) : Option Int32 := t.held.map (·.id)

/-- Smoothed bearing of the post held. -/
def bearing? (t : Tracker α) : Option α := if t.hasPost then t.bearings.value? else none

/-- Smoothed distance of the post held. -/
def distance? (t : Tracker α) : Option α := if t.hasPost then t.distances.value? else none

/-- Both windows can be trusted. -/
def settled (t : Tracker α) : Bool := t.bearings.ready && t.distances.ready

/-- Held, seen in this very cycle, and smoothed. -/
def confident (t : Tracker α) : Bool := t.hasPost && t.misses == 0 && t.settled

/-- The two sightings may be of one post. -/
def similar (s : TrackingSettings α) (held seen : Sighting α) : Bool :=
  Bearing.gap seen.bearing held.bearing ≤ s.bearingTolerance &&
    Scalar.abs (seen.distance - held.distance) ≤ s.distanceTolerance

def accept (t : Tracker α) (seen : Sighting α) : Tracker α :=
  { t with
    hits := nextTally t.hits
    misses := 0
    bearings := t.bearings.push seen.bearing
    distances := t.distances.push seen.distance
    held := some seen }

/-- The post seen takes the place of the one held. -/
def replace (t : Tracker α) (seen : Sighting α) : Tracker α :=
  { t with
    bearings := t.bearings.clear.push seen.bearing
    distances := t.distances.clear.push seen.distance
    held := some seen
    hits := 0
    misses := 0 }

/-- The post is given up; the misses stay. -/
def drop (t : Tracker α) : Tracker α :=
  { t with held := none, hits := 0, bearings := t.bearings.clear, distances := t.distances.clear, location := none }

def miss (t : Tracker α) : Tracker α := { t with misses := nextTally t.misses }

/-- One sighting, or the lack of one. -/
def observe (s : TrackingSettings α) (t : Tracker α) (seen : Sighting α) : Noted α (Tracker α) :=
  if seen.detected then
    match t.held with
    | none => ⟨t.accept seen, []⟩
    | some held =>
      if similar s held seen then ⟨t.accept seen, []⟩
      else
        let missed := t.miss
        if s.missThreshold < missed.misses then ⟨missed.replace seen, [.postReplaced t.side held.id seen.id]⟩
        else ⟨missed, []⟩
  else
    let missed := t.miss
    if s.missThreshold < missed.misses && missed.hasPost then ⟨missed.drop, [.postDropped t.side missed.misses]⟩
    else ⟨missed, []⟩

/-- Nothing seen yet, as at the start. -/
def reset (t : Tracker α) : Tracker α := { t.drop with misses := 0 }

variable [Trig α]

/-- The post is placed by its smoothed bearing and distance as seen from `pose`. -/
def locate (t : Tracker α) (pose : Pose α) : Tracker α :=
  match t.hasPost, t.bearings.value?, t.distances.value? with
  | true, some bearing, some distance =>
    { t with location := some (pose.offset (Bearing.normalize (pose.heading + bearing)) distance) }
  | _, _, _ => t

/-- The post in the rover's own frame. -/
def relative? (t : Tracker α) : Option (Vec α) := do
  let bearing ← t.bearing?
  let distance ← t.distance?
  let angle := bearing * Trig.degree
  return ⟨distance * Trig.cos angle, -distance * Trig.sin angle⟩

end Tracker

end GateNav
