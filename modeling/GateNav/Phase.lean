import GateNav.Pose

/-!
# Phases and steering

A search for a gate moves through phases; in each cycle the drive layer gets the phase and a steering
target. The two terminal phases end the search.
-/

namespace GateNav

/-- What the navigation is doing. -/
inductive Phase where
  | off
  | done
  /-- Turning on the spot, looking for posts. -/
  | spin
  /-- Standing still until the filters have settled on what was seen. -/
  | spinWait
  /-- Turning toward a post or a search point. -/
  | turn
  /-- Driving to a post or a search point. -/
  | drive
  /-- Turning toward the middle of the located gate. -/
  | turnToCenter
  /-- Driving up to the gate and settling in front of it. -/
  | driveToCenter
  /-- Facing the gate along its axis. -/
  | face
  /-- Turning toward the next point of the detour around the far post. -/
  | turnToFarPost
  /-- Driving along the detour. -/
  | driveToFarPost
  /-- Turning toward the next point of the traverse. -/
  | turnThrough
  /-- Driving through the gate. -/
  | driveThrough
  /-- The gate was passed in the mandated direction. -/
  | traversed
  /-- Every search point was visited in vain. -/
  | notFound
deriving DecidableEq, Repr

namespace Phase

/-- All phases, in the order in which they are declared. -/
def all : List Phase :=
  [off, done, spin, spinWait, turn, drive, turnToCenter, driveToCenter, face, turnToFarPost,
    driveToFarPost, turnThrough, driveThrough, traversed, notFound]

/-- The name of the phase in logs and reports. -/
def name : Phase → String
  | off => "Off"
  | done => "Done"
  | spin => "GateSpin"
  | spinWait => "GateSpinWait"
  | turn => "GateTurn"
  | drive => "GateDrive"
  | turnToCenter => "GateTurnToCentPoint"
  | driveToCenter => "GateDriveToCentPoint"
  | face => "GateFace"
  | turnToFarPost => "GateTurnToFarPost"
  | driveToFarPost => "GateDriveToFarPost"
  | turnThrough => "GateTurnToGateCenter"
  | driveThrough => "GateDriveThrough"
  | traversed => "GateTraversed"
  | notFound => "GateNotFound"

/-- The phase of that name. -/
def ofName? (name : String) : Option Phase := all.find? (·.name = name)

/-- The phase ends a search. -/
def isTerminal : Phase → Bool
  | traversed | notFound => true
  | _ => false

/-- The phase belongs to a search for a gate. -/
def isGate : Phase → Bool
  | off | done => false
  | _ => true

end Phase

/-- What the drive layer is to do. -/
inductive Steering (α : Type) where
  /-- Stop and keep the pose. -/
  | hold
  /-- Turn on the spot to a compass bearing. -/
  | heading (bearing : α)
  /-- Steer toward a point and drive to it. -/
  | point (goal : Pose α)
deriving DecidableEq, BEq, Repr

end GateNav
