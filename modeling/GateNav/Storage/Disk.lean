import GateNav.Storage.Path

/-!
# A file system in memory

A `Disk` is all that can be reached from one folder. Paths start from that folder or from the root; the parts of a path
are looked up one by one, each in a folder that must be there.
-/

namespace GateNav

/-- The folders that are always there. -/
inductive Disk.Anchor where
  | root
  /-- The folder that paths start from, or one so many levels above it. -/
  | above (levels : Nat)
deriving DecidableEq, Repr

/-- A place, by the names that lead to it from a folder that is always there. -/
structure Disk.Place where
  anchor : Disk.Anchor
  names : List String
deriving DecidableEq, Repr

/-- What is at a place. -/
inductive Disk.Entry where
  | file (content : String)
  | folder
deriving DecidableEq, Repr

/-- The places that hold something. -/
structure Disk where
  entries : List (Disk.Place × Disk.Entry)
deriving DecidableEq, Repr

namespace Disk

/-- Nothing but the folders that are always there. -/
def empty : Disk := ⟨[]⟩

/-- What is at a place. -/
def find? (d : Disk) (place : Place) : Option Entry :=
  if place.names.isEmpty then some .folder else (d.entries.find? (·.1 = place)).map (·.2)

/-- The disk with an entry in place of what was there. -/
def put (d : Disk) (place : Place) (e : Entry) : Disk := ⟨(place, e) :: d.entries.filter (·.1 ≠ place)⟩

/-- A place that must be a folder. -/
def enter (d : Disk) (place : Place) : Except StorageFault Unit :=
  match d.find? place with
  | some .folder => pure ()
  | some (.file _) => throw .noFolder
  | none => throw .missing

/-- The folder that a folder is in. -/
def Place.up (place : Place) : Place :=
  if place.names.isEmpty then
    match place.anchor with
    | .root => place
    | .above levels => ⟨.above (levels + 1), []⟩
  else { place with names := place.names.dropLast }

/-- A part of a path that names no entry of a folder. -/
def isDots (part : String) : Bool := part == "." || part == ".."

/-- The place that a part of a path leads to. -/
def Place.next (place : Place) (part : String) : Place :=
  if part.isEmpty || part == "." then place
  else if part == ".." then place.up
  else { place with names := place.names ++ [part] }

/-- Names are no longer than this many bytes. -/
def maxNameSize : Nat := 255

/-- Paths are no longer than this many bytes. -/
def maxPathSize : Nat := 4095

/-- The place that a part of a path leads to from a folder. -/
def step (d : Disk) (place : Place) (part : String) : Except StorageFault Place := do
  d.enter place
  if maxNameSize < part.utf8ByteSize then throw .nameTooLong
  return place.next part

/-- Where a path starts, and its parts. -/
def route (path : String) : Except StorageFault (Place × List String) :=
  if path.toList.contains '\x00' then throw .zeroInName
  else if maxPathSize < path.utf8ByteSize then throw .nameTooLong
  else if path.isEmpty then throw .missing
  else pure (⟨if (pathParts path).head? = some "" then .root else .above 0, []⟩, pathParts path)

/-- The place that a path leads to. -/
def locate (d : Disk) (path : String) : Except StorageFault Place := do
  let (place, parts) ← route path
  parts.foldlM d.step place

/-- The entry that a path leads to. -/
def lookUp (d : Disk) (path : String) : Except StorageFault Entry := do
  match d.find? (← d.locate path) with
  | some e => return e
  | none => throw .missing

def holds (d : Disk) (path : String) : Bool := (d.lookUp path).isOk

def holdsFolder (d : Disk) (path : String) : Bool := (d.lookUp path).toOption == some .folder

def read (d : Disk) (path : String) : Except StorageFault String := do
  match ← d.lookUp path with
  | .file content => return content
  | .folder => throw .folder

/-- Where something new is to be made: the folder it is to be in, which is there, its name, and whether slashes follow
the name. Paths that end in dots or at the root name nothing new: `known` is what is wrong with them. -/
def site (d : Disk) (known : StorageFault) (path : String) : Except StorageFault (Place × String × Bool) := do
  let (place, parts) ← route path
  let upward := parts.reverse.dropWhile (·.isEmpty)
  let folder ← (upward.drop 1).reverse.foldlM d.step place
  d.enter folder
  match upward with
  | [] => throw known
  | name :: _ => if isDots name then throw known else return (folder, name, upward.length < parts.length)

def makeFolder (d : Disk) (path : String) : Except StorageFault Disk := do
  let (folder, name, _) ← d.site .occupied path
  let place ← d.step folder name
  if (d.find? place).isSome then throw .occupied else return d.put place .folder

def write (d : Disk) (path text : String) : Except StorageFault Disk := do
  let (folder, name, slashes) ← d.site .folder path
  if slashes then throw .folder
  let place ← d.step folder name
  if d.find? place = some .folder then throw .folder else return d.put place (.file text)

/-- The outcome of a change, which is made if it succeeds. -/
def change (f : Disk → Except StorageFault Disk) : StateM Disk (Except StorageFault Unit) := do
  match f (← get) with
  | .ok d => set d; return .ok ()
  | .error e => return .error e

instance : Storage (StateM Disk) where
  holds path := return (← get).holds path
  holdsFolder path := return (← get).holdsFolder path
  read path := return (← get).read path
  makeFolder path := change (·.makeFolder path)
  write path text := change (·.write path text)

end Disk

end GateNav
