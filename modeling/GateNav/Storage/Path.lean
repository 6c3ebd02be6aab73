import GateNav.Storage.Basic

/-!
# Paths and the folders on the way

A path is a row of parts with slashes between them. The path of the folder that something is in, and the making of
folders that may be there already.
-/

namespace GateNav

/-- The parts of a path. Before the first slash of a path from the root there is an empty one. -/
def pathParts (path : String) : List String := (path.toList.splitOn '/').map String.ofList

/-- A part that names the folder it stands in. -/
def isIdle (part : String) : Bool := part.isEmpty || part == "."

/-- Parts, the last one first, without those at the end of the path that are idle; its first part always counts. -/
def trimIdle : List String → List String
  | part :: next :: parts => if isIdle part then trimIdle (next :: parts) else part :: next :: parts
  | parts => parts

/-- The path with these parts, the last one first. The root has only the part before its slash. -/
def pathOf : List String → String
  | [""] => "/"
  | parts => "/".intercalate parts.reverse

/-- The path without its last part, if it has one; idle parts at its end do not count. -/
def parentPath? (path : String) : Option String :=
  match trimIdle (pathParts path).reverse with
  | [] | [""] => none
  | _ :: parts => some (pathOf (trimIdle parts))

/-- The paths of all folders on the way to a path and of itself, the nearest one first, by its parts, the last one
first. -/
def pathsUp : List String → List String
  | [] => []
  | [part] => [pathOf [part]]
  | part :: next :: parts =>
    if isIdle part then pathsUp (next :: parts) else pathOf (part :: next :: parts) :: pathsUp (next :: parts)

/-- The path and those of the folders on the way to it, the nearest one first. -/
def pathsUpward (path : String) : List String :=
  if path.isEmpty then [] else pathsUp (pathParts path).reverse

namespace Storage
variable {m : Type → Type} [Monad m] [Storage m]

/-- A folder that could not be made may be there already. -/
def accept (path : String) : Except StorageFault Unit → m (Except StorageFault Unit)
  | .ok () => return .ok ()
  | .error fault => do if ← holdsFolder path then return .ok () else return .error fault

/-- The first of the folders is made. Only if it is missing a folder to be in, the others are made before it. -/
def makeInside : List String → m (Except StorageFault Unit)
  | [] => return .ok ()
  | path :: others => do
    match ← makeFolder path with
    | .error .missing =>
      match ← makeInside others with
      | .ok () => accept path (← makeFolder path)
      | .error fault => return .error fault
    | result => accept path result

/-- The folder at the path and those on the way to it are made, as far as they are not there. -/
def makeFolders (path : String) : m (Except StorageFault Unit) := makeInside (pathsUpward path)

end Storage

end GateNav
