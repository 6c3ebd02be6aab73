import GateNav.Toml.Value

/-!
# Putting a TOML document together

A document is a series of statements: headers that open a table or a further table of a list, and assignments to the
table that is open. A `Node` remembers how its table came to be, because a table may be opened by a header only
once, and dotted keys may only add to tables that dotted keys have made.
-/

namespace GateNav.Toml

/-- How a table came to be. -/
inductive Origin where
  /-- By a header of its own, or the braces around it. -/
  | header
  /-- On the way to a table that a header opened. -/
  | passing
  /-- On the way of a dotted key. -/
  | dotted
deriving DecidableEq, Repr

/-- A document that is being put together. -/
inductive Node where
  /-- A value, which is not added to any more. -/
  | value (v : Toml)
  | table (origin : Origin) (members : List (String × Node))
  /-- The tables of a list, the last one first. -/
  | tables (last : List (String × Node)) (earlier : List (List (String × Node)))

/-- The members of a table. -/
abbrev Members := List (String × Node)

namespace Members

def find? (ms : Members) (key : String) : Option Node := (List.find? (·.1 == key) ms).map (·.2)

/-- The members with another node under `key`, which is there already. -/
def replace (ms : Members) (key : String) (node : Node) : Members :=
  ms.map fun m => if m.1 == key then (key, node) else m

/-- The members with a further one. -/
def add (ms : Members) (key : String) (node : Node) : Members := ms ++ [(key, node)]

/-- The table that a header leads through is changed. Where the way is new, it is made; a list is entered at its last
table. -/
def through? (change : Members → Option Members) (key : String) (ms : Members) : Option Members :=
  match ms.find? key with
  | none => (change []).map fun inner => ms.add key (.table .passing inner)
  | some (.table origin inner) => (change inner).map fun inner => ms.replace key (.table origin inner)
  | some (.tables last earlier) => (change last).map fun last => ms.replace key (.tables last earlier)
  | some (.value _) => none

/-- A table is opened. It must be new, or have been made in passing only. -/
def openTable? : List String → Members → Option Members
  | [], _ => none
  | [key], ms =>
    match ms.find? key with
    | none => some (ms.add key (.table .header []))
    | some (.table .passing inner) => some (ms.replace key (.table .header inner))
    | some _ => none
  | key :: path, ms => ms.through? (openTable? path) key

/-- A further table of a list is opened. -/
def openNext? : List String → Members → Option Members
  | [], _ => none
  | [key], ms =>
    match ms.find? key with
    | none => some (ms.add key (.tables [] []))
    | some (.tables last earlier) => some (ms.replace key (.tables [] (last :: earlier)))
    | some _ => none
  | key :: path, ms => ms.through? (openNext? path) key

/-- A value is assigned to a dotted key, which must be new. The table that gets it must have been made by dotted
keys; on the way there may also be tables made in passing and lists. -/
def assign? (v : Toml) : List String → Members → Option Members
  | [], _ => none
  | [key], ms => if (ms.find? key).isSome then none else some (ms.add key (.value v))
  | key :: path, ms =>
    match ms.find? key with
    | none => (assign? v path []).map fun inner => ms.add key (.table .dotted inner)
    | some (.table .dotted inner) => (assign? v path inner).map fun inner => ms.replace key (.table .dotted inner)
    | some (.table .passing inner) =>
      if path.length = 1 then none
      else (assign? v path inner).map fun inner => ms.replace key (.table .passing inner)
    | some (.tables last earlier) =>
      if path.length = 1 then none else (assign? v path last).map fun last => ms.replace key (.tables last earlier)
    | some (.table .header _) | some (.value _) => none

/-- A value is assigned within the table that the header `path` opened. -/
def assignUnder? (v : Toml) (key : List String) : List String → Members → Option Members
  | [], ms => assign? v key ms
  | name :: path, ms => ms.through? (assignUnder? v key path) name

end Members

mutual

/-- The value a node has become. -/
def Node.toToml : Node → Toml
  | .value v => v
  | .table _ members => .table (membersToToml members)
  | .tables last earlier => .list (earlierToToml earlier [.table (membersToToml last)])

/-- The members of a finished table. -/
def membersToToml : List (String × Node) → List (String × Toml)
  | [] => []
  | (key, node) :: ms => (key, node.toToml) :: membersToToml ms

/-- The tables of a list, the last one first, before those of `after`. -/
def earlierToToml : List (List (String × Node)) → List Toml → List Toml
  | [], after => after
  | ms :: earlier, after => earlierToToml earlier (.table (membersToToml ms) :: after)

end

/-- One statement of a document. -/
inductive Statement where
  /-- A table is opened. -/
  | table (path : List String)
  /-- A further table of a list is opened. -/
  | next (path : List String)
  | assign (key : List String) (v : Toml)

/-- A document as far as it has been read: its members and the path of the table that is open. -/
structure Draft where
  members : Members
  path : List String

/-- The draft after one more statement. -/
def Draft.add? (d : Draft) : Statement → Option Draft
  | .table path => (d.members.openTable? path).map (⟨·, path⟩)
  | .next path => (d.members.openNext? path).map (⟨·, path⟩)
  | .assign key v => (d.members.assignUnder? v key d.path).map (⟨·, d.path⟩)

/-- The document made by statements. -/
def ofStatements? (statements : List Statement) : Option Toml :=
  (statements.foldlM Draft.add? ⟨[], []⟩).map fun d => .table (membersToToml d.members)

/-- The table made by the assignments between braces. -/
def ofAssignments? (pairs : List (List String × Toml)) : Option Toml :=
  (pairs.foldlM (fun ms (key, v) => Members.assign? v key ms) []).map fun ms => .table (membersToToml ms)

end GateNav.Toml
