/-!
# Addresses of trace collectors

An address is an absolute one with a scheme, a host alone, or a path. `isAddress` says whether a text has one of
these forms; what it names is not looked at.
-/

namespace GateNav.Console.Endpoint

/-- Addresses are no longer than this many bytes. -/
def maxLength : Nat := 65534

/-- Schemes are no longer than this many characters. -/
def maxSchemeLength : Nat := 64

def isSchemeChar (c : Char) : Bool := c.isAlphanum || c == '+' || c == '-' || c == '.' || c == '~'

/-- A character that may stand in the part with the host. -/
def isHostChar (c : Char) : Bool := c.isAlphanum || "!$&'()*+,-.:;=@[]_~".contains c

/-- A character that ends the part with the host. -/
def endsHost (c : Char) : Bool := c == '/' || c == '?' || c == '#'

/-- The outcome of looking for a scheme. -/
inductive Scheme where
  | absent
  | tooLong
  /-- There is one, and this follows it. -/
  | found (rest : List Char)

/-- The scheme before the two slashes. -/
def scheme (cs : List Char) : Scheme :=
  let name := cs.takeWhile isSchemeChar
  match cs.drop name.length with
  | ':' :: '/' :: '/' :: rest =>
    if name.isEmpty && cs.length ≤ 3 then .absent
    else if maxSchemeLength < name.length then .tooLong
    else .found rest
  | _ => .absent

/-- What is known about the part with the host while it is read: the colons and percent signs since the last sign
that forgets them, the brackets, and whether the last character was an at sign. -/
structure Host where
  colons : Nat
  percent : Bool
  opened : Bool
  closed : Bool
  afterAt : Bool

namespace Host

def start : Host := ⟨0, false, false, false, false⟩

/-- One more character. -/
def step (h : Host) (c : Char) : Option Host :=
  let h := { h with afterAt := false }
  if c == ':' then if 8 ≤ h.colons then none else some { h with colons := h.colons + 1 }
  else if c == '[' then if h.percent || h.opened then none else some { h with opened := true }
  else if c == ']' then
    if !h.opened || h.closed then none else some { h with closed := true, colons := 0, percent := false }
  else if c == '@' then some { h with colons := 0, percent := false, afterAt := true }
  else if c == '%' then some { h with percent := true }
  else if isHostChar c then some h
  else none

/-- The part is complete. -/
def isComplete (h : Host) : Bool := h.opened == h.closed && h.colons ≤ 1 && !h.afterAt && !h.percent

end Host

/-- What follows the part with the host, if that is well formed. -/
def afterHost? (cs : List Char) : Option (List Char) := do
  let host := cs.takeWhile (!endsHost ·)
  let h ← host.foldlM Host.step .start
  if h.isComplete then some (cs.drop host.length) else none

def between (low high : Nat) (c : Char) : Bool := low ≤ c.toNat && c.toNat ≤ high

/-- A character that may stand in a path. -/
def isPathChar (c : Char) : Bool :=
  c == '!' || c == '"' || between 0x24 0x3B c || c == '=' || between 0x40 0x5F c || between 0x61 0x7E c || 0x80 ≤ c.toNat

/-- A character that may stand in a query. -/
def isQueryChar (c : Char) : Bool :=
  c == '!' || between 0x24 0x3B c || c == '=' || between 0x3F 0x7E c || 0x80 ≤ c.toNat

/-- A path and a query; what follows a number sign is not looked at. -/
def isPath (cs : List Char) : Bool :=
  let cs := cs.takeWhile (· != '#')
  let path := cs.takeWhile (· != '?')
  path.all isPathChar && ((cs.drop path.length).drop 1).all isQueryChar

/-- The text has one of the forms of an address. -/
def isAddress (text : String) : Bool :=
  let cs := text.toList
  if text.utf8ByteSize > maxLength then false
  else
    match cs with
    | [] => false
    | ['*'] => true
    | '/' :: _ => isPath cs
    | _ =>
      match scheme cs with
      | .tooLong => false
      | .absent => (afterHost? cs).any (·.isEmpty)
      | .found rest => !(rest.takeWhile (!endsHost ·)).isEmpty && (afterHost? rest).any isPath

end GateNav.Console.Endpoint
