import GateNav.Setup.Overrides
import GateNav.Setup.Text
import GateNav.Storage.Path

/-!
# The settings file

A file is read as it is, or read, overridden by the user's environment and checked. A file that is not there has no
settings; its reader decides what that means.
-/

namespace GateNav.Setup

/-- The settings as they are used: with all overrides, and checked. -/
def effective (vars : Variables) (s : Setup Float) : Noted Float (Except SettingsError (Setup Float)) :=
  let ⟨s, events⟩ := s.override vars
  ⟨s.validate.map fun _ => s, events⟩

variable [Toml.Format]

/-- The settings that the text of a file holds. -/
def ofText (path text : String) : Except SettingsError (Setup Float) :=
  match parse? text with
  | some s => pure s
  | none => throw (.malformed (path ++ ": not a settings document"))

variable {m : Type → Type} [Monad m] [Storage m]

/-- The settings of a file, if it is there. -/
def read (path : String) : m (Except SettingsError (Option (Setup Float))) := do
  if !(← Storage.holds path) then return .ok none
  match ← Storage.read path with
  | .error fault => return .error (.storage ("failed to read " ++ path ++ ": " ++ fault.message))
  | .ok text => return (ofText path text).map some

/-- The settings of a file as they are used, if it is there. -/
def load (vars : Variables) (path : String) : m (Noted Float (Except SettingsError (Option (Setup Float)))) := do
  match ← read path with
  | .error e => return ⟨.error e, []⟩
  | .ok none => return ⟨.ok none, []⟩
  | .ok (some s) =>
    let ⟨result, events⟩ := s.effective vars
    return ⟨result.map some, events⟩

/-- The settings are written to a file, and the folders on the way to it are made. -/
def save (path : String) (s : Setup Float) : m (Except SettingsError Unit) := do
  if let some folder := parentPath? path then
    if let .error fault ← Storage.makeFolders folder then
      return .error (.storage ("failed to create " ++ folder ++ ": " ++ fault.message))
  match s.render? with
  | none => return .error (.malformed "a count does not fit in 63 bits")
  | some text =>
    match ← Storage.write path text with
    | .ok () => return .ok ()
    | .error fault => return .error (.storage ("failed to write " ++ path ++ ": " ++ fault.message))

end GateNav.Setup
