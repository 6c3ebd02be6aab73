import GateNav.Binary64
import GateNav.Toml.Format
import GateNav.Toml.Words

/-!
# What a format is relied on for

Little is asked of a format for documents. An empty text holds no fields. A document of sections with plain values has
a text, which is read as this very document: no whole number of 64 bits and no finite double is changed by it. A whole
number that is larger has no text.
-/

namespace GateNav.Toml

/-- A name that needs no quotes as a key. -/
def IsBare (name : String) : Prop := name.toList ≠ [] ∧ ∀ c ∈ name.toList, isBare c = true

instance {name : String} : Decidable (IsBare name) :=
  decidable_of_iff (name.toList ≠ [] ∧ name.toList.all isBare = true) (by simp [IsBare])

/-- A text, a truth, a whole number of 64 bits or a finite double. -/
def IsPlain : Toml → Prop
  | .text _ | .truth _ => True
  | .whole n => -(maxWhole : Int) - 1 ≤ n ∧ n ≤ maxWhole
  | .number x => Scalar.isFinite x = true
  | .moment _ | .list _ | .table _ => False

/-- Sections with their names, and with the names of their values. -/
abbrev Sections := List (String × List (String × Toml))

namespace Sections

def toToml (d : Sections) : Toml := .table (d.map fun (name, members) => (name, .table members))

/-- All names differ and need no quotes, and all values are plain. -/
structure Orderly (d : Sections) : Prop where
  names : (d.map (·.1)).Nodup
  bare : ∀ s ∈ d, IsBare s.1
  keys : ∀ s ∈ d, (s.2.map (·.1)).Nodup
  bareKeys : ∀ s ∈ d, ∀ m ∈ s.2, IsBare m.1
  values : ∀ s ∈ d, ∀ m ∈ s.2, m.2.IsPlain

end Sections

/-- Formats that keep documents as they are. -/
class LawfulFormat [Format] : Prop where
  parse?_empty : Format.parse? "" = some (.table [])
  parse?_render? {d : Sections} : d.Orderly →
    ∃ text, Format.render? d.toToml = some text ∧ Format.parse? text = some d.toToml
  render?_eq_none {d : Sections} {s : String × List (String × Toml)} {m : String × Toml} {n : Int} :
    s ∈ d → m ∈ s.2 → m.2 = .whole n → maxWhole < n → Format.render? d.toToml = none

end GateNav.Toml
