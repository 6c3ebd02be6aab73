import GateNav.Bearing
import GateNav.Belief
import GateNav.Binary64
import GateNav.Console.Arguments
import GateNav.Console.Endpoint
import GateNav.Console.Help
import GateNav.Console.Paint
import GateNav.Console.Plain
import GateNav.Console.Session
import GateNav.Decimal.Digits
import GateNav.Decimal.Layout
import GateNav.Display
import GateNav.Document
import GateNav.Double
import GateNav.Event
import GateNav.Fault
import GateNav.Field
import GateNav.Json.Forms
import GateNav.Json.Reader
import GateNav.Json.Value
import GateNav.Json.Writer
import GateNav.Log.Directive
import GateNav.Log.Filter
import GateNav.Log.Level
import GateNav.Log.Moment
import GateNav.Log.Record
import GateNav.Log.Settings
import GateNav.Log.Style
import GateNav.Main
import GateNav.Navigator
import GateNav.Outcome
import GateNav.Passage
import GateNav.Phase
import GateNav.Pilot.Basic
import GateNav.Pilot.Cycle
import GateNav.Pilot.Phases
import GateNav.Plane
import GateNav.Pose
import GateNav.Regex.Atom
import GateNav.Regex.Bracket
import GateNav.Regex.Check
import GateNav.Regex.Flags
import GateNav.Scalar
import GateNav.Scenario
import GateNav.Search.Agenda
import GateNav.Search.Kind
import GateNav.Search.Pattern
import GateNav.Settings.Basic
import GateNav.Settings.Validate
import GateNav.Setup.Basic
import GateNav.Setup.Fields
import GateNav.Setup.File
import GateNav.Setup.Overrides
import GateNav.Setup.Text
import GateNav.Sighting
import GateNav.Sorting.Parts
import GateNav.Sorting.Runs
import GateNav.Sorting.Small
import GateNav.Storage.Basic
import GateNav.Storage.Disk
import GateNav.Storage.Path
import GateNav.Text.Alphanumeric
import GateNav.Text.Blank
import GateNav.Text.Hex
import GateNav.Toml.Assembly
import GateNav.Toml.Format
import GateNav.Toml.Number
import GateNav.Toml.Reader
import GateNav.Toml.Standard
import GateNav.Toml.Value
import GateNav.Toml.Words
import GateNav.Toml.Writer
import GateNav.Tracker
import GateNav.Trial
import GateNav.Waypoint
import GateNav.Window
import GateNav.Proofs.Pilot.Moves
import GateNav.Proofs.Belief.Chronicle
import GateNav.Proofs.Belief.Gate
import GateNav.Proofs.Navigator.Coherence
import GateNav.Proofs.Navigator.Retry
import GateNav.Proofs.Pilot.Answers
import GateNav.Proofs.Pilot.PhaseData
import GateNav.Proofs.Pilot.Traverse
import GateNav.Proofs.Navigator.Outcome
import GateNav.Proofs.Navigator.Evidence
import GateNav.Proofs.Pilot.Reports
import GateNav.Proofs.Navigator.Alike
import GateNav.Proofs.Navigator.Known
import GateNav.Proofs.Pilot.Settling
import GateNav.Proofs.Navigator.Staleness
import GateNav.Proofs.Order
import GateNav.Proofs.Pilot.Effort
import GateNav.Proofs.Pilot.Standstill
import GateNav.Proofs.Pilot.Knowledge
import GateNav.Proofs.Pilot.Rounds
import GateNav.Proofs.Pilot.Steering
import GateNav.Proofs.Pilot.Sweeps
import GateNav.Proofs.Pilot.Direction
import GateNav.Proofs.Pilot.Drafts
import GateNav.Proofs.Navigator.Planning
import GateNav.Proofs.Search.Layout
import GateNav.Proofs.Belief.Ranges
import GateNav.Proofs.Pilot.Ranges
import GateNav.Proofs.Navigator.Halts
import GateNav.Proofs.Navigator.Construction
import GateNav.Proofs.Setup.Absence
import GateNav.Proofs.Belief.Mirror
import GateNav.Proofs.Pilot.Mirror
import GateNav.Proofs.Navigator.Mirror
import GateNav.Proofs.Pilot.Layouts
import GateNav.Proofs.Pilot.Area
import GateNav.Proofs.Trial.Report
import GateNav.Proofs.Decimal.Nearest
import GateNav.Proofs.Toml.Laws
import GateNav.Proofs.Toml.Numbers
import GateNav.Proofs.Toml.Doubles
import GateNav.Proofs.Toml.Lines
import GateNav.Proofs.Toml.RoundTrip
import GateNav.Proofs.Storage.Files
import GateNav.Proofs.Storage.Paths
import GateNav.Proofs.Storage.Folders
import GateNav.Proofs.Setup.Fields
import GateNav.Proofs.Setup.RoundTrip
import GateNav.Proofs.Bearing
import GateNav.Proofs.Window.Sorted
import GateNav.Proofs.Window.Smooth
import GateNav.Proofs.Window.Outliers
import GateNav.Proofs.Settings.Demands
import GateNav.Proofs.Belief.Debounce
import GateNav.Proofs.Belief.Wrap
import GateNav.Proofs.Field.Turning
import GateNav.Proofs.Reals
import GateNav.Proofs.Passage.Sides
import GateNav.Proofs.Pilot.Detours
import GateNav.Proofs.Search.Agenda
import GateNav.Proofs.Search.Spiral
import GateNav.Proofs.Finite
import GateNav.Proofs.Window.Comparison
import GateNav.Proofs.Belief.Finite
