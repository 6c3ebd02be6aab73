import Mathlib.Control.Monad.Basic
import GateNav.Console.Session
import GateNav.Proofs.Toml.RoundTrip
import GateNav.Storage.Disk

/-!
# When there is no settings file

An empty settings file holds the defaults, and like those of any other file they are overridden by the user's
environment and checked. Where there is no file at all, the defaults are used as they are, and nothing can be wrong with
them. So the environment has a say in the one case and none in the other (`Setup.inForce_differs`), and the two come to
the same exactly if its overrides leave the defaults alone (`Console.absent_or_empty`).
-/

namespace GateNav

namespace Disk
variable {d : Disk} {path text : String}

theorem holds_of_read (h : d.read path = .ok text) : d.holds path = true := by
  unfold read at h
  unfold holds
  cases found : d.lookUp path with
  | error fault => rw [found] at h; cases h
  | ok entry => rfl

/-! ### One file in the folder that paths start from -/

def single (name text : String) : Disk := ⟨[(⟨.above 0, [name]⟩, .file text)]⟩

theorem holds_empty_c : empty.holds "c" = false := by decide +kernel

theorem read_single_c : (single "c" text).read "c" = .ok text := rfl

end Disk

namespace Setup
variable {vars : Variables} {path text : String} {d : Disk} {s : Setup Float}

/-! ### What is read -/

section Format
variable [Toml.Format]

theorem run_read_of_absent (h : d.holds path = false) : (read (m := StateM Disk) path).run d = (.ok none, d) := by
  simp only [read, Storage.holds, StateT.run_bind, StateT.run_get, StateT.run_pure, pure_bind, h, Bool.not_false,
    if_true]
  rfl

theorem run_read_of_text (h : d.read path = .ok text) (holds : ofText path text = .ok s) :
    (read (m := StateM Disk) path).run d = (.ok (some s), d) := by
  simp only [read, Storage.holds, Storage.read, StateT.run_bind, StateT.run_get, StateT.run_pure, pure_bind, h,
    Disk.holds_of_read h, Bool.not_true, Bool.false_eq_true, if_false, holds, Except.map]
  rfl

theorem run_load_of_absent (h : d.holds path = false) :
    (load (m := StateM Disk) vars path).run d = (⟨.ok none, []⟩, d) := by
  rw [load, StateT.run_bind, run_read_of_absent h]
  rfl

theorem run_load_of_text (h : d.read path = .ok text) (holds : ofText path text = .ok s) :
    (load (m := StateM Disk) vars path).run d =
      (⟨(s.effective vars).result.map some, (s.effective vars).events⟩, d) := by
  rw [load, StateT.run_bind, run_read_of_text h holds]
  rfl

theorem ofText_empty [Toml.LawfulFormat] : ofText path "" = .ok .default := by
  unfold ofText parse?
  rw [Toml.LawfulFormat.parse?_empty]
  rfl

/-! ### What is in force -/

/-- The setup that a run goes by: that of the file as it is used, or the defaults where there is none. -/
def inForce (vars : Variables) (path : String) (d : Disk) : Except SettingsError (Setup Float) :=
  ((load (m := StateM Disk) vars path).run d).1.result.map (·.getD .default)

theorem inForce_of_absent (h : d.holds path = false) : inForce vars path d = .ok .default := by
  rw [inForce, run_load_of_absent h]
  rfl

theorem inForce_of_empty [Toml.LawfulFormat] (h : d.read path = .ok "") :
    inForce vars path d = (effective vars .default).result := by
  rw [inForce, run_load_of_text h ofText_empty]
  cases (effective vars .default).result <;> rfl

end Format

/-- No variable gives the defaults another value. A text that gives none is ignored. -/
structure Neutral (vars : Variables) : Prop where
  missThreshold : ∀ text ∈ vars "ROVER_MISS_THRESHOLD", ∀ n ∈ Decimal.readCount? maxShortCount text, n = 5
  windowSize : ∀ text ∈ vars "ROVER_FILTER_WINDOW", ∀ n ∈ Decimal.readCount? maxCount text, n = 5
  pattern : ∀ text ∈ vars "ROVER_GATE_VARIANT", ∀ kind, PatternKind.parse text = .ok kind → kind = .diamond

theorem getD_eq_iff {β : Type} {o : Option β} {x : β} : o.getD x = x ↔ ∀ y ∈ o, y = x := by
  cases o <;> simp

theorem override_eq_default_iff : (override vars .default).result = (.default : Setup Float) ↔ Neutral vars := by
  have pattern : ((overrideCounts vars .default).overridePattern vars).result = (.default : Setup Float) ↔
      overrideCounts vars .default = (.default : Setup Float) ∧
        ∀ text ∈ vars "ROVER_GATE_VARIANT", ∀ kind, PatternKind.parse text = .ok kind → kind = .diamond := by
    unfold overridePattern
    cases vars "ROVER_GATE_VARIANT" with
    | none => simp
    | some text =>
      cases named : PatternKind.parse text with
      | error e => simp [named]
      | ok kind => cases kind <;> simp [named, default, overrideCounts, TraverseSettings.default]
  have counts : overrideCounts vars .default = (.default : Setup Float) ↔
      (∀ n ∈ (vars "ROVER_MISS_THRESHOLD").bind (Decimal.readCount? maxShortCount), n = 5) ∧
        ∀ n ∈ (vars "ROVER_FILTER_WINDOW").bind (Decimal.readCount? maxCount), n = 5 := by
    rw [← getD_eq_iff, ← getD_eq_iff]
    simp [overrideCounts, default, TrackingSettings.default]
  rw [override, pattern, counts]
  constructor
  · rintro ⟨⟨misses, window⟩, pattern⟩
    refine ⟨fun text given n read => misses n ?_, fun text given n read => window n ?_, pattern⟩
    · exact Option.mem_bind_iff.2 ⟨text, given, read⟩
    · exact Option.mem_bind_iff.2 ⟨text, given, read⟩
  · rintro ⟨misses, window, pattern⟩
    refine ⟨⟨fun n hn => ?_, fun n hn => ?_⟩, pattern⟩
    · obtain ⟨text, given, read⟩ := Option.mem_bind_iff.1 hn
      exact misses text given n read
    · obtain ⟨text, given, read⟩ := Option.mem_bind_iff.1 hn
      exact window text given n read

theorem validate_default : (.default : Setup Float).validate = .ok () := by decide +kernel

theorem effective_eq_default_iff : (effective vars .default).result = .ok .default ↔ Neutral vars := by
  rw [← override_eq_default_iff]
  unfold effective
  constructor
  · intro h
    cases valid : (override vars (.default : Setup Float)).result.validate with
    | error e => simp only [valid, Except.map] at h; cases h
    | ok => simp only [valid, Except.map] at h; exact Except.ok.inj h
  · intro same
    simp only [same, validate_default, Except.map]

/-! ### The two cases differ -/

/-- The only variable that is set asks for windows that hold nothing. -/
def windowless : Variables := fun name => if name = "ROVER_FILTER_WINDOW" then some "0" else none

theorem effective_windowless : (effective windowless .default).result =
    .error (.invalid "environment.filter_window" "must be at least 1") := by decide +kernel

/-- With one variable set, the empty file is refused, and its absence is not. -/
theorem inForce_differs : ¬∀ (vars : Variables) (path : String) (gone there : Disk), gone.holds path = false →
    there.read path = .ok "" → inForce vars path gone = inForce vars path there := by
  intro same
  have agree := same windowless "c" .empty (.single "c" "") Disk.holds_empty_c Disk.read_single_c
  rw [inForce_of_absent Disk.holds_empty_c, inForce_of_empty Disk.read_single_c, effective_windowless] at agree
  cases agree

end Setup

/-! ### Runs -/

namespace Console
open Setup
variable {vars : Variables} {path : String} {gone there : Disk} {painted : Bool} {scenario : Scenario}

def Outcome.after (before : List Output) (o : Outcome) : Outcome := { o with output := before ++ o.output }

theorem runTrial_eq (setup : Setup Float) (before : List Output) :
    runTrial vars painted scenario setup before = (runTrial vars painted scenario setup []).after before := by
  unfold runTrial
  rcases simulate scenario setup false with halt | e | result
  · rfl
  · simp only [Outcome.after, List.nil_append, List.append_assoc]
  · simp only [Outcome.after, List.nil_append, List.append_assoc]

/-- A run with a setup, or its end by what is wrong with it. -/
def runWith (vars : Variables) (painted : Bool) (scenario : Scenario) : Except SettingsError (Setup Float) → Outcome
  | .ok setup => runTrial vars painted scenario setup []
  | .error e => ⟨[problem painted "Config error" e.message], .ok failure⟩

section Format
variable [Toml.Format]

def runOn (vars : Variables) (painted : Bool) (scenario : Scenario) (path : String) (d : Disk) : Outcome :=
  ((runScenario (m := StateM Disk) vars painted scenario path).run d).1

theorem runOn_of_absent (h : gone.holds path = false) : runOn vars painted scenario path gone =
    (runTrial vars painted scenario .default []).after
      [line ("  " ++ paint painted .onlyDimmed "No config file found; using defaults.")] := by
  rw [runOn, runScenario, StateT.run_bind, run_load_of_absent h, ← runTrial_eq]
  rfl

theorem runOn_of_empty [Toml.LawfulFormat] (h : there.read path = .ok "") : ∃ before,
    runOn vars painted scenario path there =
      (runWith vars painted scenario (effective vars .default).result).after before := by
  rw [runOn, runScenario, StateT.run_bind, run_load_of_text h ofText_empty]
  cases (effective vars (.default : Setup Float)).result with
  | error e => exact ⟨_, rfl⟩
  | ok setup => exact ⟨_, runTrial_eq setup _⟩

/-- Without a file the run goes by the defaults, whatever the variables say. With an empty one it goes by the defaults
as they are overridden and checked. These are the same exactly if the variables leave the defaults alone, and then so is
all that is written after the opening lines, the report with it. -/
theorem absent_or_empty [Toml.LawfulFormat] (vars : Variables) (painted : Bool) (scenario : Scenario)
    (absent : gone.holds path = false) (empty : there.read path = .ok "") :
    inForce vars path gone = .ok .default ∧
      inForce vars path there = (effective vars .default).result ∧
      (inForce vars path gone = inForce vars path there ↔ Neutral vars) ∧
      runOn vars painted scenario path gone = (runTrial vars painted scenario .default []).after
        [line ("  " ++ paint painted .onlyDimmed "No config file found; using defaults.")] ∧
      (∃ before, runOn vars painted scenario path there =
        (runWith vars painted scenario (effective vars .default).result).after before) ∧
      (Neutral vars → ∃ before, runOn vars painted scenario path there =
        (runTrial vars painted scenario .default []).after before) := by
  have run : ∃ before, runOn vars painted scenario path there = _ := runOn_of_empty empty
  refine ⟨inForce_of_absent absent, inForce_of_empty empty, ?_, runOn_of_absent absent, run, ?_⟩
  · rw [inForce_of_absent absent, inForce_of_empty empty, eq_comm, effective_eq_default_iff]
  · intro neutral
    rw [effective_eq_default_iff.2 neutral] at run
    exact run

end Format

/-- A file that is not there, and the same file with nothing in it. -/
theorem absent_or_empty_c : Disk.empty.holds "c" = false ∧ (Disk.single "c" "").read "c" = .ok "" ∧
    ∀ vars : Variables, inForce vars "c" .empty = inForce vars "c" (.single "c" "") ↔ Neutral vars :=
  ⟨Disk.holds_empty_c, Disk.read_single_c, fun vars =>
    (absent_or_empty vars false .approach Disk.holds_empty_c Disk.read_single_c).2.2.1⟩

end Console

end GateNav
