import GateNav.Proofs.Setup.Absence
import GateNav.Proofs.Setup.Fields
import GateNav.Proofs.Storage.Folders
import GateNav.Proofs.Toml.Laws
import GateNav.Setup.File

/-!
# The settings file read back

What is saved is read back as it was, in any lawful format, as long as every count has 63 bits and every double is
finite; a longer count is refused, and no file is written. The folders on the way to the file need not be there. Fields,
and whole sections, may be taken out of a document and unknown ones put in: what is read has its default in every field
that is gone, and all others are as they were (`Setup.saved_read_back`).
-/

namespace GateNav

namespace Slot
variable {R : Type} {slot : Slot Float R} {s : R}

/-- A double is finite. -/
def Finite : Slot Float R → R → Prop
  | .number get _, s => Scalar.isFinite (get s) = true
  | _, _ => True

/-- A count has 63 bits. -/
def Short : Slot Float R → R → Prop
  | .count _ get _, s => get s ≤ Toml.maxWhole
  | _, _ => True

instance : Decidable (slot.Finite s) :=
  match slot with
  | .number _ _ => inferInstanceAs (Decidable (_ = _))
  | .count _ _ _ | .pattern _ _ => inferInstanceAs (Decidable True)

instance : Decidable (slot.Short s) :=
  match slot with
  | .count _ _ _ => inferInstanceAs (Decidable (_ ≤ _))
  | .number _ _ | .pattern _ _ => inferInstanceAs (Decidable True)

theorem isPlain_write (finite : slot.Finite s) (short : slot.Short s) : (slot.write s : Toml).IsPlain := by
  cases slot with
  | number get put => exact finite
  | count limit get put =>
    have short : get s ≤ Toml.maxWhole := short
    exact ⟨by omega, Int.ofNat_le.2 short⟩
  | pattern get put => trivial

theorem write_of_not_short (long : ¬ slot.Short s) :
    ∃ n : Int, (slot.write s : Toml) = .whole n ∧ Toml.maxWhole < n := by
  cases slot with
  | number | pattern => exact absurd trivial long
  | count limit get put =>
    have long : ¬ get s ≤ Toml.maxWhole := long
    exact ⟨get s, rfl, Int.ofNat_lt.2 (Nat.not_le.1 long)⟩

end Slot

namespace Setup

/-- What is asked of a field holds of all of them. -/
def Everywhere (P : {R : Type} → Slot Float R → R → Prop) (s : Setup Float) : Prop :=
  (∀ f ∈ RunSettings.fields Float, P f.slot s.run) ∧ (∀ f ∈ TrackingSettings.fields Float, P f.slot s.tracking) ∧
    ∀ f ∈ TraverseSettings.fields Float, P f.slot s.traverse

/-- The setup `r` has the kept fields of `s`, and the default in all others. -/
def Keeps (kept : String → String → Bool) (s r : Setup Float) : Prop :=
  (∀ f ∈ RunSettings.fields Float, f.slot.Agrees r.run (if kept "run" f.key then s.run else .default)) ∧
    (∀ f ∈ TrackingSettings.fields Float,
      f.slot.Agrees r.tracking (if kept "environment" f.key then s.tracking else .default)) ∧
    ∀ f ∈ TraverseSettings.fields Float, f.slot.Agrees r.traverse (if kept "gate" f.key then s.traverse else .default)

/-- Of the known fields, the document holds those that are kept, as they are written of `s`. Beside them there may be
anything. -/
def HeldIn (s : Setup Float) (kept : String → String → Bool) (v : Toml) : Prop :=
  ∃ sections, v = .table sections ∧
    Setting.HeldIn (RunSettings.fields Float) s.run (kept "run") (Toml.member? sections "run") ∧
    Setting.HeldIn (TrackingSettings.fields Float) s.tracking (kept "environment")
      (Toml.member? sections "environment") ∧
    Setting.HeldIn (TraverseSettings.fields Float) s.traverse (kept "gate") (Toml.member? sections "gate")

variable {s r : Setup Float} {kept : String → String → Bool} {v : Toml} {d d' : Disk} {path text : String}

/-! ### Documents -/

theorem Keeps.unique {r' : Setup Float} (h : Keeps kept s r) (h' : Keeps kept s r') : r = r' := by
  obtain ⟨run, tracking, traverse⟩ := h
  obtain ⟨run', tracking', traverse'⟩ := h'
  obtain ⟨_, _, _⟩ := r
  obtain ⟨_, _, _⟩ := r'
  congr
  · exact RunSettings.eq_of_agrees fun f hf => (run f hf).trans (run' f hf).symm
  · exact TrackingSettings.eq_of_agrees fun f hf => (tracking f hf).trans (tracking' f hf).symm
  · exact TraverseSettings.eq_of_agrees fun f hf => (traverse f hf).trans (traverse' f hf).symm

theorem keeps_all : Keeps (fun _ _ => true) s s := ⟨fun _ _ => .refl, fun _ _ => .refl, fun _ _ => .refl⟩

theorem exists_ofDocument? (typed : s.Everywhere Slot.InRange) (held : s.HeldIn kept v) :
    ∃ r, ofDocument? v = some r ∧ Keeps kept s r := by
  obtain ⟨sections, rfl, run, tracking, traverse⟩ := held
  obtain ⟨runs, trackings, traverses⟩ := typed
  refine ⟨⟨Setting.carry (kept "run") (RunSettings.fields Float) s.run .default,
    Setting.carry (kept "environment") (TrackingSettings.fields Float) s.tracking .default,
    Setting.carry (kept "gate") (TraverseSettings.fields Float) s.traverse .default⟩, ?_,
    Setting.agrees_carry RunSettings.independent, Setting.agrees_carry TrackingSettings.independent,
    Setting.agrees_carry TraverseSettings.independent⟩
  have found : Document.record? ["run", "environment", "gate"] (.table sections) = some (Toml.member? sections) := rfl
  simp only [ofDocument?, found, bind, Option.bind, Setting.readSection?_held runs run,
    Setting.readSection?_held trackings tracking, Setting.readSection?_held traverses traverse]
  rfl

theorem heldIn_toDocument : s.HeldIn (fun _ _ => true) s.toDocument :=
  ⟨_, rfl, Setting.heldIn_write RunSettings.independent.keys, Setting.heldIn_write TrackingSettings.independent.keys,
    Setting.heldIn_write TraverseSettings.independent.keys⟩

theorem ofDocument?_toDocument (typed : s.Everywhere Slot.InRange) : ofDocument? (s.toDocument : Toml) = some s := by
  obtain ⟨r, read, keeps⟩ := exists_ofDocument? typed heldIn_toDocument
  rw [read, keeps.unique keeps_all]

/-! ### Texts -/

/-- The document of settings as its sections. -/
def sections (s : Setup Float) : Toml.Sections :=
  [("run", (RunSettings.fields Float).map fun f => (f.key, f.slot.write s.run)),
    ("environment", (TrackingSettings.fields Float).map fun f => (f.key, f.slot.write s.tracking)),
    ("gate", (TraverseSettings.fields Float).map fun f => (f.key, f.slot.write s.traverse))]

theorem toToml_sections : s.sections.toToml = s.toDocument := rfl

theorem orderly_sections (finite : s.Everywhere Slot.Finite) (short : s.Everywhere Slot.Short) :
    s.sections.Orderly := by
  obtain ⟨run, tracking, traverse⟩ := finite
  obtain ⟨runs, trackings, traverses⟩ := short
  have names : ["run", "environment", "gate"].Nodup := by decide
  refine ⟨names, ?_, ?_, ?_, ?_⟩
  all_goals simp only [sections, List.forall_mem_cons, List.forall_mem_map, List.map_map]
  · exact ⟨by decide +kernel, by decide +kernel, by decide +kernel, nofun⟩
  · exact ⟨RunSettings.independent.keys, TrackingSettings.independent.keys, TraverseSettings.independent.keys, nofun⟩
  · exact ⟨by decide +kernel, by decide +kernel, by decide +kernel, nofun⟩
  · exact ⟨fun f hf => Slot.isPlain_write (run f hf) (runs f hf),
      fun f hf => Slot.isPlain_write (tracking f hf) (trackings f hf),
      fun f hf => Slot.isPlain_write (traverse f hf) (traverses f hf), nofun⟩

section Format
variable [Toml.Format]

theorem exists_render? [Toml.LawfulFormat] (finite : s.Everywhere Slot.Finite) (short : s.Everywhere Slot.Short) :
    ∃ text, s.render? = some text ∧ Toml.Format.parse? text = some s.toDocument := by
  rw [render?, ← toToml_sections]
  exact Toml.LawfulFormat.parse?_render? (orderly_sections finite short)

theorem render?_of_not_short [Toml.LawfulFormat] (long : ¬ s.Everywhere Slot.Short) : s.render? = none := by
  by_contra made
  have fits : ∀ table ∈ s.sections, ∀ m ∈ table.2, ∀ n, m.2 = .whole n → ¬ Toml.maxWhole < n :=
    fun table ht m hm n value large => made (Toml.LawfulFormat.render?_eq_none ht hm value large)
  have short {R : Type} {slot : Slot Float R} {r : R}
      (h : ∀ n, (slot.write r : Toml) = .whole n → ¬ Toml.maxWhole < n) : slot.Short r := by
    by_contra long
    obtain ⟨n, value, large⟩ := Slot.write_of_not_short long
    exact h n value large
  simp only [sections, List.forall_mem_cons, List.forall_mem_map] at fits
  obtain ⟨run, tracking, traverse, -⟩ := fits
  exact long ⟨fun f hf => short (run f hf), fun f hf => short (tracking f hf), fun f hf => short (traverse f hf)⟩

/-! ### Files -/

theorem ofText_of_parse? (read : Toml.Format.parse? text = some v) (holds : ofDocument? v = some s) :
    ofText path text = .ok s := by
  unfold ofText parse?
  rw [read, Option.bind_some, holds]
  rfl

theorem run_save_of_fault (way : (Disk.wayTo path).run d = (.error fault, d')) :
    ∃ reason, (save (m := StateM Disk) path s).run d = (.error (.storage reason), d') := by
  unfold Disk.wayTo at way
  unfold save
  cases parent : parentPath? path with
  | none =>
    rw [parent] at way
    cases way
  | some folder =>
    simp only [parent] at way
    refine ⟨"failed to create " ++ folder ++ ": " ++ fault.message, ?_⟩
    simp only [StateT.run_bind, way]
    rfl

/-- The settings are written to a file, whose folder is there. -/
def saveThere (path : String) (s : Setup Float) : StateM Disk (Except SettingsError Unit) := do
  match s.render? with
  | none => return .error (.malformed "a count does not fit in 63 bits")
  | some text =>
    match ← Storage.write path text with
    | .ok () => return .ok ()
    | .error fault => return .error (.storage ("failed to write " ++ path ++ ": " ++ fault.message))

theorem run_save_of_way (way : (Disk.wayTo path).run d = (.ok (), d')) :
    (save (m := StateM Disk) path s).run d = (saveThere path s).run d' := by
  unfold Disk.wayTo at way
  unfold save
  cases parent : parentPath? path with
  | none =>
    rw [parent] at way
    cases way
    rfl
  | some folder =>
    simp only [parent] at way
    simp only [StateT.run_bind, way]
    rfl

theorem run_saveThere_of_unwritten (unwritten : s.render? = none) :
    (saveThere path s).run d = (.error (.malformed "a count does not fit in 63 bits"), d) := by
  rw [saveThere, unwritten]
  rfl

theorem run_saveThere_of_text (made : s.render? = some text) (written : d.write path text = .ok d') :
    (saveThere path s).run d = (.ok (), d') := by
  have last : (Storage.write (m := StateM Disk) path text).run d = (.ok (), d') := by
    show (Disk.change (·.write path text)).run d = _
    simp only [Disk.change, StateT.run_bind, StateT.run_get, pure_bind, written]
    rfl
  rw [saveThere, made]
  simp only [StateT.run_bind, last]
  rfl

theorem sameFiles_save (unwritten : s.render? = none) : d.SameFiles ((save (m := StateM Disk) path s).run d).2 := by
  have kept := @Disk.keepsFiles_wayTo path d
  obtain ⟨result, d', way⟩ : ∃ result d', (Disk.wayTo path).run d = (result, d') := ⟨_, _, rfl⟩
  rw [way] at kept
  cases result with
  | error fault =>
    obtain ⟨reason, run⟩ := run_save_of_fault (s := s) way
    rwa [run]
  | ok => rwa [run_save_of_way way, run_saveThere_of_unwritten unwritten]

/-- What is saved is read back as it was, wherever no file is on the way. Whatever fields are then taken out of the
document, and whatever is put in beside them, those have their defaults, and all others are as they were. A count of
more than 63 bits is refused, and no file is written. -/
theorem saved_read_back [Toml.LawfulFormat] (s : Setup Float) (typed : s.Everywhere Slot.InRange) :
    (s.Everywhere Slot.Finite → s.Everywhere Slot.Short →
      ∃ text, s.render? = some text ∧ Toml.Format.parse? text = some s.toDocument ∧
        ∀ d path start way name, Disk.Admits d path start way name →
          ∃ d', (save (m := StateM Disk) path s).run d = (.ok (), d') ∧ d'.read path = .ok text ∧
            (read (m := StateM Disk) path).run d' = (.ok (some s), d')) ∧
    (∀ kept v, s.HeldIn kept v → ∃ r, Keeps kept s r ∧ (∀ r', Keeps kept s r' → r' = r) ∧
      ∀ text, Toml.Format.parse? text = some v → ∀ (d : Disk) path, d.read path = .ok text →
        (read (m := StateM Disk) path).run d = (.ok (some r), d)) ∧
    (¬ s.Everywhere Slot.Short → ∀ (d : Disk) path,
      d.SameFiles ((save (m := StateM Disk) path s).run d).2 ∧
        ∀ start way name, d.Leads path start way name → ∃ d',
          (save (m := StateM Disk) path s).run d = (.error (.malformed "a count does not fit in 63 bits"), d')) := by
  refine ⟨fun finite short => ?_, fun kept v held => ?_, fun long d path => ?_⟩
  · obtain ⟨text, made, read⟩ := exists_render? finite short
    refine ⟨text, made, read, fun d path start way name admits => ?_⟩
    obtain ⟨d', way, writable⟩ := admits.exists_run
    obtain ⟨place, -, writes⟩ := Disk.exists_place_of_write (writable text)
    obtain ⟨written, there⟩ := writes text
    exact ⟨_, (run_save_of_way way).trans (run_saveThere_of_text made written), there,
      run_read_of_text there (ofText_of_parse? read (ofDocument?_toDocument typed))⟩
  · obtain ⟨r, read, keeps⟩ := exists_ofDocument? typed held
    exact ⟨r, keeps, fun r' keeps' => keeps'.unique keeps, fun text parsed d path there =>
      run_read_of_text there (ofText_of_parse? parsed read)⟩
  · have unwritten := render?_of_not_short long
    refine ⟨sameFiles_save unwritten, fun start way name leads => ?_⟩
    obtain ⟨d', way, -⟩ := leads.exists_run
    exact ⟨d', (run_save_of_way way).trans (run_saveThere_of_unwritten unwritten)⟩

end Format

/-- The defaults with two counts of their own. -/
def counting : Setup Float :=
  { (default : Setup Float) with
    run := ⟨7⟩
    tracking := { (.default : TrackingSettings Float) with missThreshold := 9 } }

/-- One of these counts, in a document with other things. -/
def trimmed : Toml.Sections :=
  [("gate", []), ("environment", [("colour", .text "red"), ("miss_threshold", .whole 9)]), ("other", [])]

def endless : Setup Float := { (default : Setup Float) with run := ⟨Toml.maxWhole + 1⟩ }

theorem heldIn_trimmed :
    counting.HeldIn (fun table key => table == "environment" && key == "miss_threshold") trimmed.toToml := by
  refine ⟨_, rfl, ?_, ?_, ?_⟩
  · show ∀ f ∈ RunSettings.fields Float, _
    decide
  · refine Setting.heldIn_table.2 ?_
    simp only [TrackingSettings.fields, List.forall_mem_cons]
    exact ⟨rfl, rfl, rfl, rfl, rfl, rfl, List.forall_mem_nil _⟩
  · exact Setting.heldIn_table.2 fun _ _ => rfl

theorem keeps_trimmed :
    Keeps (fun table key => table == "environment" && key == "miss_threshold") counting
      { (default : Setup Float) with tracking := counting.tracking } := by
  refine ⟨?_, ?_, ?_⟩
  · simp only [RunSettings.fields, List.forall_mem_cons]
    exact ⟨rfl, List.forall_mem_nil _⟩
  · simp only [TrackingSettings.fields, List.forall_mem_cons]
    exact ⟨rfl, rfl, rfl, rfl, rfl, rfl, List.forall_mem_nil _⟩
  · simp only [TraverseSettings.fields, List.forall_mem_cons]
    exact ⟨rfl, rfl, rfl, rfl, rfl, rfl, rfl, rfl, rfl, rfl, rfl, rfl, List.forall_mem_nil _⟩

theorem orderly_trimmed : trimmed.Orderly where
  names := by decide
  bare := by decide +kernel
  keys := by decide
  bareKeys := by decide +kernel
  values := by
    have nine : (Toml.whole 9).IsPlain := ⟨by decide, by decide⟩
    simp only [trimmed, List.forall_mem_cons]
    exact ⟨nofun, ⟨trivial, nine, nofun⟩, nofun, nofun⟩

/-- A disk with one folder, in which the user's own is still to be made. -/
def homes : Disk := ⟨[(⟨.root, ["home"]⟩, .folder)]⟩

theorem admits_homes :
    homes.Admits "/home/rover/.rover/config.toml" ⟨.root, []⟩ ["", "home", "rover", ".rover"] "config.toml" where
  route := rfl
  named := by decide
  fits := by unfold Disk.Fits; decide
  clear := by
    have places : (⟨.root, []⟩ : Disk.Place).way ["", "home", "rover", ".rover"] =
        [⟨.root, []⟩, ⟨.root, []⟩, ⟨.root, ["home"]⟩, ⟨.root, ["home", "rover"]⟩,
          ⟨.root, ["home", "rover", ".rover"]⟩] := by decide
    unfold Disk.Clear
    rw [places]
    simp only [List.forall_mem_cons]
    exact ⟨nofun, nofun, nofun, nofun, nofun, nofun⟩
  free := by decide
  apart := by decide

theorem saved_read_back_homes :
    homes.holds "/home/rover" = false ∧
    (∃ d, (save (m := StateM Disk) "/home/rover/.rover/config.toml" counting).run homes = (.ok (), d) ∧
      (read (m := StateM Disk) "/home/rover/.rover/config.toml").run d = (.ok (some counting), d)) ∧
    (∃ text, Toml.Format.parse? text = some trimmed.toToml ∧
      (read (m := StateM Disk) "c").run (Disk.single "c" text) =
        (.ok (some { (default : Setup Float) with tracking := counting.tracking }), Disk.single "c" text)) ∧
    (∃ d, (save (m := StateM Disk) "/home/rover/.rover/config.toml" endless).run homes =
      (.error (.malformed "a count does not fit in 63 bits"), d)) := by
  have typed : counting.Everywhere Slot.InRange := by
    refine ⟨?_, ?_, ?_⟩ <;> decide +kernel
  have finite : counting.Everywhere Slot.Finite := by
    refine ⟨?_, ?_, ?_⟩ <;> decide +kernel
  have short : counting.Everywhere Slot.Short := by
    refine ⟨?_, ?_, ?_⟩ <;> decide +kernel
  have long : ¬ endless.Everywhere Slot.Short := fun h => absurd h.1 (by decide +kernel)
  obtain ⟨kept, edited, -⟩ := saved_read_back counting typed
  refine ⟨by decide +kernel, ?_, ?_, ?_⟩
  · obtain ⟨text, -, -, saves⟩ := kept finite short
    obtain ⟨d, saved, -, read⟩ := saves _ _ _ _ _ admits_homes
    exact ⟨d, saved, read⟩
  · obtain ⟨text, -, parsed⟩ := Toml.LawfulFormat.parse?_render? orderly_trimmed
    obtain ⟨r, -, unique, reads⟩ := edited _ _ heldIn_trimmed
    rw [unique _ keeps_trimmed]
    exact ⟨text, parsed, reads text parsed _ _ Disk.read_single_c⟩
  · have typed : endless.Everywhere Slot.InRange := by
      refine ⟨?_, ?_, ?_⟩ <;> decide +kernel
    obtain ⟨-, -, refused⟩ := saved_read_back endless typed
    exact (refused long homes _).2 _ _ _ admits_homes.toLeads

end Setup

end GateNav
