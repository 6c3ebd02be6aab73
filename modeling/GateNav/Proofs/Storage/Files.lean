import Mathlib.Control.Monad.Basic
import GateNav.Storage.Disk

/-!
# Files on a disk

What is written to a file is read back from it, and whether a file can be written does not depend on the text
(`Disk.exists_place_of_write`). The folders made on the way to a path are made where nothing was, so every file stays
(`Disk.keepsFiles_makeInside`).
-/

namespace GateNav

theorem Except.bind_eq_ok {ε β γ : Type} {x : Except ε β} {f : β → Except ε γ} {c : γ} :
    x >>= f = .ok c ↔ ∃ b, x = .ok b ∧ f b = .ok c := by
  cases x with
  | error e => exact ⟨nofun, nofun⟩
  | ok b => exact ⟨fun h => ⟨b, rfl, h⟩, fun ⟨_, hb, h⟩ => by cases hb; exact h⟩

namespace Disk
variable {d d' : Disk} {place q : Place} {e : Entry} {path text part : String}

/-! ### Entries -/

theorem find?_put_self (named : place.names.isEmpty = false) : (d.put place e).find? place = some e := by
  unfold find? put
  rw [named]
  simp

theorem find?_put_other (other : q ≠ place) : (d.put place e).find? q = d.find? q := by
  have kept : (d.put place e).entries.find? (·.1 = q) = d.entries.find? (·.1 = q) := by
    unfold put
    rw [List.find?_cons_of_neg (by simpa using other.symm), List.find?_filter]
    congr 1
    funext entry
    by_cases same : entry.1 = q <;> simp [same, other]
  unfold find?
  rw [kept]

theorem enter_eq_ok : d.enter place = .ok () ↔ d.find? place = some .folder := by
  unfold enter
  cases d.find? place with
  | none => exact ⟨nofun, nofun⟩
  | some e => cases e <;> simp [pure, Except.pure, throw, throwThe, MonadExceptOf.throw]

theorem step_eq_ok : d.step place part = .ok q ↔
    d.find? place = some .folder ∧ part.utf8ByteSize ≤ maxNameSize ∧ place.next part = q := by
  unfold step
  rw [Except.bind_eq_ok]
  constructor
  · rintro ⟨_, entered, h⟩
    split at h
    · cases h
    · next short => exact ⟨enter_eq_ok.1 entered, Nat.le_of_not_lt short, Except.ok.inj h⟩
  · rintro ⟨folder, short, rfl⟩
    refine ⟨(), enter_eq_ok.2 folder, ?_⟩
    rw [if_neg (Nat.not_lt_of_le short)]
    rfl

/-! ### What is written -/

section Write
variable {p : Place} {known : StorageFault} {name : String} {slashes : Bool}

/-- Where no folder is, an entry changes no way through folders. -/
theorem find?_put_folder (free : d.find? place ≠ some .folder) (h : d.find? q = some .folder) :
    (d.put place e).find? q = some .folder := by
  refine (find?_put_other ?_).trans h
  rintro rfl
  exact free h

theorem foldlM_step_put {parts : List String} (free : d.find? place ≠ some .folder)
    (h : parts.foldlM d.step q = .ok p) : parts.foldlM (d.put place e).step q = .ok p := by
  induction parts generalizing q with
  | nil => exact h
  | cons part parts ih =>
    rw [List.foldlM_cons, Except.bind_eq_ok] at h ⊢
    obtain ⟨next, step, rest⟩ := h
    obtain ⟨folder, short, same⟩ := step_eq_ok.1 step
    exact ⟨next, step_eq_ok.2 ⟨find?_put_folder free folder, short, same⟩, ih rest⟩

/-- A site without slashes behind its name is the way to its folder and the name. -/
theorem of_site (h : d.site known path = .ok (p, name, slashes)) :
    name ≠ "" ∧ isDots name = false ∧ d.find? p = some .folder ∧
      ∃ start parts, route path = .ok (start, parts) ∧
        (slashes = false → ∃ way, parts = way ++ [name] ∧ way.foldlM d.step start = .ok p) := by
  unfold site at h
  obtain ⟨⟨start, parts⟩, routed, h⟩ := Except.bind_eq_ok.1 h
  dsimp only at h
  obtain ⟨folder, way, h⟩ := Except.bind_eq_ok.1 h
  obtain ⟨_, entered, h⟩ := Except.bind_eq_ok.1 h
  split at h
  · cases h
  · next last rest upward =>
    split at h
    · cases h
    · next plain =>
      cases h
      rw [upward] at way
      refine ⟨?_, by simpa using plain, enter_eq_ok.1 entered, start, parts, routed, fun bare => ?_⟩
      · have named := List.head?_dropWhile_not (·.isEmpty) parts.reverse
        rw [upward] at named
        rintro rfl
        cases named
      · -- As many parts as there are up to the name: nothing was dropped behind it.
        have all : parts.length ≤ (name :: rest).length := by
          rw [upward] at bare
          simpa using bare
        have dropped := List.takeWhile_append_dropWhile (p := fun part : String => part.isEmpty) (l := parts.reverse)
        rw [upward] at dropped
        have none_dropped : parts.reverse.takeWhile (·.isEmpty) = [] := by
          have lengths := congrArg List.length dropped
          rw [List.length_append, List.length_reverse] at lengths
          exact List.length_eq_zero_iff.1 (by omega)
        rw [none_dropped, List.nil_append] at dropped
        refine ⟨rest.reverse, ?_, way⟩
        rw [← List.reverse_reverse parts, ← dropped, List.reverse_cons]

end Write

/-- What can be written to a file does not depend on the text, and is read back from it. -/
theorem exists_place_of_write (h : d.write path text = .ok d') :
    ∃ place, d.find? place ≠ some .folder ∧
      ∀ text, d.write path text = .ok (d.put place (.file text)) ∧ (d.put place (.file text)).read path = .ok text := by
  unfold write at h
  obtain ⟨⟨p, name, slashes⟩, found, h⟩ := Except.bind_eq_ok.1 h
  dsimp only at h
  split at h
  · cases h
  · next bare =>
    have bare : slashes = false := by simpa using bare
    subst bare
    obtain ⟨place, step, h⟩ := Except.bind_eq_ok.1 h
    split at h
    · cases h
    · next free =>
      -- Where the file is put no folder was, so the way there leads on through the same folders.
      obtain ⟨some_name, plain, folder, start, parts, routed, way⟩ := of_site found
      obtain ⟨way, rfl, walked⟩ := way rfl
      obtain ⟨-, short, rfl⟩ := step_eq_ok.1 step
      refine ⟨p.next name, free, fun text => ⟨?_, ?_⟩⟩
      · unfold write
        rw [found]
        simp only [bind, Except.bind, step, Bool.false_eq_true, if_false, if_neg free]
        rfl
      · have named : (p.next name).names.isEmpty = false := by
          simp only [isDots, Bool.or_eq_false_iff, beq_eq_false_iff_ne] at plain
          simp [Place.next, some_name, plain]
        have ends : (d.put (p.next name) (.file text)).locate path = .ok (p.next name) := by
          have last : (d.put (p.next name) (.file text)).step p name = .ok (p.next name) :=
            step_eq_ok.2 ⟨find?_put_folder free folder, short, rfl⟩
          unfold locate
          rw [routed]
          simp only [bind, Except.bind, List.foldlM_append, foldlM_step_put free walked]
          exact Except.bind_eq_ok.2 ⟨_, last, rfl⟩
        unfold read lookUp
        rw [ends]
        simp only [bind, Except.bind, find?_put_self named]
        rfl

/-! ### Folders -/

/-- The two disks hold the same files. -/
def SameFiles (d d' : Disk) : Prop :=
  ∀ place content, d'.find? place = some (.file content) ↔ d.find? place = some (.file content)

theorem SameFiles.refl : d.SameFiles d := fun _ _ => Iff.rfl

theorem SameFiles.trans {d'' : Disk} (h : d.SameFiles d') (h' : d'.SameFiles d'') : d.SameFiles d'' :=
  fun place content => (h' place content).trans (h place content)

/-- A folder is made where nothing is. -/
theorem sameFiles_makeFolder (h : d.makeFolder path = .ok d') : d.SameFiles d' := by
  unfold makeFolder at h
  obtain ⟨⟨p, name, slashes⟩, found, h⟩ := Except.bind_eq_ok.1 h
  obtain ⟨place, step, h⟩ := Except.bind_eq_ok.1 h
  split at h
  · cases h
  · next free =>
    cases h
    have free : d.find? place = none := by simpa using free
    intro q content
    by_cases same : q = place
    · subst same
      have named : q.names.isEmpty = false := by
        cases anchored : q.names.isEmpty with
        | false => rfl
        | true =>
          unfold find? at free
          rw [if_pos anchored] at free
          cases free
      rw [find?_put_self named, free]
      exact ⟨nofun, nofun⟩
    · rw [find?_put_other same]

/-- Whatever the disk holds, its files stay as they are. -/
def KeepsFiles {β : Type} (m : StateM Disk β) : Prop := ∀ d : Disk, d.SameFiles (m.run d).2

section Keeps
variable {β γ : Type} {m : StateM Disk β} {k : β → StateM Disk γ}

theorem keepsFiles_pure (b : β) : KeepsFiles (pure b) := fun _ => .refl

theorem KeepsFiles.bind (h : KeepsFiles m) (next : ∀ b, KeepsFiles (k b)) : KeepsFiles (m >>= k) := by
  intro d
  rw [StateT.run_bind]
  exact (h d).trans (next _ _)

theorem keepsFiles_makeFolder : KeepsFiles (Storage.makeFolder path) := by
  intro d
  have run : (Storage.makeFolder (m := StateM Disk) path).run d = (change (·.makeFolder path)).run d := rfl
  rw [run]
  simp only [change, StateT.run_bind, StateT.run_get, pure_bind]
  cases made : d.makeFolder path with
  | ok d' => exact sameFiles_makeFolder made
  | error fault => exact .refl

theorem keepsFiles_accept (made : Except StorageFault Unit) : KeepsFiles (Storage.accept path made) := by
  cases made with
  | ok => exact keepsFiles_pure _
  | error fault =>
    have looks : KeepsFiles (Storage.holdsFolder path) := fun _ => .refl
    refine looks.bind fun found => ?_
    split <;> exact keepsFiles_pure _

theorem keepsFiles_makeInside (paths : List String) : KeepsFiles (Storage.makeInside paths) := by
  induction paths with
  | nil => exact keepsFiles_pure _
  | cons path others ih =>
    unfold Storage.makeInside
    refine keepsFiles_makeFolder.bind fun made => ?_
    split
    · refine ih.bind fun others => ?_
      split
      · exact keepsFiles_makeFolder.bind fun made => keepsFiles_accept made
      · exact keepsFiles_pure _
    · exact keepsFiles_accept _

end Keeps

end Disk

end GateNav
