import Mathlib.Data.List.Nodup
import GateNav.Setup.Fields
import GateNav.Toml.Value

/-!
# Settings read field by field

Each field of a table of settings is put by itself and leaves all others alone (`Setting.Independent`). So what is read
from a section has the fields that the section holds and, in all others, what was there before: `Setting.putAll?_held`
gives the record, and `Setting.agrees_carry` says what is in it.
-/

namespace GateNav

namespace Slot
variable {R : Type}

/-- Both records have the same in this field. -/
def Agrees : Slot Float R → R → R → Prop
  | .number get _, r, s => get r = get s
  | .count _ get _, r, s => get r = get s
  | .pattern get _, r, s => get r = get s

/-- The record `r` with the field of `s`. -/
def copy : Slot Float R → R → R → R
  | .number get put, s, r => put (get s) r
  | .count _ get put, s, r => put (get s) r
  | .pattern get put, s, r => put (get s) r

/-- A count is in the range of its field. -/
def InRange : Slot Float R → R → Prop
  | .count limit get _, s => get s ≤ limit
  | _, _ => True

variable {slot other : Slot Float R} {r s t : R}

instance : Decidable (slot.InRange s) :=
  match slot with
  | .count _ _ _ => inferInstanceAs (Decidable (_ ≤ _))
  | .number _ _ | .pattern _ _ => inferInstanceAs (Decidable True)

theorem Agrees.refl : slot.Agrees r r := by cases slot <;> rfl

theorem Agrees.symm (h : slot.Agrees r s) : slot.Agrees s r := by
  cases slot <;> exact Eq.symm h

theorem Agrees.trans (h : slot.Agrees r s) (h' : slot.Agrees s t) : slot.Agrees r t := by
  cases slot <;> exact Eq.trans h h'

/-- The field is got as it was put. -/
def Faithful (slot : Slot Float R) : Prop := ∀ s r, slot.Agrees (slot.copy s r) s

/-- What is put into this field leaves the other one alone. -/
def Spares (slot other : Slot Float R) : Prop := ∀ s r, other.Agrees (slot.copy s r) r

/-- What is written of a field is read back. -/
theorem read?_write (h : slot.InRange s) : slot.read? (slot.write s : Toml) r = some (slot.copy s r) := by
  cases slot with
  | number get put => rfl
  | count limit get put =>
    have range : get s ≤ limit := h
    have read : Document.count? limit (.whole (get s) : Toml) = some (get s) := by
      simp only [Document.count?, Document.whole?, bind, Option.bind]
      rw [if_pos ⟨Int.natCast_nonneg _, Int.ofNat_le.2 range⟩, Int.toNat_natCast]
    exact congrArg (Option.map (put · r)) read
  | pattern get put =>
    have read : PatternKind.ofName? (get s).name = some (get s) := by cases get s <;> rfl
    exact congrArg (Option.map (put · r)) read

end Slot

namespace Setting
variable {R : Type} {fields : List (Setting Float R)} {kept : String → Bool} {find : String → Option Toml} {r s : R}

/-- Each field is under a key of its own, and is put and got by itself. -/
structure Independent (fields : List (Setting Float R)) : Prop where
  keys : (fields.map (·.key)).Nodup
  faithful : ∀ f ∈ fields, f.slot.Faithful
  spares : fields.Pairwise fun f g => f.slot.Spares g.slot ∧ g.slot.Spares f.slot

/-- The record `r` with the kept fields of `s`. -/
def carry (kept : String → Bool) (fields : List (Setting Float R)) (s r : R) : R :=
  fields.foldl (fun r f => if kept f.key then f.slot.copy s r else r) r

theorem putAll?_held (ranges : ∀ f ∈ fields, f.slot.InRange s)
    (held : ∀ f ∈ fields, find f.key = if kept f.key then some (f.slot.write s) else none) :
    putAll? fields find r = some (carry kept fields s r) := by
  induction fields generalizing r with
  | nil => rfl
  | cons f fields ih =>
    obtain ⟨range, ranges⟩ := List.forall_mem_cons.1 ranges
    obtain ⟨first, held⟩ := List.forall_mem_cons.1 held
    unfold putAll? at ih ⊢
    rw [List.foldlM_cons, first]
    cases present : kept f.key with
    | true =>
      simp only [if_true, Slot.read?_write range, bind, Option.bind, carry, List.foldl_cons, present]
      exact ih ranges held
    | false =>
      simp only [Bool.false_eq_true, if_false, bind, Option.bind, carry, List.foldl_cons, present]
      exact ih ranges held

/-- A field comes through where all others spare it. -/
theorem agrees_carry_of_spared {slot : Slot Float R} (spared : ∀ f ∈ fields, f.slot.Spares slot) :
    slot.Agrees (carry kept fields s r) r := by
  induction fields generalizing r with
  | nil => exact .refl
  | cons f fields ih =>
    obtain ⟨first, later⟩ := List.forall_mem_cons.1 spared
    rw [carry, List.foldl_cons]
    refine (ih later).trans ?_
    split
    · exact first s r
    · exact .refl

/-- The kept fields are those of `s`, and the others are as they were. -/
theorem agrees_carry (h : Independent fields) :
    ∀ f ∈ fields, f.slot.Agrees (carry kept fields s r) (if kept f.key then s else r) := by
  obtain ⟨-, faithful, spares⟩ := h
  -- Along the table: the first field is put first and then spared; to the others the first one made no difference.
  induction fields generalizing r with
  | nil => exact nofun
  | cons f fields ih =>
    obtain ⟨first, faithful⟩ := List.forall_mem_cons.1 faithful
    obtain ⟨apart, spares⟩ := List.pairwise_cons.1 spares
    rw [carry, List.foldl_cons]
    refine List.forall_mem_cons.2 ⟨?_, fun g hg => ?_⟩
    · refine (agrees_carry_of_spared fun g hg => (apart g hg).2).trans ?_
      split
      · exact first s r
      · exact .refl
    · refine (ih faithful spares g hg).trans ?_
      split
      · exact .refl
      · split
        · exact (apart g hg).1 s r
        · exact .refl

theorem carry_of_nothing_kept (h : ∀ f ∈ fields, kept f.key = false) : carry kept fields s r = r := by
  induction fields with
  | nil => rfl
  | cons f fields ih =>
    obtain ⟨first, later⟩ := List.forall_mem_cons.1 h
    rw [carry, List.foldl_cons, first, if_neg Bool.false_ne_true]
    exact ih later

/-! ### Sections -/

/-- Of these fields, the section holds those that are kept, as they are written of `s`, and no others. -/
def HeldIn (fields : List (Setting Float R)) (s : R) (kept : String → Bool) : Option Toml → Prop
  | none => ∀ f ∈ fields, kept f.key = false
  | some (.table members) =>
    ∀ f ∈ fields, Toml.member? members f.key = if kept f.key then some (f.slot.write s) else none
  | some _ => False

theorem heldIn_table {members : List (String × Toml)} : HeldIn fields s kept (some (.table members)) ↔
    ∀ f ∈ fields, Toml.member? members f.key = if kept f.key then some (f.slot.write s) else none := Iff.rfl

theorem readSection?_held {v : Option Toml} (ranges : ∀ f ∈ fields, f.slot.InRange s) (held : HeldIn fields s kept v) :
    readSection? fields r v = some (carry kept fields s r) := by
  cases v with
  | none => exact congrArg some (carry_of_nothing_kept held).symm
  | some v =>
    cases v with
    | table members => exact putAll?_held ranges (heldIn_table.1 held)
    | text | whole | number | truth | moment | list => cases held

theorem member?_write (keys : (fields.map (·.key)).Nodup) :
    ∀ f ∈ fields, Toml.member? (fields.map fun f => (f.key, f.slot.write s)) f.key = some (f.slot.write s) := by
  induction fields with
  | nil => exact nofun
  | cons f fields ih =>
    obtain ⟨apart, keys⟩ := List.nodup_cons.1 keys
    refine List.forall_mem_cons.2 ⟨by simp [Toml.member?], fun g hg => ?_⟩
    have other : (f.key == g.key) = false := by
      rw [beq_eq_false_iff_ne]
      intro same
      exact apart (List.mem_map.2 ⟨g, hg, same.symm⟩)
    have rest := ih keys g hg
    unfold Toml.member? at rest ⊢
    rwa [List.map_cons, List.find?_cons_of_neg (by simp [other])]

theorem heldIn_write (keys : (fields.map (·.key)).Nodup) :
    HeldIn fields s (fun _ => true) (some (.table (fields.map fun f => (f.key, f.slot.write s)))) :=
  heldIn_table.2 (member?_write keys)

end Setting

theorem RunSettings.independent : Setting.Independent (RunSettings.fields Float) where
  keys := by decide
  faithful f hf := by
    simp only [fields, List.mem_singleton] at hf
    subst hf
    exact fun _ _ => rfl
  spares := List.pairwise_singleton _ _

theorem TrackingSettings.independent : Setting.Independent (TrackingSettings.fields Float) where
  keys := by decide
  faithful f hf := by
    simp only [fields, List.mem_cons, List.not_mem_nil, or_false] at hf
    rcases hf with rfl | rfl | rfl | rfl | rfl | rfl <;> exact fun _ _ => rfl
  spares := by
    simp only [fields, List.pairwise_cons, List.forall_mem_cons, List.not_mem_nil, IsEmpty.forall_iff, implies_true,
      List.Pairwise.nil, and_true]
    repeat' apply And.intro
    all_goals exact fun _ _ => rfl

theorem TraverseSettings.independent : Setting.Independent (TraverseSettings.fields Float) where
  keys := by decide
  faithful f hf := by
    simp only [fields, List.mem_cons, List.not_mem_nil, or_false] at hf
    rcases hf with rfl | rfl | rfl | rfl | rfl | rfl | rfl | rfl | rfl | rfl | rfl | rfl <;> exact fun _ _ => rfl
  spares := by
    simp only [fields, List.pairwise_cons, List.forall_mem_cons, List.not_mem_nil, IsEmpty.forall_iff, implies_true,
      List.Pairwise.nil, and_true]
    repeat' apply And.intro
    all_goals exact fun _ _ => rfl

/-! ### Records are what their fields are -/

theorem RunSettings.eq_of_agrees {r s : RunSettings} (h : ∀ f ∈ fields Float, f.slot.Agrees r s) : r = s := by
  simp only [fields, List.forall_mem_cons, Slot.Agrees] at h
  cases r
  cases s
  simp_all

theorem TrackingSettings.eq_of_agrees {r s : TrackingSettings Float} (h : ∀ f ∈ fields Float, f.slot.Agrees r s) :
    r = s := by
  simp only [fields, List.forall_mem_cons, Slot.Agrees] at h
  cases r
  cases s
  simp_all

theorem TraverseSettings.eq_of_agrees {r s : TraverseSettings Float} (h : ∀ f ∈ fields Float, f.slot.Agrees r s) :
    r = s := by
  simp only [fields, List.forall_mem_cons, Slot.Agrees] at h
  cases r
  cases s
  simp_all

end GateNav
