import Mathlib.Data.List.Nodup
import GateNav.Proofs.Toml.Lines
import GateNav.Toml.Standard

/-!
# Documents of TOML read back

The format of the program keeps documents as they are: it meets all that is asked of a format (`LawfulFormat`). `Spells`
is what makes the lines of a text go together: a text that is read as some statements, whatever follows it.
-/

namespace GateNav.Toml

/-! ### Texts and their statements -/

/-- The text is read as these statements, whatever follows. -/
structure Spells (text : List Char) (ss : List Statement) : Prop where
  reads : ∀ n out rest, statements? (n + ss.length) out (text ++ rest) = statements? n (ss.reverse ++ out) rest
  size : ss.length ≤ text.length

namespace Spells
variable {text later : List Char} {ss ts : List Statement}

theorem nil : Spells [] [] := ⟨fun _ _ _ => rfl, Nat.le_refl 0⟩

theorem append (h : Spells text ss) (h' : Spells later ts) : Spells (text ++ later) (ss ++ ts) := by
  constructor
  · intro n out rest
    rw [List.append_assoc, List.length_append, Nat.add_comm ss.length, ← Nat.add_assoc, h.reads, h'.reads,
      List.reverse_append, List.append_assoc]
  · rw [List.length_append, List.length_append]
    exact Nat.add_le_add h.size h'.size

theorem blank : Spells ['\n'] [] := by
  refine ⟨fun n out rest => ?_, Nat.zero_le _⟩
  cases n with
  | zero => rfl
  | succ n => rfl

/-- What begins neither a blank nor a comment is no part of the space between the lines. -/
theorem skipLines_of_begins {c : Char} {cs : List Char} {n : Nat} (begins : isBare c = true ∨ c = '[') :
    skipLines n (c :: cs) = c :: cs := by
  have space : isSpace c = false := begins.elim not_isSpace_of_isBare (by rintro rfl; rfl)
  have other : c ≠ '#' ∧ c ≠ '\n' ∧ c ≠ '\r' := by
    refine ⟨?_, ?_, ?_⟩ <;> rintro rfl <;> exact absurd begins (by decide)
  cases n with
  | zero => rfl
  | succ n =>
    have blanks : skip (c :: cs) = c :: cs := List.dropWhile_cons_of_neg (by simp [space])
    simp [skipLines, blanks, skipComment, newline?, other]

theorem statement {s : Statement} {c : Char} {cs : List Char} (begins : isBare c = true ∨ c = '[')
    (h : ∀ rest, statement? (c :: cs ++ rest) = some (s, rest)) : Spells (c :: cs) [s] := by
  refine ⟨fun n out rest => ?_, by simp⟩
  have read := h rest
  rw [List.cons_append] at read ⊢
  rw [List.length_singleton, Toml.statements?, skipLines_of_begins begins]
  simp only [read]
  rfl

theorem statements? (h : Spells text ss) : Toml.statements? (text.length + 1) [] text = some ss := by
  -- Every statement takes up a character at least, so the fuel is enough.
  have enough : text.length + 1 = (text.length - ss.length + 1) + ss.length := by
    have := h.size
    omega
  have reads := h.reads (text.length - ss.length + 1) [] []
  rw [List.append_nil, List.append_nil, ← enough] at reads
  rw [reads]
  simp [Toml.statements?, skipLines]

end Spells

/-! ### Sections -/

/-- The statements that a section is made by. -/
def Sections.statementsOf (s : String × List (String × Toml)) : List Statement :=
  .table [s.1] :: s.2.map fun m => .assign [m.1] m.2

theorem spells_lines {members : List (String × Toml)} (bare : ∀ m ∈ members, IsBare m.1)
    (values : ∀ m ∈ members, m.2.IsPlain) :
    ∃ lines, members.mapM (fun (key, v) => line? key v) = some lines ∧
      Spells (String.join lines).toList (members.map fun m => .assign [m.1] m.2) := by
  induction members with
  | nil => exact ⟨[], rfl, .nil⟩
  | cons m members ih =>
    obtain ⟨bare, bares⟩ := List.forall_mem_cons.1 bare
    obtain ⟨value, values⟩ := List.forall_mem_cons.1 values
    obtain ⟨lines, made, spells⟩ := ih bares values
    obtain ⟨text, form, ⟨c, cs, shape, first⟩, reads⟩ := statement?_line bare value
    refine ⟨text :: lines, ?_, ?_⟩
    · rw [List.mapM_cons, made]
      simp only [form, bind, Option.bind]
      rfl
    · rw [String.toList_join, List.flatMap_cons, ← String.toList_join, List.map_cons]
      rw [shape] at reads ⊢
      exact (Spells.statement (.inl first) reads).append spells

theorem spells_section {s : String × List (String × Toml)} (bare : IsBare s.1) (keys : ∀ m ∈ s.2, IsBare m.1)
    (values : ∀ m ∈ s.2, m.2.IsPlain) :
    ∃ text, section? s.1 s.2 = some text ∧ (∃ cs, text.toList = '[' :: cs) ∧
      Spells text.toList (Sections.statementsOf s) := by
  obtain ⟨lines, made, spells⟩ := spells_lines keys values
  have shape : ("[" ++ s.1 ++ "]\n" ++ String.join lines).toList =
      ('[' :: (s.1.toList ++ [']', '\n'])) ++ (String.join lines).toList := by
    simp [String.toList_append]
  refine ⟨_, ?_, ⟨_, shape⟩, ?_⟩
  · rw [section?, made]
    rfl
  · rw [shape]
    refine (Spells.statement (.inr rfl) fun rest => ?_).append spells
    have read := statement?_header (r := rest) bare
    simpa using read

theorem spells_sections {d : Sections} (bare : ∀ s ∈ d, IsBare s.1) (keys : ∀ s ∈ d, ∀ m ∈ s.2, IsBare m.1)
    (values : ∀ s ∈ d, ∀ m ∈ s.2, m.2.IsPlain) :
    ∃ texts : List String, d.mapM (fun s => section? s.1 s.2) = some texts ∧
      (∀ text ∈ texts, ∃ cs, text.toList = '[' :: cs) ∧
      Spells (['\n'].intercalate (texts.map String.toList)) (d.flatMap Sections.statementsOf) := by
  induction d with
  | nil => exact ⟨[], rfl, nofun, .nil⟩
  | cons s d ih =>
    obtain ⟨bare, bares⟩ := List.forall_mem_cons.1 bare
    obtain ⟨key, keys⟩ := List.forall_mem_cons.1 keys
    obtain ⟨value, values⟩ := List.forall_mem_cons.1 values
    obtain ⟨texts, made, begins, spells⟩ := ih bares keys values
    obtain ⟨text, form, first, spelled⟩ := spells_section bare key value
    refine ⟨text :: texts, ?_, List.forall_mem_cons.2 ⟨first, begins⟩, ?_⟩
    · rw [List.mapM_cons, made]
      simp only [form, bind, Option.bind]
      rfl
    · rw [List.flatMap_cons]
      cases texts with
      | nil =>
        simp only [List.map_nil, List.intercalate_nil] at spells
        have alone := spelled.append spells
        rw [List.append_nil] at alone
        simpa [List.intercalate] using alone
      | cons next texts =>
        have joined : ['\n'].intercalate ((text :: next :: texts).map String.toList) =
            text.toList ++ (['\n'] ++ ['\n'].intercalate ((next :: texts).map String.toList)) := by
          simp [List.intercalate]
        rw [joined]
        exact spelled.append (Spells.blank.append spells)

/-! ### Putting sections together -/

namespace Members
variable {ms : Members} {name : String} {node : Node}

theorem ne_of_fresh (fresh : name ∉ ms.map (·.1)) : ∀ m ∈ ms, (m.1 == name) = false := by
  intro m hm
  rw [beq_eq_false_iff_ne]
  rintro rfl
  exact fresh (List.mem_map_of_mem hm)

theorem find?_of_fresh (fresh : name ∉ ms.map (·.1)) : ms.find? name = none := by
  rw [find?, List.find?_eq_none.2 fun m hm => Bool.eq_false_iff.1 (ne_of_fresh fresh m hm)]
  rfl

theorem find?_add (fresh : name ∉ ms.map (·.1)) : (ms.add name node).find? name = some node := by
  rw [find?, add, List.find?_append, List.find?_eq_none.2 fun m hm => Bool.eq_false_iff.1 (ne_of_fresh fresh m hm)]
  simp

theorem replace_add {other : Node} (fresh : name ∉ ms.map (·.1)) :
    (ms.add name node).replace name other = ms.add name other := by
  have kept : ms.replace name other = ms := by
    refine (List.map_congr_left fun m hm => ?_).trans (List.map_id ms)
    rw [ne_of_fresh fresh m hm]
    rfl
  have appended : (ms.add name node).replace name other = ms.replace name other ++ [(name, other)] := by
    simp [add, replace]
  rw [appended, kept]
  rfl

/-- What differs from the names so far and from the new one is still new. -/
theorem fresh_add {β : Type} {others : List (String × β)} (fresh : ∀ m ∈ others, m.1 ∉ ms.map (·.1))
    (apart : name ∉ others.map (·.1)) : ∀ m ∈ others, m.1 ∉ (ms.add name node).map (·.1) := by
  intro m hm
  rw [add, List.map_append, List.mem_append, not_or]
  refine ⟨fresh m hm, fun same => apart ?_⟩
  rw [List.map_singleton, List.mem_singleton] at same
  exact List.mem_map.2 ⟨m, hm, same⟩

end Members

def nodesOf (members : List (String × Toml)) : Members := members.map fun (key, v) => (key, .value v)

namespace Draft
variable {ms : Members} {name : String} {path : List String}

theorem add?_header (fresh : name ∉ ms.map (·.1)) :
    add? ⟨ms, path⟩ (.table [name]) = some ⟨ms.add name (.table .header []), [name]⟩ := by
  rw [add?, Members.openTable?, Members.find?_of_fresh fresh]
  rfl

theorem add?_line {inner : Members} {key : String} {v : Toml} (fresh : name ∉ ms.map (·.1))
    (new : key ∉ inner.map (·.1)) :
    add? ⟨ms.add name (.table .header inner), [name]⟩ (.assign [key] v) =
      some ⟨ms.add name (.table .header (inner.add key (.value v))), [name]⟩ := by
  simp only [add?, Members.assignUnder?, Members.through?, Members.find?_add fresh, Members.assign?,
    Members.find?_of_fresh new, Option.isSome_none, Bool.false_eq_true, if_false, Option.map_some,
    Members.replace_add fresh]

theorem foldlM_lines {members : List (String × Toml)} {inner : Members} (fresh : name ∉ ms.map (·.1))
    (new : ∀ m ∈ members, m.1 ∉ inner.map (·.1)) (keys : (members.map (·.1)).Nodup) :
    (members.map fun m => Statement.assign [m.1] m.2).foldlM add? ⟨ms.add name (.table .header inner), [name]⟩ =
      some ⟨ms.add name (.table .header (inner ++ nodesOf members)), [name]⟩ := by
  induction members generalizing inner with
  | nil => simp [nodesOf]
  | cons m members ih =>
    obtain ⟨key, v⟩ := m
    obtain ⟨apart, keys⟩ := List.nodup_cons.1 keys
    obtain ⟨first, later⟩ := List.forall_mem_cons.1 new
    rw [List.map_cons, List.foldlM_cons, add?_line fresh first]
    refine (ih (Members.fresh_add later apart) keys).trans ?_
    simp [Members.add, nodesOf]

theorem foldlM_sections {d : Sections} (fresh : ∀ s ∈ d, s.1 ∉ ms.map (·.1)) (names : (d.map (·.1)).Nodup)
    (keys : ∀ s ∈ d, (s.2.map (·.1)).Nodup) :
    ∃ last, (d.flatMap Sections.statementsOf).foldlM add? ⟨ms, path⟩ =
      some ⟨ms ++ d.map fun (name, members) => (name, .table .header (nodesOf members)), last⟩ := by
  induction d generalizing ms path with
  | nil => exact ⟨path, by simp⟩
  | cons s d ih =>
    obtain ⟨name, members⟩ := s
    obtain ⟨apart, names⟩ := List.nodup_cons.1 names
    obtain ⟨first, later⟩ := List.forall_mem_cons.1 fresh
    obtain ⟨key, keys⟩ := List.forall_mem_cons.1 keys
    have still : ∀ s ∈ d, s.1 ∉ (ms.add name (.table .header (nodesOf members))).map (·.1) :=
      Members.fresh_add later apart
    -- The section is the last one put in, and the later ones have other names: they leave it as it is.
    obtain ⟨last, made⟩ := @ih _ [name] still names keys
    refine ⟨last, ?_⟩
    have lines : (members.map fun m => Statement.assign [m.1] m.2).foldlM add?
        ⟨ms.add name (.table .header []), [name]⟩ = some ⟨ms.add name (.table .header (nodesOf members)), [name]⟩ :=
      foldlM_lines first (fun _ _ => List.not_mem_nil) key
    rw [List.flatMap_cons, List.foldlM_append, Sections.statementsOf, List.foldlM_cons, add?_header first]
    simp only [bind, Option.bind, lines, made]
    simp [Members.add]

end Draft

theorem membersToToml_nodesOf {members : List (String × Toml)} : membersToToml (nodesOf members) = members := by
  induction members with
  | nil => rfl
  | cons m members ih =>
    rw [nodesOf] at ih
    rw [nodesOf, List.map_cons, membersToToml, ih]
    rfl

namespace Sections
variable {d : Sections}

theorem membersToToml_tables :
    membersToToml (d.map fun (name, members) => (name, .table .header (nodesOf members))) =
      d.map fun (name, members) => (name, .table members) := by
  induction d with
  | nil => rfl
  | cons s d ih =>
    rw [List.map_cons, membersToToml, ih, Node.toToml, membersToToml_nodesOf]
    rfl

theorem ofStatements?_statementsOf (names : (d.map (·.1)).Nodup) (keys : ∀ s ∈ d, (s.2.map (·.1)).Nodup) :
    ofStatements? (d.flatMap statementsOf) = some d.toToml := by
  obtain ⟨last, made⟩ : ∃ last, (d.flatMap statementsOf).foldlM Draft.add? ⟨[], []⟩ = some ⟨[] ++ _, last⟩ :=
    Draft.foldlM_sections (fun _ _ => List.not_mem_nil) names keys
  rw [ofStatements?, made, List.nil_append, Option.map_some, membersToToml_tables]
  rfl

/-- A document of sections has a text, and it is read as this document. -/
theorem parse?_render? (h : d.Orderly) : ∃ text, render? d.toToml = some text ∧ parse? text = some d.toToml := by
  obtain ⟨texts, made, begins, spells⟩ := spells_sections h.bare h.bareKeys h.values
  have joined : ("\n".intercalate texts).toList = ['\n'].intercalate (texts.map String.toList) :=
    String.toList_intercalate
  have unmarked : skipMark ("\n".intercalate texts).toList = ("\n".intercalate texts).toList := by
    cases texts with
    | nil => rfl
    | cons text texts =>
      obtain ⟨cs, shape⟩ := begins text (List.mem_cons_self ..)
      have first : ∃ cs, ("\n".intercalate (text :: texts)).toList = '[' :: cs := by
        rw [joined]
        cases texts <;> simp [List.intercalate, shape]
      obtain ⟨cs, shape⟩ := first
      rw [shape]
      rfl
  refine ⟨"\n".intercalate texts, ?_, ?_⟩
  · rw [toToml, render?, List.mapM_map]
    exact congrArg (Option.bind · fun sections => some ("\n".intercalate sections)) made
  · rw [← joined] at spells
    rw [parse?, unmarked, spells.statements?]
    exact ofStatements?_statementsOf h.names h.keys

theorem mapM_eq_none {β γ : Type} {f : β → Option γ} {x : β} {xs : List β} (hx : x ∈ xs) (h : f x = none) :
    xs.mapM f = none := by
  induction hx with
  | head xs =>
    rw [List.mapM_cons, h]
    rfl
  | tail y _ ih =>
    rw [List.mapM_cons, ih]
    cases f y <;> rfl

/-- A document with a value that cannot be written has no text. -/
theorem render?_eq_none {s : String × List (String × Toml)} {m : String × Toml} (hs : s ∈ d) (hm : m ∈ s.2)
    (h : plainText? m.2 = none) : render? d.toToml = none := by
  have line : line? m.1 m.2 = none := by
    rw [line?, h]
    rfl
  have unwritten : section? s.1 s.2 = none := by
    rw [section?, mapM_eq_none hm line]
    rfl
  rw [toToml, render?, List.mapM_map, mapM_eq_none hs unwritten]
  rfl

end Sections

/-- The program keeps its settings in a format that is lawful. -/
instance : LawfulFormat where
  parse?_empty := rfl
  parse?_render? := Sections.parse?_render?
  render?_eq_none {_ _ m n} hs hm value large := by
    refine Sections.render?_eq_none hs hm ?_
    have refused : wordOf? n = none := if_neg fun fits => absurd fits.2 (Int.not_le.2 large)
    rw [value]
    exact congrArg (Option.map _) refused

end GateNav.Toml
