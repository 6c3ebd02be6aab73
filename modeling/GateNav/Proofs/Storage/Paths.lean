import Mathlib.Data.List.Basic
import GateNav.Storage.Disk

/-!
# Paths by their parts

No part of a path holds a slash, so a path is given by its parts. The path of a folder on the way is a piece of the path
itself, from its start; so it starts where the path does, and it is usable if the path is (`Disk.route_pathOf`).
-/

namespace GateNav
variable {path : String} {parts upward : List String} {part : String}

/-! ### Joined parts -/

theorem notMem_of_mem_splitOn {cs l : List Char} (h : l ∈ cs.splitOn '/') : '/' ∉ l := by
  induction cs generalizing l with
  | nil =>
    rw [List.splitOn_nil, List.mem_singleton] at h
    subst h
    exact List.not_mem_nil
  | cons c cs ih =>
    rw [List.splitOn_cons_eq_if_modifyHead] at h
    split at h
    · rcases List.mem_cons.1 h with rfl | h
      · exact List.not_mem_nil
      · exact ih h
    · next other =>
      cases rest : cs.splitOn '/' with
      | nil =>
        rw [rest] at h
        cases h
      | cons first others =>
        rw [rest] at h ih
        rcases List.mem_cons.1 h with rfl | h
        · rw [List.mem_cons, not_or]
          exact ⟨fun same => other (by simp [← same]), ih (List.mem_cons_self ..)⟩
        · exact ih (List.mem_cons_of_mem _ h)

theorem notMem_of_mem_pathParts (h : part ∈ pathParts path) : '/' ∉ part.toList := by
  obtain ⟨l, hl, rfl⟩ := List.mem_map.1 h
  rw [String.toList_ofList]
  exact notMem_of_mem_splitOn hl

theorem toList_join (parts : List String) :
    ("/".intercalate parts).toList = ['/'].intercalate (parts.map String.toList) := String.toList_intercalate

theorem pathParts_join (some_part : parts ≠ []) (plain : ∀ part ∈ parts, '/' ∉ part.toList) :
    pathParts ("/".intercalate parts) = parts := by
  unfold pathParts
  rw [toList_join, List.splitOn_intercalate]
  · rw [List.map_map]
    exact (List.map_congr_left fun part _ => String.ofList_toList).trans (List.map_id parts)
  · exact List.forall_mem_map.2 plain
  · simpa using some_part

theorem join_pathParts (path : String) : ("/".intercalate (pathParts path)).toList = path.toList := by
  have parts : (pathParts path).map String.toList = path.toList.splitOn '/' := by
    unfold pathParts
    rw [List.map_map]
    exact (List.map_congr_left fun cs _ => String.toList_ofList).trans (List.map_id _)
  rw [toList_join, parts, List.intercalate_splitOn]

/-- The first parts, joined, are how all of them begin. -/
theorem intercalate_prefix {α : Type} (sep : List α) (first rest : List (List α)) :
    sep.intercalate first <+: sep.intercalate (first ++ rest) := by
  induction first with
  | nil => exact List.nil_prefix
  | cons x first ih =>
    cases first with
    | nil =>
      cases rest with
      | nil => exact List.prefix_refl _
      | cons y rest =>
        rw [List.singleton_append, List.intercalate_singleton, List.intercalate_cons_cons, List.append_assoc]
        exact List.prefix_append _ _
    | cons y first =>
      rw [List.cons_append, List.cons_append, List.intercalate_cons_cons, List.intercalate_cons_cons]
      exact (List.prefix_append_right_inj _).2 ih

/-! ### Folders on the way -/

theorem trimIdle_suffix (parts : List String) : trimIdle parts <:+ parts := by
  induction parts with
  | nil => exact List.suffix_refl _
  | cons part parts ih =>
    cases parts with
    | nil => exact List.suffix_refl _
    | cons next parts =>
      rw [trimIdle]
      split
      · exact ih.trans (List.suffix_cons _ _)
      · exact List.suffix_refl _

theorem trimIdle_ne_nil (some_part : parts ≠ []) : trimIdle parts ≠ [] := by
  induction parts with
  | nil => exact absurd rfl some_part
  | cons part parts ih =>
    cases parts with
    | nil => exact some_part
    | cons next parts =>
      rw [trimIdle]
      split
      · exact ih (List.cons_ne_nil _ _)
      · exact List.cons_ne_nil _ _

theorem pathsUp_cons : pathsUp (part :: upward) =
    if upward ≠ [] ∧ isIdle part = true then pathsUp upward else pathOf (part :: upward) :: pathsUp upward := by
  cases upward with
  | nil => rw [if_neg fun h => h.1 rfl, pathsUp, pathsUp]
  | cons next parts => simp only [pathsUp, ne_eq, reduceCtorEq, not_false_eq_true, true_and]

theorem pathsUp_trimIdle (parts : List String) : pathsUp (trimIdle parts) = pathsUp parts := by
  induction parts with
  | nil => rfl
  | cons part parts ih =>
    cases parts with
    | nil => rfl
    | cons next parts =>
      rw [trimIdle]
      split
      · next idle =>
        rw [ih]
        exact (pathsUp_cons.trans (if_pos ⟨List.cons_ne_nil _ _, idle⟩)).symm
      · rfl

/-- A path that ends in a name is in the folder of the parts before it. -/
theorem parentPath?_of_parts {way : List String} (h : pathParts path = way ++ [part]) (named : isIdle part = false) :
    parentPath? path = some (pathOf (trimIdle way.reverse)) := by
  have some_name : part ≠ "" := by
    rintro rfl
    cases named
  unfold parentPath?
  rw [h, List.reverse_append, List.reverse_singleton, List.singleton_append]
  have last : trimIdle (part :: way.reverse) = part :: way.reverse := by
    cases way.reverse with
    | nil => rfl
    | cons next parts => rw [trimIdle, if_neg (by rw [named]; decide)]
  rw [last]
  split
  · next none => exact absurd none (List.cons_ne_nil _ _)
  · next root => exact absurd (List.cons.inj root).1 some_name
  · next same => rw [(List.cons.inj same).2]

namespace Disk
variable {start : Place}

theorem route_eq_ok : route path = .ok (start, parts) ↔
    '\x00' ∉ path.toList ∧ path.utf8ByteSize ≤ maxPathSize ∧ path ≠ "" ∧
      start = ⟨if parts.head? = some "" then .root else .above 0, []⟩ ∧ parts = pathParts path := by
  unfold route
  split
  · next zero =>
    refine ⟨nofun, fun h => absurd ?_ h.1⟩
    simpa using zero
  · next zero =>
    split
    · next long => exact ⟨nofun, fun h => absurd h.2.1 (Nat.not_le.2 long)⟩
    · next short =>
      split
      · next empty => exact ⟨nofun, fun h => absurd (by simpa using empty) h.2.2.1⟩
      · next some_char =>
        constructor
        · intro h
          cases h
          exact ⟨by simpa using zero, Nat.not_lt.1 short, by simpa using some_char, rfl, rfl⟩
        · rintro ⟨-, -, -, rfl, rfl⟩
          rfl

/-- The path of a folder on the way starts where the path does, and has the same parts up to there. -/
theorem route_pathOf (h : route path = .ok (start, parts)) (inner : part :: upward <:+ parts.reverse)
    (some_part : upward ≠ []) :
    route (pathOf upward) = .ok (start, if upward = [""] then ["", ""] else upward.reverse) := by
  obtain ⟨zero, short, -, rfl, rfl⟩ := route_eq_ok.1 h
  have begins : upward.reverse <+: pathParts path := by
    rw [← List.reverse_reverse (pathParts path), List.reverse_prefix]
    exact (List.suffix_cons part upward).trans inner
  have head : upward.reverse.head? = (pathParts path).head? := by
    obtain ⟨rest, same⟩ := begins
    rw [← same]
    cases first : upward.reverse with
    | nil => exact absurd (List.reverse_eq_nil_iff.1 first) some_part
    | cons => rfl
  by_cases root : upward = [""]
  · subst root
    rw [← head]
    rfl
  · rw [if_neg root]
    have plain : ∀ part ∈ upward.reverse, '/' ∉ part.toList := fun part hp =>
      notMem_of_mem_pathParts (begins.subset hp)
    have joined : pathOf upward = "/".intercalate upward.reverse := by
      unfold pathOf
      split
      · exact absurd rfl root
      · rfl
    have parts : pathParts (pathOf upward) = upward.reverse := by
      rw [joined]
      exact pathParts_join (by simpa using some_part) plain
    obtain ⟨rest, whole⟩ : (pathOf upward).toList <+: path.toList := by
      obtain ⟨others, same⟩ := begins
      rw [joined, ← join_pathParts path, ← same, toList_join, toList_join, List.map_append]
      exact intercalate_prefix _ _ _
    have path_eq : path = pathOf upward ++ String.ofList rest := by
      rw [← String.toList_inj, String.toList_append, String.toList_ofList, whole]
    refine route_eq_ok.2 ⟨fun hz => zero ?_, ?_, ?_, ?_, parts.symm⟩
    · rw [← whole]
      exact List.mem_append_left _ hz
    · rw [path_eq, String.utf8ByteSize_append] at short
      exact Nat.le_trans (Nat.le_add_right _ _) short
    · intro empty
      rw [empty] at parts
      exact root (List.reverse_eq_iff.1 parts.symm)
    · rw [head]

/-- What is left of the parts of a folder lies within those of the path. -/
theorem exists_cons_suffix {way : List String} (h : upward <:+ way.reverse) :
    ∃ x, x :: upward <:+ (way ++ [part]).reverse := by
  obtain ⟨others, same⟩ := h
  rw [List.reverse_append, List.reverse_singleton, List.singleton_append, ← same]
  refine ⟨(part :: others).getLast (List.cons_ne_nil _ _), (part :: others).dropLast, ?_⟩
  rw [List.append_cons, List.dropLast_append_getLast]
  rfl

theorem pathsUpward_pathOf (h : route path = .ok (start, parts)) (inner : part :: upward <:+ parts.reverse)
    (some_part : upward ≠ []) : pathsUpward (pathOf upward) = pathsUp upward := by
  obtain ⟨-, -, some_char, -, same⟩ := route_eq_ok.1 (route_pathOf h inner some_part)
  unfold pathsUpward
  rw [if_neg (by simpa using some_char), ← same]
  by_cases root : upward = [""]
  · subst root
    rfl
  · rw [if_neg root, List.reverse_reverse]

theorem names_of_route (h : route path = .ok (start, parts)) : start.names = [] := by
  rw [(route_eq_ok.1 h).2.2.2.1]

end Disk

end GateNav
