import GateNav.Proofs.Toml.Doubles
import GateNav.Proofs.Toml.Laws
import GateNav.Toml.Reader

/-!
# Lines of TOML read back

The line of a section or of a plain value is read back as the statement that it was written for, whatever lines follow.
Texts may hold any characters; those that cannot stand between quotes as they are come back from their escapes.
-/

namespace GateNav.Toml

/-! ### Texts -/

section Text
variable {c : Char} {cs r out : List Char}

theorem codePoint?_escapeDigits (h : isPlain c = false) : codePoint? 4 (escapeDigits c ++ cs) = some (c, cs) := by
  have low : c.toNat < 128 := by
    unfold isPlain at h
    simp only [Bool.or_eq_false_iff, Bool.and_eq_false_iff, decide_eq_false_iff_not, bne_eq_false_iff_eq] at h
    omega
  have all : ∀ n : Fin 128, (escapeDigits (Char.ofNat n)).length = 4 ∧
      Text.hexChar? (escapeDigits (Char.ofNat n)) = some (Char.ofNat n) := by decide +kernel
  obtain ⟨length, char⟩ := all ⟨c.toNat, low⟩
  rw [Char.ofNat_toNat] at length char
  unfold codePoint?
  dsimp only
  rw [List.take_left' length, List.drop_left' length, length, if_neg (by decide), char]
  rfl

/-- A character is read back from its form between quotes. -/
theorem quoted?_escape_cons {fuel : Nat} : quoted? (fuel + 1) out (escape c ++ cs) = quoted? fuel (c :: out) cs := by
  by_cases quote : c = '"'
  · subst quote
    rfl
  · by_cases backslash : c = '\\'
    · subst backslash
      rfl
    · have form : escape c = if isPlain c then [c] else '\\' :: 'u' :: escapeDigits c := by
        unfold escape
        split <;> simp_all
      rw [form]
      cases plain : isPlain c with
      | true =>
        simp only [if_true, List.cons_append, List.nil_append]
        rw [quoted?, if_pos plain]
        · exact quote
        · exact backslash
      | false =>
        simp only [Bool.false_eq_true, if_false, List.cons_append]
        rw [quoted?, escape?, codePoint?_escapeDigits plain]

theorem quoted?_escape {fuel : Nat} (enough : cs.length < fuel) :
    quoted? fuel out (cs.flatMap escape ++ '"' :: r) = some (String.ofList (out.reverse ++ cs), r) := by
  induction cs generalizing fuel out with
  | nil =>
    cases fuel with
    | zero => cases enough
    | succ fuel => simp [quoted?]
  | cons c cs ih =>
    cases fuel with
    | zero => cases enough
    | succ fuel =>
      rw [List.flatMap_cons, List.append_assoc, quoted?_escape_cons, ih (by simpa using enough)]
      simp

/-- Between quotes no character begins with a quote. -/
theorem escape_eq_cons : ∃ d ds, escape c = d :: ds ∧ d ≠ '"' := by
  unfold escape
  split
  · exact ⟨_, _, rfl, by decide⟩
  · exact ⟨_, _, rfl, by decide⟩
  · next quote _ =>
    split
    · exact ⟨c, [], rfl, quote⟩
    · exact ⟨_, _, rfl, by decide⟩

theorem length_le_flatMap_escape : cs.length ≤ (cs.flatMap escape).length := by
  induction cs with
  | nil => exact Nat.le_refl 0
  | cons c cs ih =>
    obtain ⟨d, ds, form, -⟩ := escape_eq_cons (c := c)
    rw [List.flatMap_cons, form, List.length_append, List.length_cons, List.length_cons]
    omega

/-- A text in quotes is read back. -/
theorem string?_escape :
    string? ('"' :: (cs.flatMap escape ++ '"' :: '\n' :: r)) = some (String.ofList cs, '\n' :: r) := by
  have enough : cs.length < (cs.flatMap escape ++ '"' :: '\n' :: r).length + 1 := by
    rw [List.length_append]
    exact Nat.lt_succ_of_le (Nat.le_trans length_le_flatMap_escape (Nat.le_add_right _ _))
  have read : quoted? _ [] (cs.flatMap escape ++ '"' :: '\n' :: r) = some (String.ofList cs, '\n' :: r) :=
    quoted?_escape enough
  unfold string?
  split
  · next same =>
    -- Neither the quote that ends the text nor a first character of it makes three quotes.
    cases cs with
    | nil => cases same
    | cons c cs =>
      obtain ⟨d, ds, form, other⟩ := escape_eq_cons (c := c)
      rw [List.flatMap_cons, form] at same
      exact absurd (List.cons.inj (List.cons.inj same).2).1 other
  · next same =>
    cases same
    exact read
  · next same => cases same
  · next same => cases same
  · next quoted _ _ => exact absurd rfl (quoted _)

end Text

/-! ### Values -/

section Value
variable {v : Toml} {cs r : List Char} {fuel depth : Nat}

theorem skip_number (h : number? cs = some (v, [])) : skip (' ' :: (cs ++ '\n' :: r)) = cs ++ '\n' :: r := by
  cases cs with
  | nil => cases h
  | cons c cs =>
    have word : isSpace c = false := by
      cases space : isSpace c with
      | false => rfl
      | true =>
        simp only [isSpace, Bool.or_eq_true, beq_iff_eq] at space
        rcases space with rfl | rfl <;> cases h
    unfold skip
    rw [List.dropWhile_cons_of_pos (by decide), List.cons_append, List.dropWhile_cons_of_neg (by simp [word])]

theorem value?_number (h : number? cs = some (v, [])) :
    value? (fuel + 1) depth (cs ++ '\n' :: r) = some (v, '\n' :: r) := by
  have read : number? (cs ++ '\n' :: r) = some (v, '\n' :: r) := by
    rw [number?_line, h]
    rfl
  generalize cs ++ '\n' :: r = line at read
  unfold value?
  -- Nothing else begins like a number: in all other cases the number could not have been read.
  split
  case h_7 => exact read
  all_goals cases read

/-- The text of a plain value is read back, behind a blank and before the end of its line. -/
theorem value?_of_isPlain (h : v.IsPlain) :
    ∃ text, plainText? v = some text ∧
      ∀ fuel depth r, value? (fuel + 1) depth (skip (' ' :: (text.toList ++ '\n' :: r))) = some (v, '\n' :: r) := by
  cases v with
  | text s =>
    refine ⟨_, rfl, fun fuel depth r => ?_⟩
    have line : skip (' ' :: ((String.ofList ('"' :: s.toList.flatMap escape ++ ['"'])).toList ++ '\n' :: r)) =
        '"' :: (s.toList.flatMap escape ++ '"' :: '\n' :: r) := by
      rw [String.toList_ofList, List.append_assoc]
      rfl
    rw [line, value?, string?_escape, String.ofList_toList]
    rfl
  | whole n =>
    have fits : wordOf? n = some n := if_pos h
    refine ⟨toString n, by rw [plainText?, fits]; rfl, fun fuel depth r => ?_⟩
    rw [skip_number (number?_whole fits), value?_number (number?_whole fits)]
  | number x =>
    refine ⟨_, rfl, fun fuel depth r => ?_⟩
    rw [skip_number (number?_text h), value?_number (number?_text h)]
  | truth b =>
    refine ⟨_, rfl, fun fuel depth r => ?_⟩
    cases b <;> rfl
  | moment | list | table => cases h

end Value

/-! ### Keys -/

section Key
variable {name : String} {cs : List Char} {c : Char}

theorem IsBare.eq_cons (bare : IsBare name) : ∃ c cs, name.toList = c :: cs ∧ isBare c = true := by
  obtain ⟨some_char, all⟩ := bare
  cases shape : name.toList with
  | nil => exact absurd shape some_char
  | cons c cs => exact ⟨c, cs, rfl, all c (by rw [shape]; exact List.mem_cons_self ..)⟩

theorem not_isSpace_of_isBare (h : isBare c = true) : isSpace c = false := by
  cases space : isSpace c with
  | false => rfl
  | true =>
    simp only [isSpace, Bool.or_eq_true, beq_iff_eq] at space
    rcases space with rfl | rfl <;> exact absurd h (by decide)

theorem name?_bare (bare : IsBare name) (ends : isBare c = false) :
    name? (name.toList ++ c :: cs) = some (name, c :: cs) := by
  obtain ⟨some_char, all⟩ := bare
  have taken : (name.toList ++ c :: cs).takeWhile isBare = name.toList := by
    rw [List.takeWhile_append_of_pos all, List.takeWhile_cons, ends, if_neg Bool.false_ne_true, List.append_nil]
  unfold name?
  split
  · next same =>
    rw [same] at taken
    exact absurd taken.symm some_char
  · next same =>
    rw [same] at taken
    exact absurd taken.symm some_char
  · simp only [taken]
    rw [if_neg (by simp [some_char]), List.drop_left, String.ofList_toList]

/-- A name is a key, whatever blanks come after it, unless there is a point. -/
theorem key?_bare {fuel : Nat} (bare : IsBare name) (ends : isBare c = false)
    (last : ∀ rest, skip (c :: cs) ≠ '.' :: rest) :
    key? (fuel + 1) (name.toList ++ c :: cs) = some ([name], skip (c :: cs)) := by
  have start : skip (name.toList ++ c :: cs) = name.toList ++ c :: cs := by
    obtain ⟨d, ds, shape, first⟩ := bare.eq_cons
    rw [shape, List.cons_append]
    exact List.dropWhile_cons_of_neg (by simp [not_isSpace_of_isBare first])
  unfold key?
  rw [start, name?_bare bare ends]
  simp only [bind, Option.bind]
  rfl

end Key

/-! ### Statements -/

section Statement
variable {name : String} {v : Toml} {r : List Char}

theorem statement?_header (bare : IsBare name) :
    statement? ('[' :: (name.toList ++ ']' :: '\n' :: r)) = some (.table [name], r) := by
  have key : key? (maxDepth - 1) (name.toList ++ ']' :: '\n' :: r) = some ([name], ']' :: '\n' :: r) :=
    key?_bare bare (by decide) nofun
  unfold statement?
  split
  · next same =>
    obtain ⟨c, cs, shape, first⟩ := bare.eq_cons
    rw [shape] at same
    rw [(List.cons.inj (List.cons.inj same).2).1] at first
    cases first
  · next same =>
    rw [← (List.cons.inj same).2, key]
    rfl
  · next other => exact absurd rfl (other _)

theorem statement?_line (bare : IsBare name) (h : v.IsPlain) :
    ∃ text, line? name v = some text ∧ (∃ c cs, text.toList = c :: cs ∧ isBare c = true) ∧
      ∀ r, statement? (text.toList ++ r) = some (.assign [name] v, r) := by
  obtain ⟨text, form, reads⟩ := value?_of_isPlain h
  obtain ⟨c, cs, shape, first⟩ := bare.eq_cons
  refine ⟨name ++ " = " ++ text ++ "\n", by rw [line?, form]; rfl, ⟨c, ?_⟩, fun r => ?_⟩
  · simp [String.toList_append, shape, first]
  have line : (name ++ " = " ++ text ++ "\n").toList ++ r =
      name.toList ++ ' ' :: '=' :: ' ' :: (text.toList ++ '\n' :: r) := by
    simp [String.toList_append]
  have key : key? (maxDepth - 1) (name.toList ++ ' ' :: '=' :: ' ' :: (text.toList ++ '\n' :: r)) =
      some ([name], '=' :: ' ' :: (text.toList ++ '\n' :: r)) := key?_bare bare (by decide) nofun
  have assigns : c ≠ '[' := by
    rintro rfl
    cases first
  rw [line]
  unfold statement?
  split
  · next same =>
    rw [shape] at same
    exact absurd (List.cons.inj same).1 assigns
  · next same =>
    rw [shape] at same
    exact absurd (List.cons.inj same).1 assigns
  · rw [key]
    simp only [reads]
    rfl

end Statement

end GateNav.Toml
