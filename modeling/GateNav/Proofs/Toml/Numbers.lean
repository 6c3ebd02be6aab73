import Mathlib.Data.List.Basic
import GateNav.Toml.Writer

/-!
# Numbers of TOML read back

A number is read the same wherever its line ends: what comes after a line break is not looked at (`number?_line`). Whole
numbers that fit in 64 bits are read back from their digits (`number?_whole`).
-/

namespace GateNav.Toml

/-! ### What follows a line break -/

section Line
variable {β : Type} {cs r : List Char}

/-- What was read, with a line break and more after what is left. -/
def onLine (r : List Char) (x : β × List Char) : β × List Char := (x.1, x.2 ++ '\n' :: r)

theorem more_line {isDigit : Char → Bool} (h : isDigit '\n' = false) (out : List Char) :
    digits?.more isDigit out (cs ++ '\n' :: r) = onLine r (digits?.more isDigit out cs) := by
  -- The cases of an underscore come first, so whatever falls through to the last two is none.
  have plain (c : Char) (cs : List Char) (single : c = '_' → cs = [] → False)
      (between : ∀ d ds, c = '_' → cs = d :: ds → False) : c ≠ '_' := by
    intro mark
    cases cs with
    | nil => exact single mark rfl
    | cons d ds => exact between d ds mark rfl
  fun_induction digits?.more isDigit out cs with
  | case1 out => simp [digits?.more, h, onLine]
  | case2 out => simp [digits?.more, h, onLine]
  | case3 out c cs digit ih => simpa [digits?.more, digit] using ih
  | case4 out c cs other => simp [digits?.more, other, onLine]
  | case5 out c cs single between digit ih => simpa [digits?.more, plain c cs single between, digit] using ih
  | case6 out c cs single between other => simp [digits?.more, plain c cs single between, other, onLine]

theorem digits?_line {isDigit : Char → Bool} (h : isDigit '\n' = false) :
    digits? isDigit (cs ++ '\n' :: r) = (digits? isDigit cs).map (onLine r) := by
  cases cs with
  | nil => simp [digits?, h]
  | cons c cs =>
    rw [List.cons_append, digits?, digits?, more_line h]
    split <;> rfl

theorem sign_line : sign (cs ++ '\n' :: r) = onLine r (sign cs) := by
  cases cs with
  | nil => rfl
  | cons c cs =>
    unfold sign
    rw [List.cons_append]
    split <;> simp_all [onLine]

theorem bind_line {γ δ : Type} {x x' : Option γ} {k : γ → Option δ} {e : γ → γ} {e' : δ → δ} (first : x' = x.map e)
    (next : ∀ v, k (e v) = (k v).map e') : x' >>= k = (x >>= k).map e' := by
  rw [first]
  cases x with
  | none => rfl
  | some v => exact next v

theorem decimal?_line : decimal? (cs ++ '\n' :: r) = (decimal? cs).map fun x => (x.1, onLine r x.2) := by
  unfold decimal?
  rw [sign_line]
  obtain ⟨negative, cs⟩ := sign cs
  dsimp only [onLine]
  cases cs with
  | nil => rfl
  | cons c cs =>
    have digits : digits? Char.isDigit (c :: cs ++ '\n' :: r) = _ := digits?_line (by decide)
    by_cases zero : c = '0'
    · subst zero
      rfl
    · rw [List.cons_append] at digits ⊢
      split
      · next same => exact absurd (List.cons.inj same).1 zero
      · split
        · next same => exact absurd (List.cons.inj same).1 zero
        · exact bind_line digits fun v => rfl

theorem exponent?_line : exponent? (cs ++ '\n' :: r) = (exponent? cs).map (onLine r) := by
  cases cs with
  | nil => rfl
  | cons c cs =>
    rw [List.cons_append, exponent?, exponent?]
    split
    · rfl
    · rw [sign_line]
      obtain ⟨negative, cs⟩ := sign cs
      dsimp only [onLine]
      refine bind_line (digits?_line (by decide)) fun ⟨digits, left⟩ => ?_
      dsimp only [onLine]
      cases Decimal.count? digits <;> rfl

theorem special?_line : special? (cs ++ '\n' :: r) = (special? cs).map (onLine r) := by
  unfold special?
  rw [sign_line]
  obtain ⟨negative, cs⟩ := sign cs
  dsimp only [onLine]
  rcases cs with - | ⟨a, - | ⟨b, - | ⟨c, cs⟩⟩⟩
  · rfl
  · simp
  · simp
  · simp only [List.cons_append]
    split <;> split <;> simp_all [onLine]

theorem fractional?_line : fractional? (cs ++ '\n' :: r) = (fractional? cs).map (onLine r) := by
  unfold fractional?
  refine bind_line decimal?_line fun ⟨negative, digits, cs⟩ => ?_
  have ends (fraction : List Char) (power : Int) (left : List Char) :
      ((Decimal.ofParts? negative digits fraction power).bind fun x =>
        if x == Float64.infinity then none else some (number x, left ++ '\n' :: r)) =
      ((Decimal.ofParts? negative digits fraction power).bind fun x =>
        if x == Float64.infinity then none else some (number x, left)).map (onLine r) := by
    cases Decimal.ofParts? negative digits fraction power with
    | none => rfl
    | some x =>
      dsimp only [Option.bind_some]
      split <;> rfl
  have powers : exponent? (cs ++ '\n' :: r) = _ := exponent?_line
  dsimp only [onLine]
  cases cs with
  | nil => rfl
  | cons c cs =>
    rw [List.cons_append] at powers ⊢
    by_cases point : c = '.'
    · subst point
      refine bind_line (digits?_line (by decide)) fun ⟨fraction, cs⟩ => ?_
      dsimp only [onLine]
      rw [exponent?_line]
      cases exponent? cs <;> exact ends _ _ _
    · split
      · next same => exact absurd (List.cons.inj same).1 point
      · split
        · next same => exact absurd (List.cons.inj same).1 point
        · rw [powers]
          cases exponent? (c :: cs) with
          | none => rfl
          | some x => exact ends _ _ _

theorem part?_line {count low high : Nat} :
    part? count low high (cs ++ '\n' :: r) = (part? count low high cs).map (onLine r) := by
  unfold part?
  by_cases enough : count ≤ cs.length
  · rw [List.take_append_of_le_length enough, List.drop_append_of_le_length enough]
    cases Decimal.count? (cs.take count) with
    | none => rfl
    | some n =>
      simp only [bind, Option.bind]
      split <;> rfl
  · -- A part that does not end on the line holds the line break, which is no digit.
    have short : cs.length < count := Nat.lt_of_not_le enough
    have unread : Decimal.count? ((cs ++ '\n' :: r).take count) = none := by
      unfold Decimal.count?
      rw [if_pos]
      rw [List.take_append, List.take_cons (by omega)]
      simp
    rw [unread, List.take_of_length_le (Nat.le_of_lt short)]
    cases Decimal.count? cs with
    | none => rfl
    | some n =>
      simp only [bind, Option.bind]
      rw [if_neg (by omega)]
      rfl

theorem mark?_line {c : Char} (h : c ≠ '\n') : mark? c (cs ++ '\n' :: r) = (mark? c cs).map (· ++ '\n' :: r) := by
  cases cs with
  | nil => simp [mark?, h.symm]
  | cons d cs =>
    rw [List.cons_append, mark?, mark?]
    split <;> rfl

theorem date?_line : date? (cs ++ '\n' :: r) = (date? cs).map (· ++ '\n' :: r) := by
  unfold date?
  refine bind_line part?_line fun ⟨year, cs⟩ => ?_
  refine bind_line (mark?_line (by decide)) fun cs => ?_
  refine bind_line part?_line fun ⟨month, cs⟩ => ?_
  refine bind_line (mark?_line (by decide)) fun cs => ?_
  exact bind_line part?_line fun ⟨day, cs⟩ => rfl

theorem dropWhile_line {p : Char → Bool} (h : p '\n' = false) :
    (cs ++ '\n' :: r).dropWhile p = cs.dropWhile p ++ '\n' :: r := by
  induction cs with
  | nil => simp [h]
  | cons c cs ih =>
    rw [List.cons_append, List.dropWhile_cons, List.dropWhile_cons, ih]
    split <;> rfl

theorem time?_line : time? (cs ++ '\n' :: r) = (time? cs).map (· ++ '\n' :: r) := by
  unfold time?
  refine bind_line part?_line fun ⟨hours, cs⟩ => ?_
  refine bind_line (mark?_line (by decide)) fun cs => ?_
  refine bind_line part?_line fun ⟨minutes, cs⟩ => ?_
  refine bind_line (mark?_line (by decide)) fun cs => ?_
  refine bind_line part?_line fun ⟨seconds, cs⟩ => ?_
  dsimp only [onLine]
  rcases cs with - | ⟨a, - | ⟨b, cs⟩⟩
  · rfl
  · by_cases point : a = '.' <;> simp [point]
  · by_cases point : a = '.'
    · subst point
      simp only [List.cons_append, dropWhile_line (p := Char.isDigit) (by decide)]
      split <;> rfl
    · simp [point]

theorem zone?_line : zone? (cs ++ '\n' :: r) = (zone? cs).map (· ++ '\n' :: r) := by
  cases cs with
  | nil => rfl
  | cons c cs =>
    rw [List.cons_append, zone?, zone?]
    split
    · rfl
    · split
      · refine bind_line part?_line fun ⟨hours, cs⟩ => ?_
        refine bind_line (mark?_line (by decide)) fun cs => ?_
        exact bind_line part?_line fun ⟨minutes, cs⟩ => rfl
      · rfl

theorem afterMoment?_line : afterMoment? (cs ++ '\n' :: r) = (afterMoment? cs).map (· ++ '\n' :: r) := by
  unfold afterMoment?
  rw [date?_line]
  cases date? cs with
  | none => exact time?_line
  | some rest =>
    dsimp only [Option.map_some]
    cases rest with
    | nil => rfl
    | cons c cs =>
      rw [List.cons_append]
      dsimp only
      split
      · rw [time?_line]
        cases time? cs with
        | none => rfl
        | some cs => exact zone?_line
      · rfl

theorem moment?_line : moment? (cs ++ '\n' :: r) = (moment? cs).map (onLine r) := by
  unfold moment?
  rw [afterMoment?_line]
  cases afterMoment? cs with
  | none => rfl
  | some rest =>
    have same : (cs ++ '\n' :: r).take ((cs ++ '\n' :: r).length - (rest ++ '\n' :: r).length) =
        cs.take (cs.length - rest.length) := by
      rw [List.length_append, List.length_append, Nat.add_sub_add_right]
      exact List.take_append_of_le_length (Nat.sub_le _ _)
    simp only [Option.map_some, bind, Option.bind, same]
    rfl

theorem integer?_line : integer? (cs ++ '\n' :: r) = (integer? cs).map (onLine r) := by
  have plain : (decimal? (cs ++ '\n' :: r) >>= fun x => Decimal.count? x.2.1 >>= fun n =>
        wordOf? (if x.1 then -(n : Int) else n) >>= fun n => some (Toml.whole n, x.2.2)) =
      (decimal? cs >>= fun x => Decimal.count? x.2.1 >>= fun n =>
        wordOf? (if x.1 then -(n : Int) else n) >>= fun n => some (Toml.whole n, x.2.2)).map (onLine r) := by
    refine bind_line decimal?_line fun ⟨negative, digits, cs⟩ => ?_
    dsimp only [onLine]
    cases Decimal.count? digits with
    | none => rfl
    | some n =>
      simp only [bind, Option.bind]
      cases wordOf? (if negative then -(n : Int) else n) <;> rfl
  have based (base : Nat) (isDigit : Char → Bool) (h : isDigit '\n' = false) (cs : List Char) :
      (digits? isDigit (cs ++ '\n' :: r) >>= fun x =>
        wordOf? (inBase base x.1) >>= fun n => some (Toml.whole n, x.2)) =
      (digits? isDigit cs >>= fun x =>
        wordOf? (inBase base x.1) >>= fun n => some (Toml.whole n, x.2)).map (onLine r) := by
    refine bind_line (digits?_line h) fun ⟨digits, cs⟩ => ?_
    dsimp only [onLine]
    cases wordOf? (inBase base digits) <;> rfl
  unfold integer?
  dsimp only
  -- A base is told by two characters, and a line break is neither of them.
  rcases cs with - | ⟨a, - | ⟨b, cs⟩⟩
  · rfl
  · simp only [List.cons_append, List.nil_append] at plain ⊢
    split
    all_goals first | (next same => simp at same) | exact plain
  · simp only [List.cons_append] at plain ⊢
    split
    · next same =>
      simp only [List.cons.injEq] at same
      obtain ⟨rfl, rfl, rfl⟩ := same
      exact based 16 _ (by decide) cs
    · next same =>
      simp only [List.cons.injEq] at same
      obtain ⟨rfl, rfl, rfl⟩ := same
      exact based 8 _ (by decide) cs
    · next same =>
      simp only [List.cons.injEq] at same
      obtain ⟨rfl, rfl, rfl⟩ := same
      exact based 2 _ (by decide) cs
    · refine plain.trans ?_
      split <;> first | rfl | simp_all

/-- What comes after a line break is not looked at. -/
theorem number?_line : number? (cs ++ '\n' :: r) = (number? cs).map (onLine r) := by
  unfold number?
  rw [moment?_line, special?_line, fractional?_line, integer?_line]
  cases moment? cs with
  | some x => rfl
  | none =>
    cases special? cs with
    | some x => rfl
    | none =>
      cases fractional? cs <;> rfl

end Line

/-! ### Digits -/

section Digits
variable {ds cs left rest : List Char} {c : Char} {negative : Bool} {n : Nat}

/-- Digits as they stand at the start of a number: none of them is a needless zero. -/
structure Leading (ds : List Char) : Prop where
  digits : ∀ c ∈ ds, c.isDigit = true
  some_digit : ds ≠ []
  zero : ds.head? = some '0' → ds = ['0']

/-- Digits end here: the number does, or there is a point. -/
def Stops (rest : List Char) : Prop := rest = [] ∨ ∃ cs, rest = '.' :: cs

theorem more_digits (h : ∀ c ∈ ds, c.isDigit = true) (stops : Stops rest) (out : List Char) :
    digits?.more Char.isDigit out (ds ++ rest) = (out.reverse ++ ds, rest) := by
  induction ds generalizing out with
  | nil => obtain rfl | ⟨cs, rfl⟩ := stops <;> simp [digits?.more]
  | cons c ds ih =>
    obtain ⟨digit, digits⟩ := List.forall_mem_cons.1 h
    have between : c ≠ '_' := by
      rintro rfl
      cases digit
    simp [digits?.more, between, digit, ih digits]

theorem digits?_digits (some_digit : ds ≠ []) (h : ∀ c ∈ ds, c.isDigit = true) (stops : Stops rest) :
    digits? Char.isDigit (ds ++ rest) = some (ds, rest) := by
  cases ds with
  | nil => exact absurd rfl some_digit
  | cons c ds =>
    obtain ⟨digit, digits⟩ := List.forall_mem_cons.1 h
    rw [List.cons_append, digits?, if_pos digit, more_digits digits stops]
    rfl

/-- Leading digits are read up to their end, whatever the sign before them. -/
theorem decimal?_leading (h : Leading ds) (stops : Stops rest) (signed : sign cs = (negative, ds ++ rest)) :
    decimal? cs = some (negative, ds, rest) := by
  have digits := digits?_digits h.some_digit h.digits stops
  unfold decimal?
  rw [signed]
  dsimp only
  cases shape : ds with
  | nil => exact absurd shape h.some_digit
  | cons c others =>
    by_cases zero : c = '0'
    · have alone := h.zero (by rw [shape, zero]; rfl)
      rw [shape] at alone
      rw [alone]
      rfl
    · rw [shape] at digits
      split
      · next same => exact absurd (List.cons.inj same).1 zero
      · rw [digits]
        rfl

theorem sign_digits (h : ∀ c ∈ ds.head?, c.isDigit = true) : sign ds = (false, ds) := by
  unfold sign
  split
  · exact absurd (h '-' rfl) (by decide)
  · exact absurd (h '+' rfl) (by decide)
  · rfl

theorem special?_digits (h : ∀ c ∈ ds.head?, c.isDigit = true) (signed : sign cs = (negative, ds)) :
    special? cs = none := by
  unfold special?
  rw [signed]
  dsimp only
  split
  · exact absurd (h 'i' rfl) (by decide)
  · exact absurd (h 'n' rfl) (by decide)
  · rfl

theorem mark?_of_notMem (h : c ∉ ds) : mark? c ds = none := by
  cases ds with
  | nil => rfl
  | cons d ds =>
    rw [mark?, if_neg]
    rintro same
    exact h (beq_iff_eq.1 same ▸ List.mem_cons_self ..)

theorem of_part? {count low high : Nat} (h : part? count low high cs = some (n, left)) : left = cs.drop count := by
  unfold part? at h
  obtain ⟨m, -, h⟩ := Option.bind_eq_some_iff.1 h
  split at h
  · cases h
    rfl
  · cases h

theorem mark?_of_part? {count low high : Nat} (h : c ∉ ds) (read : part? count low high ds = some (n, left)) :
    mark? c left = none := by
  rw [of_part? read]
  exact mark?_of_notMem fun hc => h (List.mem_of_mem_drop hc)

/-- What has no marks between its digits is no moment. -/
theorem moment?_of_notMem (h : '-' ∉ ds) (h' : ':' ∉ ds) : moment? ds = none := by
  have date : date? ds = none := by
    unfold date?
    cases read : part? 4 0 9999 ds with
    | none => rfl
    | some x => simp only [bind, Option.bind, mark?_of_part? h read]
  have time : time? ds = none := by
    unfold time?
    cases read : part? 2 0 23 ds with
    | none => rfl
    | some x => simp only [bind, Option.bind, mark?_of_part? h' read]
  unfold moment? afterMoment?
  rw [date, time]
  rfl

theorem notMem_digits (h : ∀ c ∈ ds, c.isDigit = true) (mark : c.isDigit = false) : c ∉ ds := by
  intro hc
  rw [h c hc] at mark
  cases mark

theorem isDigit_toDigits : ∀ c ∈ Nat.toDigits 10 n, c.isDigit = true :=
  fun _ hc => Nat.isDigit_of_mem_toDigits (by decide) (by decide) hc

theorem head_toDigits (h : n ≠ 0) (head : (Nat.toDigits 10 n).head? = some c) : c ≠ '0' := by
  induction n using Nat.strongRecOn with
  | ind n ih =>
    rw [Nat.toDigits_eq_if (by decide)] at head
    split at head
    · next small =>
      cases head
      exact fun zero => h (Nat.digitChar_eq_zero.1 zero)
    · next large =>
      have rest : n / 10 ≠ 0 := by omega
      have some_digit : Nat.toDigits 10 (n / 10) ≠ [] := Nat.toDigits_ne_nil
      refine ih (n / 10) (by omega) rest ?_
      cases digits : Nat.toDigits 10 (n / 10) with
      | nil => exact absurd digits some_digit
      | cons d ds =>
        rw [digits] at head
        exact head

theorem leading_toDigits : Leading (Nat.toDigits 10 n) where
  digits := isDigit_toDigits
  some_digit := Nat.toDigits_ne_nil
  zero head := by
    by_cases zero : n = 0
    · rw [zero]
      rfl
    · exact absurd rfl (head_toDigits zero head)

theorem count?_digits (some_digit : ds ≠ []) (h : ∀ c ∈ ds, c.isDigit = true) :
    Decimal.count? ds = some (Nat.ofDigitChars 10 ds 0) := by
  have digits : ds.all Char.isDigit = true := List.all_eq_true.2 h
  have filled : ds.isEmpty = false := by simpa using some_digit
  unfold Decimal.count?
  rw [digits, filled, if_neg (by decide), Nat.ofDigitChars_eq_foldl]

theorem count?_toDigits : Decimal.count? (Nat.toDigits 10 n) = some n := by
  rw [count?_digits Nat.toDigits_ne_nil isDigit_toDigits, Nat.ofDigitChars_ten_toDigits]

end Digits

/-! ### Whole numbers -/

section Whole
variable {cs : List Char} {negative : Bool} {n : Nat}

theorem decimal?_toDigits (signed : sign cs = (negative, Nat.toDigits 10 n)) :
    decimal? cs = some (negative, Nat.toDigits 10 n, []) :=
  decimal?_leading leading_toDigits (.inl rfl) (by rw [List.append_nil, signed])

theorem fractional?_toDigits (signed : sign cs = (negative, Nat.toDigits 10 n)) : fractional? cs = none := by
  unfold fractional?
  rw [decimal?_toDigits signed]
  rfl

theorem integer?_toDigits (signed : sign cs = (negative, Nat.toDigits 10 n))
    (unbased : ∀ c ∈ cs.drop 1, c.isDigit = true) :
    integer? cs = (wordOf? (if negative then -(n : Int) else n)).map (.whole ·, []) := by
  unfold integer?
  dsimp only
  split
  · exact absurd (unbased 'x' (List.mem_cons_self ..)) (by decide)
  · exact absurd (unbased 'o' (List.mem_cons_self ..)) (by decide)
  · exact absurd (unbased 'b' (List.mem_cons_self ..)) (by decide)
  · rw [decimal?_toDigits signed]
    simp only [bind, Option.bind, count?_toDigits]
    cases wordOf? (if negative then -(n : Int) else n) <;> rfl

theorem number?_toDigits (signed : sign cs = (negative, Nat.toDigits 10 n))
    (unbased : ∀ c ∈ cs.drop 1, c.isDigit = true) (moment : moment? cs = none) :
    number? cs = (wordOf? (if negative then -(n : Int) else n)).map (.whole ·, []) := by
  have special := special?_digits (fun c hc => isDigit_toDigits c (List.mem_of_mem_head? hc)) signed
  unfold number?
  rw [moment, special, fractional?_toDigits signed, integer?_toDigits signed unbased]
  rfl

/-- Whole numbers that fit in 64 bits are read back. -/
theorem number?_whole {n : Int} (fits : wordOf? n = some n) : number? (toString n).toList = some (.whole n, []) := by
  cases n with
  | ofNat n =>
    have text : (toString (Int.ofNat n)).toList = Nat.toDigits 10 n := by
      show (toString n).toList = _
      rw [Nat.toString_eq_ofList_toDigits, String.toList_ofList]
    rw [text, number?_toDigits (sign_digits fun c hc => isDigit_toDigits c (List.mem_of_mem_head? hc))
      (fun c hc => isDigit_toDigits c (List.mem_of_mem_drop hc))
      (moment?_of_notMem (notMem_digits isDigit_toDigits rfl) (notMem_digits isDigit_toDigits rfl))]
    exact congrArg (Option.map _) fits
  | negSucc n =>
    have text : (toString (Int.negSucc n)).toList = '-' :: Nat.toDigits 10 (n + 1) := by
      show ("-" ++ toString (n + 1)).toList = _
      simp
    have signed : sign ('-' :: Nat.toDigits 10 (n + 1)) = (true, Nat.toDigits 10 (n + 1)) := rfl
    rw [text, number?_toDigits signed isDigit_toDigits rfl]
    exact congrArg (Option.map _) fits

end Whole

end GateNav.Toml
