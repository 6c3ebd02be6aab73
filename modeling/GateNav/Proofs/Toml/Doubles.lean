import GateNav.Proofs.Decimal.Nearest
import GateNav.Proofs.Finite
import GateNav.Proofs.Toml.Numbers

/-!
# Doubles of TOML read back

The text of a finite double is a sign, digits, a point and more digits. These are the shortest digits of the double with
zeros around them, and so they are read as the same double (`number?_text`).
-/

namespace GateNav.Toml
variable {whole fraction cs : List Char} {negative : Bool} {x : Float} {d : Digits} {n : Nat}

/-! ### Texts with a point -/

/-- The digits before and after the point, as they are written for a number. -/
structure Parts (whole fraction : List Char) (d : Digits) : Prop where
  leading : Leading whole
  some_digit : fraction ≠ []
  digits : ∀ c ∈ fraction, c.isDigit = true
  value : Digits.nearestBits ⟨Nat.ofDigitChars 10 (whole ++ fraction) 0, -(fraction.length : Int)⟩ = d.nearestBits

theorem digits_replicate : ∀ c ∈ List.replicate n '0', c.isDigit = true := by
  intro c hc
  rw [List.eq_of_mem_replicate hc]
  rfl

theorem digits_append (h : ∀ c ∈ whole, c.isDigit = true) (h' : ∀ c ∈ fraction, c.isDigit = true) :
    ∀ c ∈ whole ++ fraction, c.isDigit = true := fun c hc => (List.mem_append.1 hc).elim (h c) (h' c)

theorem Leading.take {k : Nat} (h : Leading whole) (some_digit : 0 < k) : Leading (whole.take k) where
  digits c hc := h.digits c (List.mem_of_mem_take hc)
  some_digit empty := by
    rcases List.take_eq_nil_iff.1 empty with none | none
    · exact absurd none some_digit.ne'
    · exact h.some_digit none
  zero head := by
    rw [List.head?_take, if_neg some_digit.ne'] at head
    rw [h.zero head]
    exact List.take_of_length_le some_digit

theorem parts_zero : Parts ['0'] ['0'] ⟨0, 0⟩ where
  leading := leading_toDigits (n := 0)
  some_digit := List.cons_ne_nil _ _
  digits := digits_replicate (n := 1)
  value := by
    show Digits.nearestBits ⟨0, -1⟩ = _
    rw [Digits.nearestBits_zero, Digits.nearestBits_zero]

/-- All digits are behind the point, with zeros before them. -/
theorem parts_below {k : Nat} : Parts ['0'] (List.replicate k '0' ++ Digits.ofNat n)
    ⟨n, -((k + (Digits.ofNat n).length : Nat) : Int)⟩ where
  leading := leading_toDigits (n := 0)
  some_digit := by simp [Digits.ofNat, Nat.toDigits_ne_nil]
  digits := digits_append digits_replicate isDigit_toDigits
  value := by
    rw [Nat.ofDigitChars_append, Nat.ofDigitChars_append, Nat.ofDigitChars_replicate_zero, List.length_append,
      List.length_replicate]
    simp only [Nat.ofDigitChars_cons, Nat.ofDigitChars_nil, Char.reduceToNat, Nat.sub_self, Nat.mul_zero, Nat.add_zero,
      Digits.ofNat, Nat.ofDigitChars_ten_toDigits]

/-- All digits are before the point, with zeros behind them. -/
theorem parts_above {k : Nat} (some_digit : 0 < n) :
    Parts (Digits.ofNat n ++ List.replicate k '0') ['0'] ⟨n, k⟩ where
  leading := by
    rw [← Digits.ofNat_zeros some_digit]
    exact leading_toDigits
  some_digit := List.cons_ne_nil _ _
  digits := digits_replicate (n := 1)
  value := by
    have zeros : Digits.ofNat n ++ List.replicate k '0' ++ ['0'] = Digits.ofNat (n * 10 ^ (k + 1)) := by
      rw [Digits.ofNat_zeros some_digit, List.append_assoc, List.replicate_succ']
    rw [zeros, Digits.ofNat, Nat.ofDigitChars_ten_toDigits, List.length_singleton,
      ← Digits.nearestBits_zeros (k := k + 1) (s := k)]
    congr 2
    omega

/-- The point is between two digits. -/
theorem parts_within {k : Nat} (some_digit : 0 < k) (within : k < (Digits.ofNat n).length) :
    Parts ((Digits.ofNat n).take k) ((Digits.ofNat n).drop k) ⟨n, (k : Int) - (Digits.ofNat n).length⟩ where
  leading := leading_toDigits.take some_digit
  some_digit := by simpa using within
  digits c hc := isDigit_toDigits c (List.mem_of_mem_drop hc)
  value := by
    rw [List.take_append_drop, List.length_drop, Digits.ofNat, Nat.ofDigitChars_ten_toDigits]
    congr 2
    have := within.le
    unfold Digits.ofNat at this
    omega

theorem toList_layOut (h : Decimal.positional (Digits.ofNat d.significand) d.magnitude = (whole, fraction)) :
    (Decimal.layOut .toml d).toList = whole ++ '.' :: if fraction.isEmpty then ['0'] else fraction := by
  have laid : Decimal.layOut .toml d = Decimal.joinParts whole (if fraction.isEmpty then ['0'] else fraction) := by
    simp only [Decimal.layOut, Layout.toml, h, Option.all_none, Bool.and_self, Bool.and_true, if_true]
  have filled : (if fraction.isEmpty then ['0'] else fraction).isEmpty = false := by
    split
    · rfl
    · next some_digit => simpa using some_digit
  rw [laid, Decimal.joinParts, filled, if_neg Bool.false_ne_true, String.toList_ofList]

/-- The digits of a number are written in two parts. -/
theorem exists_parts (some_digit : 0 < d.significand) : ∃ whole fraction,
    (Decimal.layOut .toml d).toList = whole ++ '.' :: fraction ∧ Parts whole fraction d := by
  obtain ⟨n, scale⟩ := d
  have laid {whole fraction : List Char} (h : Decimal.positional (Digits.ofNat n) ((Digits.ofNat n).length + scale) =
      (whole, fraction)) (parts : Parts whole (if fraction.isEmpty then ['0'] else fraction) ⟨n, scale⟩) :
      ∃ whole fraction, (Decimal.layOut .toml ⟨n, scale⟩).toList = whole ++ '.' :: fraction ∧
        Parts whole fraction ⟨n, scale⟩ := ⟨_, _, toList_layOut (d := ⟨n, scale⟩) h, parts⟩
  have filled : Digits.ofNat n ≠ [] := Nat.toDigits_ne_nil
  have pos : 0 < (Digits.ofNat n).length := List.length_pos_iff.2 filled
  unfold Decimal.positional at laid
  by_cases below : (Digits.ofNat n).length + scale ≤ 0
  · obtain ⟨k, rfl⟩ : ∃ k : Nat, scale = -((k + (Digits.ofNat n).length : Nat) : Int) :=
      ⟨(-(Digits.ofNat n).length - scale).toNat, by omega⟩
    rw [if_pos below] at laid
    refine laid rfl ?_
    have zeros : (-((Digits.ofNat n).length + -((k + (Digits.ofNat n).length : Nat) : Int))).toNat = k := by omega
    rw [if_neg (by simp [filled]), zeros]
    exact parts_below
  · rw [if_neg below] at laid
    dsimp only at laid
    by_cases above : (Digits.ofNat n).length ≤ ((Digits.ofNat n).length + scale).toNat
    · obtain ⟨k, rfl⟩ : ∃ k : Nat, scale = k := ⟨scale.toNat, by omega⟩
      rw [if_pos above] at laid
      refine laid rfl ?_
      rw [show ((Digits.ofNat n).length + (k : Int)).toNat - (Digits.ofNat n).length = k by omega]
      exact parts_above some_digit
    · obtain ⟨k, rfl⟩ : ∃ k : Nat, scale = (k : Int) - (Digits.ofNat n).length :=
        ⟨((Digits.ofNat n).length + scale).toNat, by omega⟩
      have point : ((Digits.ofNat n).length + ((k : Int) - (Digits.ofNat n).length)).toNat = k := by omega
      rw [if_neg above] at laid
      rw [point] at above
      refine laid rfl ?_
      rw [point, if_neg (by simpa using above)]
      exact parts_within (by omega) (Nat.not_le.1 above)

/-! ### Their value -/

/-- The digits of a double with a point between them are read as this double. -/
theorem fractional?_parts {b : Binary} (parts : Parts whole fraction d) (h : Binary.ofFloat? x = some b)
    (same : d.nearestBits = Binary.magnitudeBits b.mantissa b.exponent) (finite : Scalar.isFinite x = true)
    (signed : sign cs = (b.negative, whole ++ '.' :: fraction)) : fractional? cs = some (.number x, []) := by
  have digits : ∀ c ∈ whole ++ fraction, c.isDigit = true := digits_append parts.leading.digits parts.digits
  have behind : digits? Char.isDigit fraction = some (fraction, []) := by
    have read := digits?_digits parts.some_digit parts.digits (.inl rfl)
    rwa [List.append_nil] at read
  have value : Decimal.ofParts? b.negative whole fraction 0 = some x := by
    unfold Decimal.ofParts?
    rw [count?_digits (by simp [parts.some_digit]) digits, Int.zero_sub]
    exact congrArg some (Binary.nearest_of_nearestBits h (parts.value.trans same))
  unfold fractional?
  rw [decimal?_leading parts.leading (.inr ⟨_, rfl⟩) signed]
  simp only [bind, Option.bind, behind, exponent?, value, Float64.beq_infinity finite]
  rfl

theorem number?_parts {b : Binary} (parts : Parts whole fraction d) (h : Binary.ofFloat? x = some b)
    (same : d.nearestBits = Binary.magnitudeBits b.mantissa b.exponent) (finite : Scalar.isFinite x = true) :
    number? ((if b.negative then ['-'] else []) ++ (whole ++ '.' :: fraction)) = some (.number x, []) := by
  have first : ∀ c ∈ (whole ++ '.' :: fraction).head?, c.isDigit = true := by
    rw [List.head?_append_of_ne_nil _ parts.leading.some_digit]
    exact fun c hc => parts.leading.digits c (List.mem_of_mem_head? hc)
  have plain {c : Char} (mark : c.isDigit = false) (other : c ≠ '.') : c ∉ whole ++ '.' :: fraction := by
    rw [List.mem_append, List.mem_cons, not_or, not_or]
    exact ⟨notMem_digits parts.leading.digits mark, other, notMem_digits parts.digits mark⟩
  have signed : sign ((if b.negative then ['-'] else []) ++ (whole ++ '.' :: fraction)) =
      (b.negative, whole ++ '.' :: fraction) := by
    cases b.negative with
    | true => rfl
    | false => exact sign_digits first
  have moment : moment? ((if b.negative then ['-'] else []) ++ (whole ++ '.' :: fraction)) = none := by
    cases b.negative with
    | true => rfl
    | false => exact moment?_of_notMem (plain rfl (by decide)) (plain rfl (by decide))
  unfold number?
  rw [moment, special?_digits first signed, fractional?_parts parts h same finite signed]
  rfl

/-- A finite double is read back from its text. -/
theorem number?_text (finite : Scalar.isFinite x = true) :
    number? (Decimal.text .toml x).toList = some (.number x, []) := by
  obtain ⟨b, h⟩ := Float64.exists_ofFloat? finite
  have minus (text : String) : ((if b.negative then "-" else "") ++ text).toList =
      (if b.negative then ['-'] else []) ++ text.toList := by
    rw [String.toList_append]
    cases b.negative <;> rfl
  unfold Decimal.text
  rw [h]
  dsimp only
  split
  · next zero =>
    have same : (⟨0, 0⟩ : Digits).nearestBits = Binary.magnitudeBits b.mantissa b.exponent := by
      rw [Digits.nearestBits_zero, zero]
      rfl
    have text : (Decimal.joinParts ['0'] ['0']).toList = ['0'] ++ '.' :: ['0'] := String.toList_ofList
    rw [minus]
    show number? (_ ++ (Decimal.joinParts ['0'] ['0']).toList) = _
    rw [text]
    exact number?_parts parts_zero h same finite
  · next some_bit =>
    have shortest : Binary.shortest.reads b (b.shortest .away) = true := Binary.reads_shortest h some_bit
    obtain ⟨some_digit, same⟩ := Binary.of_reads shortest
    obtain ⟨whole, fraction, text, parts⟩ := exists_parts some_digit
    rw [minus]
    show number? (_ ++ (Decimal.layOut .toml (b.shortest .away)).toList) = _
    rw [text]
    exact number?_parts parts h same finite

end GateNav.Toml
