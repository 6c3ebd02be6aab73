import Mathlib
import GateNav.Decimal.Layout

/-!
# Doubles read back from their digits

The double nearest to a fraction depends on the value of the fraction only (`Binary.quotientBits_mul`). So all digits of
a double are read as this double, and so are its shortest ones, which are taken because they are
(`Binary.reads_shortest`), with as many zeros behind them as are wanted (`Digits.nearestBits_zeros`).
-/

namespace GateNav

namespace Binary
variable {num den c n m k : Nat} {e : Int}

/-! ### Fractions -/

theorem two_zpow_le_iff (hd : 0 < den) :
    (2 : ℚ) ^ e ≤ (num : ℚ) / den ↔ den <<< e.toNat ≤ num <<< (-e).toNat := by
  rw [le_div_iff₀ (by exact_mod_cast hd), Nat.shiftLeft_eq, Nat.shiftLeft_eq]
  rcases Int.eq_nat_or_neg e with ⟨k, rfl | rfl⟩
  · rw [zpow_natCast, Int.toNat_natCast, show (-(k : Int)).toNat = 0 by omega, pow_zero, mul_one, mul_comm]
    exact_mod_cast Iff.rfl
  · rw [zpow_neg, zpow_natCast, neg_neg, Int.toNat_natCast, show (-(k : Int)).toNat = 0 by omega, pow_zero, mul_one,
      inv_mul_le_iff₀ (by positivity), mul_comm]
    exact_mod_cast Iff.rfl

theorem floorLog_eq_log (hn : 0 < num) (hd : 0 < den) : floorLog num den = Int.log 2 ((num : ℚ) / den) := by
  have num_pos : (0 : ℚ) < num := by exact_mod_cast hn
  have den_pos : (0 : ℚ) < den := by exact_mod_cast hd
  have pos : (0 : ℚ) < (num : ℚ) / den := div_pos num_pos den_pos
  have two : (2 : ℚ) ≠ 0 := by norm_num
  have num_low : (2 : ℚ) ^ (num.log2 : Int) ≤ num := by exact_mod_cast Nat.log2_self_le hn.ne'
  have num_high : (num : ℚ) < 2 ^ ((num.log2 : Int) + 1) := by exact_mod_cast Nat.lt_log2_self (n := num)
  have den_low : (2 : ℚ) ^ (den.log2 : Int) ≤ den := by exact_mod_cast Nat.log2_self_le hd.ne'
  have den_high : (den : ℚ) < 2 ^ ((den.log2 : Int) + 1) := by exact_mod_cast Nat.lt_log2_self (n := den)
  have between {p : Int} (low : (2 : ℚ) ^ p ≤ num / den) (high : (num : ℚ) / den < 2 ^ (p + 1)) :
      p = Int.log 2 ((num : ℚ) / den) :=
    le_antisymm ((Int.zpow_le_iff_le_log (b := 2) one_lt_two pos).1 low)
      (Int.lt_add_one_iff.1 ((Int.lt_zpow_iff_log_lt (b := 2) one_lt_two pos).1 high))
  unfold floorLog
  dsimp only
  split
  · next low =>
    refine between ((two_zpow_le_iff hd).2 low) ((div_lt_iff₀ den_pos).2 (num_high.trans_le ?_))
    generalize hp : (num.log2 : Int) - den.log2 = p
    rw [show (num.log2 : Int) + 1 = p + 1 + den.log2 by omega, zpow_add₀ two]
    exact mul_le_mul_of_nonneg_left den_low (by positivity)
  · next high =>
    rw [← two_zpow_le_iff hd, not_le] at high
    refine between ((le_div_iff₀ den_pos).2 (le_trans ?_ num_low)) (by rwa [sub_add_cancel])
    generalize hp : (num.log2 : Int) - den.log2 - 1 = p
    rw [show (num.log2 : Int) = p + ((den.log2 : Int) + 1) by omega, zpow_add₀ two]
    exact mul_le_mul_of_nonneg_left den_high.le (by positivity)

theorem floorLog_mul (hc : 0 < c) (hn : 0 < num) (hd : 0 < den) : floorLog (c * num) (c * den) = floorLog num den := by
  have factor : (c : ℚ) ≠ 0 := by exact_mod_cast hc.ne'
  rw [floorLog_eq_log (Nat.mul_pos hc hn) (Nat.mul_pos hc hd), floorLog_eq_log hn hd, Nat.cast_mul, Nat.cast_mul,
    mul_div_mul_left _ _ factor]

theorem divRound_mul (hc : 0 < c) : divRound (c * num) (c * den) = divRound num den := by
  have less (a b : Nat) : 2 * (c * a) < c * b ↔ 2 * a < b := by
    rw [Nat.mul_left_comm, Nat.mul_lt_mul_left hc]
  have more (a b : Nat) : c * b < 2 * (c * a) ↔ b < 2 * a := by
    rw [Nat.mul_left_comm, Nat.mul_lt_mul_left hc]
  unfold divRound Tie.nearest
  simp only [Nat.mul_div_mul_left _ _ hc, Nat.mul_mod_mul_left, less, more]

/-- A fraction is rounded by its value, whatever its terms. -/
theorem quotientBits_mul (hc : 0 < c) (hd : 0 < den) : quotientBits (c * num) (c * den) = quotientBits num den := by
  unfold quotientBits
  by_cases zero : num = 0
  · rw [if_pos zero, if_pos (by rw [zero, Nat.mul_zero])]
  · rw [if_neg zero, if_neg (Nat.mul_ne_zero hc.ne' zero), floorLog_mul hc (Nat.pos_of_ne_zero zero) hd]
    simp only [Nat.shiftLeft_eq, Nat.mul_assoc, divRound_mul hc]

/-! ### Multiples of powers of two -/

theorem divRound_one : divRound n 1 = n := by
  unfold divRound Tie.nearest
  rw [Nat.mod_one, Nat.div_one]
  rfl

theorem divRound_two_pow : divRound n (2 ^ k) = shiftRound n k := by
  have rest : n - (n >>> k) <<< k = n % 2 ^ k := by
    rw [Nat.shiftRight_eq_div_pow, Nat.shiftLeft_eq, Nat.mul_comm, Nat.sub_eq_iff_eq_add' (Nat.mul_div_le _ _)]
    exact (Nat.div_add_mod _ _).symm
  unfold divRound Tie.nearest shiftRound
  dsimp only
  rw [rest, Nat.shiftRight_eq_div_pow, Nat.one_shiftLeft]
  generalize n % 2 ^ k = rest
  rcases Nat.lt_trichotomy (2 * rest) (2 ^ k) with less | same | more
  · rw [if_pos less, if_neg (by omega), if_neg (by omega)]
  · rw [if_neg (by omega), if_neg (by omega), if_neg (by omega), if_pos same]
  · rw [if_neg (by omega), if_pos more, if_pos more]

theorem floorLog_two_pow (hm : m ≠ 0) : floorLog (m * 2 ^ n) (2 ^ k) = (m.log2 : Int) + n - k := by
  have shifted : (m * 2 ^ n).log2 = m.log2 + n := by
    refine Nat.le_antisymm (Nat.lt_succ_iff.1 ((Nat.log2_lt (by positivity)).2 ?_))
      ((Nat.le_log2 (by positivity)).2 ?_)
    · rw [Nat.succ_eq_add_one, Nat.add_right_comm, Nat.pow_add]
      exact Nat.mul_lt_mul_of_pos_right Nat.lt_log2_self (by positivity)
    · rw [Nat.pow_add]
      exact Nat.mul_le_mul_right _ (Nat.log2_self_le hm)
  unfold floorLog
  dsimp only
  rw [shifted, Nat.log2_two_pow, if_pos]
  · omega
  · generalize he : ((m.log2 + n : Nat) : Int) - (k : Int) = e
    rw [Nat.shiftLeft_eq, Nat.shiftLeft_eq, ← Nat.pow_add, Nat.mul_assoc, ← Nat.pow_add,
      show k + e.toNat = m.log2 + (n + (-e).toNat) by omega, Nat.pow_add]
    exact Nat.mul_le_mul_right _ (Nat.log2_self_le hm)

/-- The two ways to round a number agree where both apply. -/
theorem quotientBits_two_pow : quotientBits (m * 2 ^ e.toNat) (2 ^ (-e).toNat) = magnitudeBits m e := by
  unfold quotientBits magnitudeBits
  by_cases zero : m = 0
  · rw [if_pos zero, if_pos (by rw [zero, Nat.zero_mul])]
  · rw [if_neg zero, if_neg (by positivity), floorLog_two_pow zero,
      show (m.log2 : Int) + e.toNat - (-e).toNat - 52 = e + m.log2 - 52 by omega]
    generalize max minExponent (e + m.log2 - 52) = target
    have scaled : divRound ((m * 2 ^ e.toNat) <<< (-target).toNat) (2 ^ (-e).toNat <<< target.toNat) =
        if target ≤ e then m <<< (e - target).toNat else shiftRound m (target - e).toNat := by
      rw [Nat.shiftLeft_eq, Nat.shiftLeft_eq, Nat.shiftLeft_eq, Nat.mul_assoc, ← Nat.pow_add, ← Nat.pow_add]
      split
      · generalize hk : (-e).toNat + target.toNat = k
        rw [show e.toNat + (-target).toNat = k + (e - target).toNat by omega, Nat.pow_add, Nat.mul_left_comm]
        have whole : divRound (2 ^ k * (m * 2 ^ (e - target).toNat)) (2 ^ k * 1) = divRound _ 1 :=
          divRound_mul (Nat.two_pow_pos k)
        rwa [Nat.mul_one, divRound_one] at whole
      · generalize hk : e.toNat + (-target).toNat = k
        rw [show (-e).toNat + target.toNat = k + (target - e).toNat by omega, Nat.pow_add, Nat.mul_comm m,
          divRound_mul (Nat.two_pow_pos k), divRound_two_pow]
    dsimp only
    rw [scaled]

/-! ### Parts of doubles -/

section Parts
variable {x : Float} {b : Binary} {field fraction : Nat}

theorem magnitudeBits_least (h : fraction < fractions) : magnitudeBits fraction minExponent = fraction := by
  unfold magnitudeBits
  by_cases zero : fraction = 0
  · rw [if_pos zero, zero]
  · have log : fraction.log2 < 52 := (Nat.log2_lt zero).2 h
    have target : max minExponent (minExponent + fraction.log2 - 52) = minExponent := max_eq_left (by omega)
    rw [if_neg zero, target]
    dsimp only
    rw [if_pos le_rfl, Int.sub_self, Int.toNat_zero, Nat.zero_mul, Nat.zero_add, Nat.shiftLeft_zero]
    exact min_eq_left (h.le.trans (by decide))

theorem magnitudeBits_normal (h : fraction < fractions) (low : field ≠ 0) (high : field < fields - 1) :
    magnitudeBits (fractions + fraction) (minExponent + (field - 1 : Nat)) = field * fractions + fraction := by
  have some_bit : fractions + fraction ≠ 0 := Nat.ne_of_gt (Nat.add_pos_left (by decide) _)
  have log : (fractions + fraction).log2 = 52 := by
    refine Nat.le_antisymm (Nat.lt_succ_iff.1 ((Nat.log2_lt some_bit).2 ?_)) ((Nat.le_log2 some_bit).2 ?_)
    · show _ < fractions + fractions
      omega
    · exact Nat.le_add_right _ _
  unfold magnitudeBits
  rw [if_neg some_bit, log]
  generalize hq : minExponent + ((field - 1 : Nat) : Int) = q
  have target : max minExponent (q + (52 : Nat) - 52) = q := by omega
  have place : (q - minExponent).toNat = field - 1 := by omega
  rw [target]
  dsimp only
  rw [if_pos le_rfl, Int.sub_self, Int.toNat_zero, Nat.shiftLeft_zero, place]
  unfold fields at high
  unfold fields fractions at *
  omega

/-- The fields of a word. -/
theorem fields_eq {n : Nat} (word : n < 2 * signBit) :
    n = (if n ≥ signBit then signBit else 0) + (n / fractions % fields * fractions + n % fractions) := by
  unfold signBit fields fractions at *
  split <;> omega

/-- What the parts of a double can be, and how they are laid side by side. -/
theorem of_ofFloat? (h : ofFloat? x = some b) :
    b.mantissa < 2 ^ 53 ∧ minExponent ≤ b.exponent ∧ b.exponent < 1000 ∧
      x.toBits.toNat = if b.negative then signBit + magnitudeBits b.mantissa b.exponent
        else magnitudeBits b.mantissa b.exponent := by
  have fraction_lt : x.toBits.toNat % fractions < fractions := Nat.mod_lt _ (by decide)
  have field_lt : x.toBits.toNat / fractions % fields < fields := Nat.mod_lt _ (by decide)
  have laid := fields_eq x.toBits.toNat_lt
  have parts {q : Int} {m : Nat} (same : magnitudeBits m q = x.toBits.toNat / fractions % fields * fractions +
      x.toBits.toNat % fractions) : x.toBits.toNat =
        if decide (x.toBits.toNat ≥ signBit) then signBit + magnitudeBits m q else magnitudeBits m q := by
    rw [same]
    split
    · next negative => rwa [if_pos (of_decide_eq_true negative)] at laid
    · next positive => rwa [if_neg (by simpa using positive), Nat.zero_add] at laid
  unfold ofFloat? at h
  dsimp only at h
  split at h
  · cases h
  · next other =>
    split at h
    · next least =>
      cases h
      rw [least, Nat.zero_mul, Nat.zero_add] at parts
      refine ⟨fraction_lt.trans (by decide), le_rfl, ?_, parts (magnitudeBits_least fraction_lt)⟩
      show minExponent < 1000
      decide
    · next normal =>
      have high : x.toBits.toNat / fractions % fields < fields - 1 := by
        unfold fields at *
        omega
      cases h
      refine ⟨?_, ?_, ?_, parts (magnitudeBits_normal fraction_lt normal high)⟩
      · show fractions + _ < fractions + fractions
        exact Nat.add_lt_add_left fraction_lt _
      · exact le_add_of_nonneg_right (Int.natCast_nonneg _)
      · dsimp only
        unfold minExponent fields at *
        omega

/-- A double is the nearest one to its own bits. -/
theorem nearest_of_nearestBits {d : Digits} (h : ofFloat? x = some b)
    (same : d.nearestBits = magnitudeBits b.mantissa b.exponent) : Decimal.nearest b.negative d = x := by
  obtain ⟨-, -, -, bits⟩ := of_ofFloat? h
  unfold Decimal.nearest
  rw [same, ← bits, UInt64.ofNat_toNat, Float.ofBits_toBits]

end Parts

end Binary

/-! ### Digits -/

namespace Digits
variable {n k : Nat} {s : Int} {d : Digits}

theorem ofNat_zeros (hn : 0 < n) : ofNat (n * 10 ^ k) = ofNat n ++ List.replicate k '0' := by
  induction k with
  | zero => simp
  | succ k ih =>
    have pos : 0 < n * 10 ^ k := by positivity
    have last := Nat.toDigits_append_toDigits (d := 0) (b := 10) (by decide) pos (by decide)
    have zero : ofNat (n * 10 ^ (k + 1)) = ofNat (n * 10 ^ k) ++ ['0'] := by
      rw [Nat.pow_succ, ← Nat.mul_assoc, Nat.mul_comm _ 10]
      exact last.symm
    rw [zero, ih, List.append_assoc, List.replicate_succ']

theorem nearestBits_zero : (⟨0, s⟩ : Digits).nearestBits = 0 := by
  unfold nearestBits
  exact if_pos (by simp)

/-- Zeros behind the digits make no difference. -/
theorem nearestBits_zeros : (⟨n * 10 ^ k, s - k⟩ : Digits).nearestBits = (⟨n, s⟩ : Digits).nearestBits := by
  rcases Nat.eq_zero_or_pos n with rfl | hn
  · rw [Nat.zero_mul, nearestBits_zero, nearestBits_zero]
  have magnitude : (⟨n * 10 ^ k, s - k⟩ : Digits).magnitude = (⟨n, s⟩ : Digits).magnitude := by
    simp only [Digits.magnitude, ofNat_zeros hn, List.length_append, List.length_replicate]
    omega
  have value : Binary.quotientBits (n * 10 ^ k * 10 ^ (s - k).toNat) (10 ^ (-(s - k)).toNat) =
      Binary.quotientBits (n * 10 ^ s.toNat) (10 ^ (-s).toNat) := by
    generalize hj : (-(s - k)).toNat - (-s).toNat = j
    rw [Nat.mul_assoc, ← Nat.pow_add, show k + (s - k).toNat = j + s.toNat by omega,
      show (-(s - k)).toNat = j + (-s).toNat by omega, Nat.pow_add, Nat.pow_add, Nat.mul_left_comm]
    exact Binary.quotientBits_mul (by positivity) (by positivity)
  have some_digit : (n * 10 ^ k = 0) = (n = 0) := by simp
  unfold nearestBits
  rw [magnitude]
  simp only [Nat.pow_eq, value, some_digit]

/-- Between these bounds the digits are rounded as a fraction. -/
theorem nearestBits_eq (hn : 0 < d.significand) (low : -400 ≤ d.magnitude) (high : d.magnitude ≤ 400) :
    d.nearestBits = Binary.quotientBits (d.significand * 10 ^ d.scale.toNat) (10 ^ (-d.scale).toNat) := by
  unfold nearestBits
  rw [if_neg (by simp only [Bool.or_eq_true, decide_eq_true_eq, not_or]; omega), if_neg (by omega), Nat.pow_eq,
    Nat.pow_eq]

theorem magnitude_le {j : Nat} (hj : 0 < j) (h : d.significand < 10 ^ j) : d.magnitude ≤ j + d.scale := by
  have length : (ofNat d.significand).length ≤ j := (Nat.length_toDigits_le_iff (by decide) hj).2 h
  unfold magnitude
  omega

theorem lt_magnitude {j : Nat} (h : 10 ^ j ≤ d.significand) : j + d.scale < d.magnitude := by
  have length : j < (ofNat d.significand).length := by
    by_contra short
    rcases Nat.eq_zero_or_pos j with rfl | some_digit
    · exact short Nat.length_toDigits_pos
    · exact absurd ((Nat.length_toDigits_le_iff (by decide) some_digit).1 (Nat.not_lt.1 short)) (Nat.not_lt.2 h)
  unfold magnitude
  omega

end Digits

/-! ### Digits of doubles -/

namespace Binary
variable {x : Float} {b : Binary} {tie : Tie} {m k : Nat} {e : Int}

theorem ten_pow_le {k c : Nat} (h : k ≤ 3 * c) : 10 ^ (k - c) ≤ 5 ^ k := by
  rcases Nat.le_total k c with short | long
  · rw [Nat.sub_eq_zero_of_le short]
    exact Nat.one_le_pow _ _ (by decide)
  · have twos : 2 ^ (k - c) ≤ 5 ^ c :=
      calc 2 ^ (k - c) ≤ 2 ^ (2 * c) := Nat.pow_le_pow_right (by decide) (by omega)
        _ = 4 ^ c := Nat.pow_mul 2 2 c
        _ ≤ 5 ^ c := Nat.pow_le_pow_left (by decide) c
    calc 10 ^ (k - c) = 2 ^ (k - c) * 5 ^ (k - c) := Nat.mul_pow 2 5 _
      _ ≤ 5 ^ c * 5 ^ (k - c) := Nat.mul_le_mul_right _ twos
      _ = 5 ^ k := by rw [← Nat.pow_add, Nat.add_sub_cancel' long]

theorem nearestBits_of_whole (pos : 0 < m) (small : m < 2 ^ 53) (whole : 0 ≤ e) (high : e < 1000) :
    Digits.nearestBits ⟨m * 2 ^ e.toNat, 0⟩ = magnitudeBits m e := by
  have bound : m * 2 ^ e.toNat < 10 ^ 400 := by
    calc m * 2 ^ e.toNat < 2 ^ 53 * 2 ^ 1000 :=
          Nat.mul_lt_mul_of_lt_of_le small (Nat.pow_le_pow_right (by decide) (by omega)) (by positivity)
      _ < 10 ^ 400 := by decide +kernel
  rw [Digits.nearestBits_eq (by positivity)]
  · show quotientBits (m * 2 ^ e.toNat * 1) 1 = _
    rw [Nat.mul_one, ← quotientBits_two_pow, show (-e).toNat = 0 by omega, Nat.pow_zero]
  · exact le_trans (by decide) (Int.natCast_nonneg _)
  · exact Digits.magnitude_le (by decide) bound

theorem nearestBits_of_fraction (pos : 0 < m) (small : m < 2 ^ 53) (few : k ≤ 1074) :
    Digits.nearestBits ⟨m * 5 ^ k, -k⟩ = magnitudeBits m (-k) := by
  have low : 10 ^ (k - 401) ≤ m * 5 ^ k := le_trans (ten_pow_le (by omega)) (Nat.le_mul_of_pos_left _ pos)
  have high : m * 5 ^ k < 10 ^ (100 + k) := by
    rw [Nat.pow_add]
    exact Nat.mul_lt_mul_of_lt_of_le (small.trans (by decide +kernel)) (Nat.pow_le_pow_left (by decide) k)
      (by positivity)
  have none : (-(k : Int)).toNat = 0 := by omega
  rw [Digits.nearestBits_eq (by positivity)]
  · dsimp only
    rw [none, neg_neg, Int.toNat_natCast, Nat.pow_zero, Nat.mul_one, ← quotientBits_two_pow, none, neg_neg,
      Int.toNat_natCast, Nat.pow_zero, Nat.mul_one, Nat.mul_comm, show 10 ^ k = 5 ^ k * 2 ^ k from Nat.mul_pow 5 2 k]
    exact quotientBits_mul (by positivity) (by positivity)
  · have above : (k - 401 : Nat) + (-k : Int) < Digits.magnitude ⟨m * 5 ^ k, -k⟩ := Digits.lt_magnitude low
    omega
  · have below : Digits.magnitude ⟨m * 5 ^ k, -k⟩ ≤ (100 + k : Nat) + (-k : Int) :=
      Digits.magnitude_le (by omega) high
    omega

/-- All digits of a double are read as this double. -/
theorem reads_allDigits (h : ofFloat? x = some b) (some_bit : b.mantissa ≠ 0) :
    shortest.reads b b.allDigits = true := by
  obtain ⟨small, low, high, -⟩ := of_ofFloat? h
  have pos := Nat.pos_of_ne_zero some_bit
  unfold shortest.reads allDigits
  rw [Bool.and_eq_true, bne_iff_ne, beq_iff_eq, Nat.shiftLeft_eq, Nat.pow_eq]
  split
  · next whole => exact ⟨by positivity, nearestBits_of_whole pos small whole high⟩
  · next fraction =>
    obtain ⟨k, hk⟩ : ∃ k : Nat, b.exponent = -k := ⟨(-b.exponent).toNat, by omega⟩
    unfold minExponent at low
    rw [hk, neg_neg, Int.toNat_natCast]
    exact ⟨by positivity, nearestBits_of_fraction pos small (by omega)⟩

theorem reads_or {d other : Digits} (h : shortest.reads b other = true) :
    shortest.reads b (if shortest.reads b d then d else other) = true := by
  split
  · assumption
  · exact h

theorem reads_search (all : shortest.reads b b.allDigits = true) {fuel count : Nat} :
    shortest.reads b (shortest.search tie b fuel count) = true := by
  induction fuel generalizing count with
  | zero => exact all
  | succ fuel ih =>
    unfold shortest.search
    exact reads_or (reads_or ih)

/-- The shortest digits of a double are read as this double. -/
theorem reads_shortest (h : ofFloat? x = some b) (some_bit : b.mantissa ≠ 0) :
    shortest.reads b (b.shortest tie) = true := reads_search (reads_allDigits h some_bit)

theorem of_reads {d : Digits} (h : shortest.reads b d = true) :
    0 < d.significand ∧ d.nearestBits = magnitudeBits b.mantissa b.exponent := by
  unfold shortest.reads at h
  rw [Bool.and_eq_true, bne_iff_ne, beq_iff_eq] at h
  exact ⟨Nat.pos_of_ne_zero h.1, h.2⟩

end Binary

end GateNav
