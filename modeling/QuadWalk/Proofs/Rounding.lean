import Mathlib.Algebra.Group.Int.Defs
import Mathlib.Algebra.Group.Nat.Defs
import QuadWalk.Numeric.Binary64

/-!
# Rounding keeps the order of integers

The double nearest to an integer is never above the double nearest to a larger one
(`Binary64.totalKey_ofInt_mono`, `Binary64.realKey_ofInt_mono`), and integers below `2 ^ 53` in size
have a double to themselves (`Binary64.realKey_ofInt_lt`).

A positive integer with its highest bit at `L` has `L + 1022` for its exponent and a significand
between `2 ^ 52` and `2 ^ 53`. So of two integers with one highest bit the significands tell which
one is larger, and of others the exponents do, even if the smaller integer is rounded up to the next
power of two.
-/

namespace QuadWalk.Binary64

/-! ### Division that rounds -/

variable {n m d k : Nat}

theorem div_le_divRound (n d : Nat) : n / d ≤ divRound n d := by
  unfold divRound
  simp only
  split
  · exact Nat.le_refl _
  · split <;> omega

theorem divRound_le_succ (n d : Nat) : divRound n d ≤ n / d + 1 := by
  unfold divRound
  simp only
  split
  · omega
  · split <;> omega

theorem divRound_mono (h : n ≤ m) : divRound n d ≤ divRound m d := by
  rcases Nat.lt_or_eq_of_le (Nat.div_le_div_right (c := d) h) with hq | hq
  · have hn := divRound_le_succ n d
    have hm := div_le_divRound m d
    omega
  · -- one quotient, so the remainders are in order
    have hr : n % d ≤ m % d := by
      have hn := Nat.div_add_mod n d
      have hm := Nat.div_add_mod m d
      rw [hq] at hn
      omega
    unfold divRound
    simp only [hq]
    split
    · split
      · exact Nat.le_refl _
      · split <;> omega
    · have hlow : ¬ 2 * (m % d) < d := by omega
      rw [if_neg hlow]
      split
      · have hhigh : d < 2 * (m % d) := by omega
        exact Nat.le_of_eq (if_pos hhigh).symm
      · split <;> omega

theorem divRound_mul_self (k : Nat) (hd : 0 < d) : divRound (k * d) d = k := by
  simp [divRound, Nat.mul_div_cancel k hd, hd]

theorem le_divRound (hd : 0 < d) (h : k * d ≤ n) : k ≤ divRound n d :=
  Nat.le_trans ((Nat.le_div_iff_mul_le hd).2 h) (div_le_divRound n d)

theorem divRound_le (hd : 0 < d) (h : n ≤ k * d) : divRound n d ≤ k := by
  have hmono := divRound_mono (d := d) h
  rwa [divRound_mul_self k hd] at hmono

/-! ### The magnitude of a natural number -/

/-- The significand of a positive natural number. -/
def significand (n : Nat) : Nat := divRound (n * 2 ^ (52 - n.log2)) (2 ^ (n.log2 - 52))

theorem roundRatio_one (hn : n ≠ 0) :
    roundRatio n 1 = min infinityMagnitude ((n.log2 + 1022) * exponentWeight + significand n) := by
  have hlog : floorLog n 1 = n.log2 := by
    have h1 : Nat.log2 1 = 0 := by decide
    have hle : 2 ^ n.log2 ≤ n := Nat.log2_self_le hn
    simp [floorLog, h1, Nat.not_lt.2 hle]
  have hmax : max (n.log2 : Int) (-1022) = n.log2 := by omega
  have hexponent : ((n.log2 : Int) + 1022).toNat = n.log2 + 1022 := by omega
  have hup : (52 - (n.log2 : Int)).toNat = 52 - n.log2 := by omega
  have hdown : (-(52 - (n.log2 : Int))).toNat = n.log2 - 52 := by omega
  simp only [roundRatio, hn, if_false, hlog, hmax, hexponent, hup, hdown, Nat.one_mul]
  rfl

theorem le_significand (hn : n ≠ 0) : exponentWeight ≤ significand n := by
  refine le_divRound (Nat.two_pow_pos _) ?_
  calc exponentWeight * 2 ^ (n.log2 - 52)
      = 2 ^ (52 + (n.log2 - 52)) := by rw [Nat.pow_add]; rfl
    _ = 2 ^ (n.log2 + (52 - n.log2)) := by congr 1; omega
    _ = 2 ^ n.log2 * 2 ^ (52 - n.log2) := Nat.pow_add ..
    _ ≤ n * 2 ^ (52 - n.log2) := Nat.mul_le_mul_right _ (Nat.log2_self_le hn)

theorem lt_two_mul_exponentWeight (n : Nat) :
    n * 2 ^ (52 - n.log2) < 2 * exponentWeight * 2 ^ (n.log2 - 52) :=
  calc n * 2 ^ (52 - n.log2)
      < 2 ^ (n.log2 + 1) * 2 ^ (52 - n.log2) :=
        Nat.mul_lt_mul_of_pos_right Nat.lt_log2_self (Nat.two_pow_pos _)
    _ = 2 ^ (n.log2 + 1 + (52 - n.log2)) := (Nat.pow_add ..).symm
    _ = 2 ^ (53 + (n.log2 - 52)) := by congr 1; omega
    _ = 2 * exponentWeight * 2 ^ (n.log2 - 52) := by rw [Nat.pow_add]; rfl

theorem significand_le (n : Nat) : significand n ≤ 2 * exponentWeight :=
  divRound_le (Nat.two_pow_pos _) (Nat.le_of_lt (lt_two_mul_exponentWeight n))

/-- Below `2 ^ 53`, nothing is rounded off. -/
theorem significand_of_log2_le (h : n.log2 ≤ 52) : significand n = n * 2 ^ (52 - n.log2) := by
  have hshift : n.log2 - 52 = 0 := by omega
  have hexact := divRound_mul_self (n * 2 ^ (52 - n.log2)) Nat.one_pos
  rw [Nat.mul_one] at hexact
  rw [significand, hshift, Nat.pow_zero, hexact]

theorem log2_mono (h : n ≤ m) : n.log2 ≤ m.log2 := by
  by_cases hn : n = 0
  · simp [hn]
  · exact (Nat.le_log2 (by omega)).2 (Nat.le_trans (Nat.log2_self_le hn) h)

theorem roundRatio_le (n : Nat) : roundRatio n 1 ≤ infinityMagnitude := by
  by_cases hn : n = 0
  · simp [roundRatio, hn]
  · rw [roundRatio_one hn]
    exact Nat.min_le_left ..

/-- The weight of the exponent of one natural number and that of another one with a higher bit. -/
theorem weight_le {L L' : Nat} (h : L < L') :
    (L + 1022) * exponentWeight + exponentWeight ≤ (L' + 1022) * exponentWeight := by
  rw [← Nat.succ_mul]
  exact Nat.mul_le_mul_right _ (by omega)

/-- A larger natural number does not have a smaller magnitude. -/
theorem roundRatio_mono (h : n ≤ m) : roundRatio n 1 ≤ roundRatio m 1 := by
  by_cases hn : n = 0
  · simp [roundRatio, hn]
  have hm : m ≠ 0 := by omega
  rw [roundRatio_one hn, roundRatio_one hm]
  have hsum : (n.log2 + 1022) * exponentWeight + significand n ≤
      (m.log2 + 1022) * exponentWeight + significand m := by
    rcases Nat.lt_or_eq_of_le (log2_mono h) with hlog | hlog
    · have hlow := significand_le n
      have hhigh := le_significand hm
      have hweight := weight_le hlog
      omega
    · have hsig : significand n ≤ significand m := by
        unfold significand
        rw [← hlog]
        exact divRound_mono (Nat.mul_le_mul_right _ h)
      rw [hlog]
      omega
  omega

/-- A natural number below `2 ^ 53` has a smaller magnitude than every larger one. -/
theorem roundRatio_lt (h : n < m) (hn : n < 2 ^ 53) : roundRatio n 1 < roundRatio m 1 := by
  have hm : m ≠ 0 := by omega
  have hhigh := le_significand hm
  have hpos : 0 < exponentWeight := by decide
  by_cases h0 : n = 0
  · have hzero : roundRatio n 1 = 0 := by simp [roundRatio, h0]
    have hfinite : 0 < infinityMagnitude := by decide
    rw [hzero, roundRatio_one hm]
    exact Nat.lt_min.2 ⟨hfinite, by omega⟩
  have hlog52 : n.log2 ≤ 52 := by
    have := (Nat.log2_lt h0).2 hn
    omega
  have hlow : significand n < 2 * exponentWeight := by
    have hlt := lt_two_mul_exponentWeight n
    rw [show n.log2 - 52 = 0 by omega, Nat.pow_zero, Nat.mul_one] at hlt
    rwa [significand_of_log2_le hlog52]
  have hfinite : (n.log2 + 1022) * exponentWeight + significand n < infinityMagnitude := by
    have hweight : (n.log2 + 1022) * exponentWeight ≤ 1074 * exponentWeight :=
      Nat.mul_le_mul_right _ (by omega)
    unfold infinityMagnitude
    omega
  have hsum : (n.log2 + 1022) * exponentWeight + significand n <
      (m.log2 + 1022) * exponentWeight + significand m := by
    rcases Nat.lt_or_eq_of_le (log2_mono (Nat.le_of_lt h)) with hlog | hlog
    · have hweight := weight_le hlog
      omega
    · have hsig : significand n < significand m := by
        rw [significand_of_log2_le hlog52, significand_of_log2_le (hlog ▸ hlog52), ← hlog]
        exact Nat.mul_lt_mul_of_pos_right h (Nat.two_pow_pos _)
      rw [hlog]
      omega
  rw [roundRatio_one h0, roundRatio_one hm]
  exact Nat.lt_of_le_of_lt (Nat.min_le_right ..) (Nat.lt_min.2 ⟨hfinite, hsum⟩)

/-! ### The double nearest to an integer -/

variable {i j : Int} {magnitude : Nat}

theorem toNat_bits_ofMagnitude (negative : Bool) (h : magnitude ≤ infinityMagnitude) :
    (ofMagnitude negative magnitude).bits.toNat = magnitude + if negative then signWeight else 0 := by
  have hinf : infinityMagnitude < signWeight := by decide
  have hword : signWeight + signWeight = 2 ^ 64 := by decide
  rw [ofMagnitude, UInt64.toNat_ofNat']
  refine Nat.mod_eq_of_lt ?_
  rw [← hword]
  split <;> omega

theorem magnitude_ofMagnitude (negative : Bool) (h : magnitude ≤ infinityMagnitude) :
    (ofMagnitude negative magnitude).magnitude = magnitude := by
  have hinf : infinityMagnitude < signWeight := by decide
  rw [Binary64.magnitude, toNat_bits_ofMagnitude negative h]
  split
  · rw [Nat.add_mod_right, Nat.mod_eq_of_lt (by omega)]
  · exact Nat.mod_eq_of_lt (by omega)

theorem isNegative_ofMagnitude (negative : Bool) (h : magnitude ≤ infinityMagnitude) :
    (ofMagnitude negative magnitude).isNegative = negative := by
  have hinf : infinityMagnitude < signWeight := by decide
  rw [isNegative, toNat_bits_ofMagnitude negative h]
  cases negative with
  | false => exact decide_eq_false (by simp only [Bool.false_eq_true, if_false]; omega)
  | true => exact decide_eq_true (by simp only [if_true]; omega)

/-- No integer is rounded to a not-a-number. -/
theorem isNaN_ofInt (i : Int) : (ofInt i).isNaN = false := by
  rw [isNaN, ofInt, magnitude_ofMagnitude _ (roundRatio_le _)]
  exact decide_eq_false (Nat.not_lt.2 (roundRatio_le _))

theorem totalKey_ofInt (i : Int) :
    (ofInt i).totalKey =
      if i < 0 then -1 - (roundRatio i.natAbs 1 : Int) else roundRatio i.natAbs 1 := by
  simp [totalKey, ofInt, isNegative_ofMagnitude, magnitude_ofMagnitude, roundRatio_le]

theorem realKey_ofInt (i : Int) :
    (ofInt i).realKey =
      if i < 0 then -(roundRatio i.natAbs 1 : Int) else roundRatio i.natAbs 1 := by
  simp [realKey, ofInt, isNegative_ofMagnitude, magnitude_ofMagnitude, roundRatio_le]

/-- **Rounding is monotone** in the total order of doubles. -/
theorem totalKey_ofInt_mono (h : i ≤ j) : (ofInt i).totalKey ≤ (ofInt j).totalKey := by
  rw [totalKey_ofInt, totalKey_ofInt]
  by_cases hi : i < 0
  · by_cases hj : j < 0
    · have hmono : roundRatio j.natAbs 1 ≤ roundRatio i.natAbs 1 := roundRatio_mono (by omega)
      rw [if_pos hi, if_pos hj]
      omega
    · rw [if_pos hi, if_neg hj]
      omega
  · have hmono : roundRatio i.natAbs 1 ≤ roundRatio j.natAbs 1 := roundRatio_mono (by omega)
    rw [if_neg hi, if_neg (by omega)]
    omega

/-- **Rounding is monotone** in the order of real numbers. -/
theorem realKey_ofInt_mono (h : i ≤ j) : (ofInt i).realKey ≤ (ofInt j).realKey := by
  rw [realKey_ofInt, realKey_ofInt]
  by_cases hi : i < 0
  · by_cases hj : j < 0
    · have hmono : roundRatio j.natAbs 1 ≤ roundRatio i.natAbs 1 := roundRatio_mono (by omega)
      rw [if_pos hi, if_pos hj]
      omega
    · rw [if_pos hi, if_neg hj]
      omega
  · have hmono : roundRatio i.natAbs 1 ≤ roundRatio j.natAbs 1 := roundRatio_mono (by omega)
    rw [if_neg hi, if_neg (by omega)]
    omega

/-- Two integers have one double only if both are at least `2 ^ 53` in size, on one side of zero. -/
theorem realKey_ofInt_lt (h : i < j) (hsize : i < 2 ^ 53) (hsize' : -2 ^ 53 < j) :
    (ofInt i).realKey < (ofInt j).realKey := by
  rw [realKey_ofInt, realKey_ofInt]
  by_cases hi : i < 0
  · by_cases hj : j < 0
    · have hlt : roundRatio j.natAbs 1 < roundRatio i.natAbs 1 :=
        roundRatio_lt (by omega) (by omega)
      rw [if_pos hi, if_pos hj]
      omega
    · have hlt : roundRatio 0 1 < roundRatio i.natAbs 1 := roundRatio_lt (by omega) (by omega)
      rw [if_pos hi, if_neg hj]
      omega
  · have hlt : roundRatio i.natAbs 1 < roundRatio j.natAbs 1 := roundRatio_lt (by omega) (by omega)
    rw [if_neg hi, if_neg (by omega)]
    omega

end QuadWalk.Binary64
