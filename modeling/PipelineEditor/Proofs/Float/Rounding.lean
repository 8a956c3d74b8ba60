import Mathlib
import PipelineEditor.Proofs.Binary64

/-! Rounding to nearest, ties to even, read off the logical model of binary64. -/

namespace PipelineEditor

namespace Binary64

open Float.Model Float.Model.UnpackedFloat

section Approximation

/-- The dropped part `r` of a value, in units of the last kept place, as an accuracy records it:
none, less than a half, a half, or more than a half. -/
def Records : Accuracy → ℚ → Prop
  | .exact, r => r = 0
  | .inexact .lt, r => 0 < r ∧ r < 1 / 2
  | .inexact .eq, r => r = 1 / 2
  | .inexact .gt, r => 1 / 2 < r ∧ r < 1

/-- An extended mantissa approximates `x`, a value in units of its last place: the mantissa is
`x` without its fraction, and the two bits below it record the fraction. -/
def Approximates (em : ExtendedMantissa) (x : ℚ) : Prop :=
  (em.mantissa : ℚ) ≤ x ∧ Records em.accuracy (x - em.mantissa)

/-- `n` is the integer nearest to `x`, the even one of two equally near. -/
def NearestEven (x : ℚ) (n : ℕ) : Prop :=
  |x - n| < 1 / 2 ∨ (|x - n| = 1 / 2 ∧ n % 2 = 0)

theorem Records.lt_one {acc : Accuracy} {r : ℚ} (records : Records acc r) : 0 ≤ r ∧ r < 1 := by
  rcases acc with _ | ⟨_ | _ | _⟩ <;> simp only [Records] at records <;>
    constructor <;> linarith [records]

theorem accuracy_ofMantissaAndAccuracy (M : ℕ) (acc : Accuracy) :
    (ExtendedMantissa.ofMantissaAndAccuracy M acc).accuracy = acc := by
  rcases acc with _ | ⟨_ | _ | _⟩ <;> rfl

theorem mantissa_ofMantissaAndAccuracy (M : ℕ) (acc : Accuracy) :
    (ExtendedMantissa.ofMantissaAndAccuracy M acc).mantissa = M := by
  rcases acc with _ | ⟨_ | _ | _⟩ <;> rfl

theorem approximates_ofMantissaAndAccuracy {M : ℕ} {acc : Accuracy} {x : ℚ} :
    Approximates (ExtendedMantissa.ofMantissaAndAccuracy M acc) x ↔
      (M : ℚ) ≤ x ∧ Records acc (x - M) := by
  rw [Approximates, accuracy_ofMantissaAndAccuracy, mantissa_ofMantissaAndAccuracy]

/-- The fraction after one more bit is shifted out: the bit shifted out is its first binary
digit, and the old round and sticky bits merge below it. -/
theorem records_shift {m m' : ℕ} {round sticky : Bool} {r : ℚ}
    (records : Records (ExtendedMantissa.accuracy ⟨m, round, sticky⟩) r) (bit : Bool) :
    Records (ExtendedMantissa.accuracy ⟨m', bit, round || sticky⟩) (((if bit then 1 else 0) + r) / 2) := by
  cases bit <;> cases round <;> cases sticky <;>
    simp only [Records, ExtendedMantissa.accuracy, Bool.or_false, Bool.or_true,
      if_true, if_false, Bool.false_eq_true] at records ⊢
  all_goals first
    | (rw [records]; norm_num)
    | (obtain ⟨low, high⟩ := records; constructor <;> linarith)

/-- Shifting one bit out halves the value. -/
theorem Approximates.shiftRightOne {em : ExtendedMantissa} {x : ℚ} (approx : Approximates em x) :
    Approximates em.shiftRightOne (x / 2) := by
  obtain ⟨m, round, sticky⟩ := em
  obtain ⟨-, records⟩ := approx
  have split : (m : ℚ) = 2 * ((m / 2 : ℕ) : ℚ) + ((m % 2 : ℕ) : ℚ) := by
    exact_mod_cast (Nat.div_add_mod m 2).symm
  have lowBit : ((m % 2 : ℕ) : ℚ) = if (m % 2 != 0) then 1 else 0 := by
    rcases Nat.mod_two_eq_zero_or_one m with parity | parity <;> simp [parity]
  have fraction : x / 2 - ((m / 2 : ℕ) : ℚ) = ((if (m % 2 != 0) then 1 else 0) + (x - m)) / 2 := by
    rw [← lowBit]
    linarith
  have shifted := @records_shift _ (m / 2) _ _ _ records (m % 2 != 0)
  rw [← fraction] at shifted
  refine ⟨?_, shifted⟩
  show ((m / 2 : ℕ) : ℚ) ≤ x / 2
  linarith [shifted.lt_one.1]

theorem Approximates.shiftRight {em : ExtendedMantissa} {x : ℚ} (approx : Approximates em x) (n : ℕ) :
    Approximates (em >>> n) (x / 2 ^ n) := by
  induction n with
  | zero =>
    rw [pow_zero, div_one]
    exact approx
  | succ n ih =>
    rw [shiftRight_succ, pow_succ, ← div_div]
    exact ih.shiftRightOne

/-- The rounded mantissa of an approximation is the nearest integer, the even one of two equally
near. -/
theorem Approximates.nearestEven {em : ExtendedMantissa} {x : ℚ} (approx : Approximates em x) :
    NearestEven x em.roundedMantissa := by
  obtain ⟨m, round, sticky⟩ := em
  obtain ⟨-, records⟩ := approx
  cases round <;> cases sticky <;>
    simp only [Records, ExtendedMantissa.accuracy] at records <;>
    simp only [NearestEven, ExtendedMantissa.roundedMantissa, ExtendedMantissa.accuracy,
      Accuracy.roundToNearestEven]
  · left
    rw [records, abs_zero]
    norm_num
  · left
    rw [abs_of_pos records.1]
    exact records.2
  · right
    rcases Nat.mod_two_eq_zero_or_one m with parity | parity
    · rw [parity, Nat.add_zero, records]
      exact ⟨by norm_num, parity⟩
    · rw [parity]
      refine ⟨?_, by omega⟩
      rw [show x - ((m + 1 : ℕ) : ℚ) = -(1 / 2) by push_cast; linarith, abs_neg]
      norm_num
  · left
    rw [abs_lt]
    push_cast
    constructor <;> linarith [records.1, records.2]

theorem NearestEven.abs_le {x : ℚ} {n : ℕ} (nearest : NearestEven x n) : |x - n| ≤ 1 / 2 := by
  rcases nearest with nearest | nearest
  · exact nearest.le
  · exact nearest.1.le

/-- Of two integers nearest to a value, ties to even, there is one. -/
theorem NearestEven.unique {x : ℚ} {n n' : ℕ} (nearest : NearestEven x n) (nearest' : NearestEven x n') :
    n = n' := by
  have triangle : |(n : ℚ) - n'| ≤ |x - n| + |x - n'| := by
    calc |(n : ℚ) - n'| = |(x - n') - (x - n)| := by ring_nf
      _ ≤ |x - n'| + |x - n| := abs_sub _ _
      _ = |x - n| + |x - n'| := add_comm _ _
  by_contra apart
  -- two different integers are at least one apart, so both are exactly half away
  have atLeastOne : (1 : ℚ) ≤ |(n : ℚ) - n'| := by
    have intApart : (1 : ℤ) ≤ |(n : ℤ) - n'| := Int.one_le_abs (by omega)
    exact_mod_cast intApart
  have bothHalf : |x - n| = 1 / 2 ∧ |x - n'| = 1 / 2 := by
    have := nearest.abs_le
    have := nearest'.abs_le
    constructor <;> linarith
  have bothEven : n % 2 = 0 ∧ n' % 2 = 0 := by
    rcases nearest with nearest | nearest
    · linarith [bothHalf.1]
    rcases nearest' with nearest' | nearest'
    · linarith [bothHalf.2]
    exact ⟨nearest.2, nearest'.2⟩
  have distOne : |(n : ℚ) - n'| = 1 := by
    have := nearest.abs_le
    have := nearest'.abs_le
    linarith
  have diff : (n : ℤ) - n' = 1 ∨ (n : ℤ) - n' = -1 := by
    have intDist : |((n : ℤ) - n' : ℤ)| = 1 := by exact_mod_cast distOne
    exact abs_eq (by norm_num : (0 : ℤ) ≤ 1) |>.mp intDist
  omega

end Approximation

section Interval

open Decimal

/-- The value `x` lies in a rounding interval: strictly between its ends, or on an end when the
interval is closed. -/
def Holds (r : RoundingInterval) (x : ℚ) : Prop :=
  ((r.low : ℚ) * 2 ^ r.unit < x ∨ r.closed = true ∧ (r.low : ℚ) * 2 ^ r.unit = x) ∧
    (x < (r.high : ℚ) * 2 ^ r.unit ∨ r.closed = true ∧ x = (r.high : ℚ) * 2 ^ r.unit)

/-- A finite nonzero double taken apart: a mantissa of 53 bits at an exponent from `-1074` to
`971`, or fewer bits at the least exponent; the next double below is closer exactly at a power of
two above the least exponent. -/
structure Valid (b : Binary) : Prop where
  significand_pos : 0 < b.significand
  significand_lt : b.significand < 2 ^ 53
  exponent_ge : -1074 ≤ b.exponent
  exponent_le : b.exponent ≤ 971
  normal : 2 ^ 52 ≤ b.significand ∨ b.exponent = -1074
  lowerCloser : b.lowerCloser = decide (b.significand = 2 ^ 52 ∧ -1074 < b.exponent)

variable {b : Binary} {x : ℚ}

/-- A double's interval is measured in quarters of its last place. -/
theorem two_zpow_sub_two (q : ℤ) : (2 : ℚ) ^ (q - 2) = 2 ^ q / 4 := by
  rw [zpow_sub₀ two_ne_zero]
  norm_num

/-- The next double down is closer only at a power-of-two mantissa above the least exponent. -/
theorem Valid.of_lowerCloser (valid : Valid b) (closer : b.lowerCloser = true) :
    b.significand = 2 ^ 52 ∧ -1074 < b.exponent :=
  of_decide_eq_true (valid.lowerCloser.symm.trans closer)

/-- The low end of a double's interval: a quarter of a unit below the mantissa at a power of two
above the least exponent, else a half. -/
theorem interval_low_value (valid : Valid b) :
    (b.interval.low : ℚ) * 2 ^ b.interval.unit =
      ((b.significand : ℚ) - (if b.lowerCloser then 1 / 4 else 1 / 2)) * 2 ^ b.exponent := by
  have := valid.significand_pos
  simp only [Binary.interval, two_zpow_sub_two]
  split <;> rw [Nat.cast_sub (by omega)] <;> push_cast <;> ring

/-- The high end of a double's interval: half a unit above the mantissa. -/
theorem interval_high_value (b : Binary) :
    (b.interval.high : ℚ) * 2 ^ b.interval.unit = ((b.significand : ℚ) + 1 / 2) * 2 ^ b.exponent := by
  simp only [Binary.interval, two_zpow_sub_two]
  push_cast
  ring

/-- The interval of a double in units of its last place: from a quarter below the mantissa (at a
power of two above the least exponent) or a half below it, to a half above it, the ends included
when the mantissa is even. -/
theorem Holds.units (valid : Valid b) (inside : Holds b.interval x) :
    ((b.significand : ℚ) - (if b.lowerCloser then 1 / 4 else 1 / 2) < x / 2 ^ b.exponent ∨
        b.significand % 2 = 0 ∧
          (b.significand : ℚ) - (if b.lowerCloser then 1 / 4 else 1 / 2) = x / 2 ^ b.exponent) ∧
      (x / 2 ^ b.exponent < b.significand + 1 / 2 ∨
        b.significand % 2 = 0 ∧ x / 2 ^ b.exponent = b.significand + 1 / 2) := by
  have pos : (0 : ℚ) < 2 ^ b.exponent := zpow_pos (by norm_num) _
  have closedIff : b.interval.closed = true ↔ b.significand % 2 = 0 := beq_iff_eq
  obtain ⟨lowEnd, highEnd⟩ := inside
  rw [interval_low_value valid, closedIff] at lowEnd
  rw [interval_high_value, closedIff] at highEnd
  exact ⟨lowEnd.imp (lt_div_iff₀ pos).mpr fun onEnd => ⟨onEnd.1, (eq_div_iff pos.ne').mpr onEnd.2⟩,
    highEnd.imp (div_lt_iff₀ pos).mpr fun onEnd => ⟨onEnd.1, (div_eq_iff pos.ne').mpr onEnd.2⟩⟩

/-- Every value of a double's interval is below `2^(q + 53)`. -/
theorem Holds.lt_pow (valid : Valid b) (inside : Holds b.interval x) : x < 2 ^ (b.exponent + 53) := by
  have pos : (0 : ℚ) < 2 ^ b.exponent := zpow_pos (by norm_num) _
  have mantLt : (b.significand : ℚ) + 1 / 2 < 2 ^ 53 := by
    have : (b.significand : ℚ) + 1 ≤ 2 ^ 53 := by exact_mod_cast valid.significand_lt
    linarith
  have scaledLt : x / 2 ^ b.exponent < 2 ^ 53 := by
    rcases (inside.units valid).2 with endBound | endBound
    · linarith
    · linarith [endBound.2]
  rw [div_lt_iff₀ pos, ← zpow_natCast, ← zpow_add₀ (by norm_num)] at scaledLt
  rwa [add_comm] at scaledLt

/-- Every value of a double's interval is at least `2^(q - 1)`, half its least place. -/
theorem Holds.pow_le (valid : Valid b) (inside : Holds b.interval x) : 2 ^ (b.exponent - 1) ≤ x := by
  have pos : (0 : ℚ) < 2 ^ b.exponent := zpow_pos (by norm_num) _
  have mantGe : (1 : ℚ) ≤ b.significand := by exact_mod_cast valid.significand_pos
  have scaledGe : 1 / 2 ≤ x / 2 ^ b.exponent := by
    rcases (inside.units valid).1 with endBound | ⟨-, endBound⟩ <;> split at endBound <;> linarith
  rw [le_div_iff₀ pos] at scaledGe
  rw [zpow_sub₀ (by norm_num), zpow_one]
  linarith

/-- Above the least exponent a value of the interval reaches the mantissa's leading bit, unless it
lies below a power-of-two mantissa, where the next double down is closer. -/
theorem Holds.pow_le_of_normal (valid : Valid b) (inside : Holds b.interval x)
    (aboveLeast : -1074 < b.exponent) (notBelow : ¬ (b.lowerCloser = true ∧ x < b.significand * 2 ^ b.exponent)) :
    2 ^ (b.exponent + 52) ≤ x := by
  have pos : (0 : ℚ) < 2 ^ b.exponent := zpow_pos (by norm_num) _
  have normal : 2 ^ 52 ≤ b.significand := valid.normal.resolve_right (by omega)
  have pow : (2 : ℚ) ^ (b.exponent + 52) = 2 ^ 52 * 2 ^ b.exponent := by
    rw [zpow_add₀ (by norm_num), mul_comm]
    rfl
  rw [pow]
  rcases Nat.lt_or_eq_of_le normal with above | atPow
  · have mantGe : (2 : ℚ) ^ 52 + 1 ≤ b.significand := by exact_mod_cast above
    have scaledGe : (2 : ℚ) ^ 52 ≤ x / 2 ^ b.exponent := by
      rcases (inside.units valid).1 with endBound | ⟨-, endBound⟩ <;> split at endBound <;> linarith
    rwa [le_div_iff₀ pos] at scaledGe
  · -- at `2^52` the next double down is closer, so the value is not below the mantissa
    have closer : b.lowerCloser = true := by
      rw [valid.lowerCloser]
      exact decide_eq_true ⟨atPow.symm, aboveLeast⟩
    have notLess := not_lt.mp fun endBound => notBelow ⟨closer, endBound⟩
    rw [← atPow] at notLess
    exact_mod_cast notLess

/-- Below a power-of-two mantissa the value has its leading bit one place lower. -/
theorem Holds.pow_bounds_of_below (valid : Valid b) (inside : Holds b.interval x)
    (below : b.lowerCloser = true ∧ x < b.significand * 2 ^ b.exponent) :
    2 ^ (b.exponent + 51) ≤ x ∧ x < 2 ^ (b.exponent + 52) := by
  have pos : (0 : ℚ) < 2 ^ b.exponent := zpow_pos (by norm_num) _
  have mantPow : b.significand = 2 ^ 52 := (valid.of_lowerCloser below.1).1
  have pow : ∀ k : ℕ, (2 : ℚ) ^ (b.exponent + k) = 2 ^ k * 2 ^ b.exponent := fun k => by
    rw [zpow_add₀ (by norm_num), mul_comm, zpow_natCast]
  refine ⟨?_, ?_⟩
  · have scaledGe : (2 : ℚ) ^ 51 ≤ x / 2 ^ b.exponent := by
      rcases (inside.units valid).1 with endBound | ⟨-, endBound⟩ <;> rw [if_pos below.1, mantPow] at endBound <;> norm_num at endBound <;>
        linarith
    rw [le_div_iff₀ pos] at scaledGe
    exact_mod_cast (pow 51).symm ▸ scaledGe
  · have := below.2
    rw [mantPow] at this
    exact_mod_cast (pow 52).symm ▸ this

/-- A value of the interval, not below a power-of-two mantissa, is nearest the mantissa, ties to
even. -/
theorem Holds.nearestEven (valid : Valid b) (inside : Holds b.interval x)
    (notBelow : ¬ (b.lowerCloser = true ∧ x < b.significand * 2 ^ b.exponent)) :
    NearestEven (x / 2 ^ b.exponent) b.significand := by
  have pos : (0 : ℚ) < 2 ^ b.exponent := zpow_pos (by norm_num) _
  obtain ⟨lowEnd, highEnd⟩ := inside.units valid
  -- the value is at most a half below the mantissa: past the closer neighbour it is not below
  have nearLow : (b.significand : ℚ) - 1 / 2 < x / 2 ^ b.exponent ∨
      b.significand % 2 = 0 ∧ (b.significand : ℚ) - 1 / 2 = x / 2 ^ b.exponent := by
    by_cases closer : b.lowerCloser = true
    · left
      have nearLow := not_lt.mp fun less => notBelow ⟨closer, less⟩
      rw [← le_div_iff₀ pos] at nearLow
      linarith
    · simpa [closer] using lowEnd
  rcases nearLow with nearLow | ⟨even, nearLow⟩ <;> rcases highEnd with highEnd | ⟨even', highEnd⟩
  · left
    rw [abs_lt]
    constructor <;> linarith
  · right
    refine ⟨?_, even'⟩
    rw [highEnd]
    norm_num
  · right
    refine ⟨?_, even⟩
    rw [← nearLow]
    norm_num
  · right
    refine ⟨?_, even'⟩
    rw [highEnd]
    norm_num

/-- Below a power-of-two mantissa, one place further down, the value is nearest `2^53`. -/
theorem Holds.nearestEven_of_below (valid : Valid b) (inside : Holds b.interval x)
    (below : b.lowerCloser = true ∧ x < b.significand * 2 ^ b.exponent) :
    NearestEven (x / 2 ^ (b.exponent - 1)) (2 ^ 53) := by
  have pos : (0 : ℚ) < 2 ^ b.exponent := zpow_pos (by norm_num) _
  have mantPow : b.significand = 2 ^ 52 := (valid.of_lowerCloser below.1).1
  have doubled : x / 2 ^ (b.exponent - 1) = 2 * (x / 2 ^ b.exponent) := by
    rw [zpow_sub₀ (by norm_num), zpow_one]
    field_simp
  have scaledLt : x / 2 ^ b.exponent < 2 ^ 52 := by
    rw [div_lt_iff₀ pos]
    exact_mod_cast mantPow ▸ below.2
  rw [doubled]
  push_cast
  rcases (inside.units valid).1 with endBound | ⟨-, endBound⟩ <;> rw [if_pos below.1, mantPow] at endBound <;> push_cast at endBound
  · left
    rw [abs_lt]
    constructor <;> linarith
  · right
    refine ⟨?_, by norm_num⟩
    rw [← endBound]
    norm_num

/-- A double's own value lies in its interval. -/
theorem Holds.center (valid : Valid b) : Holds b.interval (b.significand * 2 ^ b.exponent) := by
  have unitPos : (0 : ℚ) < 2 ^ (b.exponent - 2) := zpow_pos (by norm_num) _
  have four : (2 : ℚ) ^ b.exponent = 4 * 2 ^ (b.exponent - 2) := by
    rw [zpow_sub₀ two_ne_zero]
    norm_num
    ring
  have mantPos := valid.significand_pos
  have lowLt : ((4 * b.significand - (if b.lowerCloser then 1 else 2) : ℕ) : ℚ) < 4 * b.significand := by
    have : 4 * b.significand - (if b.lowerCloser then 1 else 2) < 4 * b.significand := by
      split <;> omega
    exact_mod_cast this
  refine ⟨Or.inl ?_, Or.inl ?_⟩ <;> simp only [Binary.interval] <;> rw [four]
  · nlinarith
  · push_cast
    nlinarith

end Interval

section Round

open Decimal

variable {b : Binary} {x : ℚ} {M : ℕ} {E : ℤ} {acc : Accuracy}

theorem shiftToTargetExponent_eq (M : ℕ) (E : ℤ) (acc : Accuracy) :
    shiftToTargetExponent .binary64 M E acc =
      (ExtendedMantissa.ofMantissaAndAccuracy M acc >>>
          (Format.binary64.targetExponent (totalExponent M E) - E).toNat,
        E + (Format.binary64.targetExponent (totalExponent M E) - E).toNat) := rfl

/-- An approximated value lies between the powers of two around its mantissa. -/
theorem Approximates.pow_bounds
    (approx : Approximates (ExtendedMantissa.ofMantissaAndAccuracy M acc) (x / 2 ^ E)) (positive : 0 < M) :
    (2 : ℚ) ^ ((M.log2 : ℤ) + E) ≤ x ∧ x < 2 ^ ((M.log2 : ℤ) + E + 1) := by
  rw [approximates_ofMantissaAndAccuracy] at approx
  obtain ⟨mantLe, records⟩ := approx
  have pos : (0 : ℚ) < 2 ^ E := zpow_pos (by norm_num) _
  have scaledLt : x / 2 ^ E < M + 1 := by linarith [records.lt_one.2]
  have logLe : (2 : ℚ) ^ M.log2 ≤ M := by exact_mod_cast Nat.log2_self_le positive.ne'
  have logLt : (M : ℚ) + 1 ≤ 2 ^ (M.log2 + 1) := by exact_mod_cast Nat.lt_log2_self
  rw [le_div_iff₀ pos] at mantLe
  rw [div_lt_iff₀ pos] at scaledLt
  constructor
  · calc (2 : ℚ) ^ ((M.log2 : ℤ) + E) = 2 ^ M.log2 * 2 ^ E := by
          rw [zpow_add₀ (by norm_num), zpow_natCast]
      _ ≤ M * 2 ^ E := by gcongr
      _ ≤ x := mantLe
  · calc x < (M + 1) * 2 ^ E := scaledLt
      _ ≤ 2 ^ (M.log2 + 1) * 2 ^ E := by gcongr
      _ = 2 ^ ((M.log2 : ℤ) + E + 1) := by
          rw [← zpow_natCast, ← zpow_add₀ (by norm_num)]
          push_cast
          ring_nf

/-- The leading bit of a value is where powers of two enclose it. -/
theorem lt_of_pow_le_of_lt_pow {L A : ℤ} (lower : (2 : ℚ) ^ L ≤ x) (upper : x < 2 ^ A) : L < A :=
  (zpow_lt_zpow_iff_right₀ one_lt_two).mp (lower.trans_lt upper)

/-- The exponent rounding works at: the double's, or one lower below a power-of-two mantissa. -/
theorem target_of_holds (valid : Valid b) (inside : Holds b.interval x)
    (approx : Approximates (ExtendedMantissa.ofMantissaAndAccuracy M acc) (x / 2 ^ E))
    (notAbove : E ≤ Format.binary64.targetExponent (totalExponent M E)) :
    Format.binary64.targetExponent (totalExponent M E) =
      if b.lowerCloser = true ∧ x < b.significand * 2 ^ b.exponent then b.exponent - 1
      else b.exponent := by
  rw [targetExponent_binary64] at notAbove ⊢
  have aboveLeast := valid.exponent_ge
  rcases Nat.eq_zero_or_pos M with rfl | positive
  · -- nothing before the point: the value is below `2^E`, at most the least exponent
    have small : x < 2 ^ E := by
      rw [approximates_ofMantissaAndAccuracy] at approx
      have pos : (0 : ℚ) < 2 ^ E := zpow_pos (by norm_num) _
      have fracLt := approx.2.lt_one.2
      push_cast at fracLt
      rw [sub_zero, div_lt_one pos] at fracLt
      exact fracLt
    have atLeast : E ≤ -1074 := by simp only [Nat.log2_zero] at notAbove; omega
    have bound := lt_of_pow_le_of_lt_pow (inside.pow_le valid) small
    have expLeast : b.exponent = -1074 := by omega
    have notCloser : b.lowerCloser = false := by
      rw [valid.lowerCloser]
      simp [expLeast]
    simp only [notCloser, Bool.false_eq_true, false_and, if_false, expLeast, Nat.log2_zero]
    omega
  · obtain ⟨lowPow, highPow⟩ := approx.pow_bounds positive
    have belowTop := lt_of_pow_le_of_lt_pow lowPow (inside.lt_pow valid)
    split
    · rename_i below
      obtain ⟨belowLow, belowHigh⟩ := inside.pow_bounds_of_below valid below
      have cmp₁ := lt_of_pow_le_of_lt_pow lowPow belowHigh
      have cmp₂ := lt_of_pow_le_of_lt_pow belowLow highPow
      have expLeast : -1074 < b.exponent := (valid.of_lowerCloser below.1).2
      omega
    · rename_i notBelow
      by_cases least : b.exponent = -1074
      · omega
      · have cmp₂ := lt_of_pow_le_of_lt_pow (inside.pow_le_of_normal valid (by omega) notBelow) highPow
        omega

/-- A value in the rounding interval of a double, approximated at an exponent no larger than the
one rounding works at, rounds to that double. -/
theorem roundWithAccuracy_of_holds (valid : Valid b)
    (approx : Approximates (ExtendedMantissa.ofMantissaAndAccuracy M acc) (x / 2 ^ E))
    (notAbove : E ≤ Format.binary64.targetExponent (totalExponent M E)) (inside : Holds b.interval x) :
    roundWithAccuracy .binary64 .positive M E acc =
      .finite .positive b.significand b.exponent valid.significand_pos := by
  have target := target_of_holds valid inside approx notAbove
  generalize targetIs : Format.binary64.targetExponent (totalExponent M E) = T at target notAbove
  have shifted : E + ((T - E).toNat : ℤ) = T := by omega
  have atTarget : Approximates (ExtendedMantissa.ofMantissaAndAccuracy M acc >>> (T - E).toNat)
      (x / 2 ^ T) := by
    have := approx.shiftRight (T - E).toNat
    rwa [div_div, ← zpow_natCast, ← zpow_add₀ (by norm_num), shifted] at this
  unfold roundWithAccuracy
  rw [shiftToTargetExponent_eq, targetIs, shifted]
  dsimp only
  split at target
  · -- below a power-of-two mantissa the rounded mantissa reaches `2^53` and carries
    rename_i below
    subst target
    have carried := atTarget.nearestEven.unique (inside.nearestEven_of_below valid below)
    obtain ⟨mantPow, expAbove⟩ := valid.of_lowerCloser below.1
    have aboveLeast : -1074 ≤ b.exponent - 1 := by omega
    rw [carried, shiftToTargetExponent_carry aboveLeast]
    simp only [sub_add_cancel, mantPow]
    rfl
  · rename_i notBelow
    subst target
    have rounded := atTarget.nearestEven.unique (inside.nearestEven valid notBelow)
    rw [rounded, shiftToTargetExponent_small valid.significand_lt valid.exponent_ge]
    simp only [Nat.pos_iff_ne_zero.mp valid.significand_pos, dif_neg, not_false_eq_true]

/-- The fraction a remainder leaves, as `accuracyOfFraction` records it. -/
theorem records_accuracyOfFraction {r d : ℕ} (remLt : r < d) :
    Records (accuracyOfFraction r d) ((r : ℚ) / d) := by
  have dPos : (0 : ℚ) < d := by exact_mod_cast (Nat.zero_le r).trans_lt remLt
  have remLtQ : (r : ℚ) < d := by exact_mod_cast remLt
  unfold accuracyOfFraction
  split
  · rename_i zero
    simp [Records, zero]
  · rename_i zero
    have rPos : (0 : ℚ) < r := by exact_mod_cast Nat.pos_of_ne_zero zero
    rcases Nat.lt_trichotomy (2 * r) d with underHalf | atHalf | overHalf
    · rw [Nat.compare_eq_lt.mpr underHalf]
      have : (2 * r : ℚ) < d := by exact_mod_cast underHalf
      refine ⟨div_pos rPos dPos, ?_⟩
      rw [div_lt_iff₀ dPos]
      linarith
    · rw [Nat.compare_eq_eq.mpr atHalf]
      have : (2 * r : ℚ) = d := by exact_mod_cast atHalf
      show (r : ℚ) / d = 1 / 2
      rw [div_eq_iff dPos.ne']
      linarith
    · rw [Nat.compare_eq_gt.mpr overHalf]
      have : (d : ℚ) < 2 * r := by exact_mod_cast overHalf
      refine ⟨?_, (div_lt_one dPos).mpr remLtQ⟩
      rw [lt_div_iff₀ dPos]
      linarith

/-- The quotient `divCore` keeps, with the accuracy of its remainder, approximates the exact
quotient at the exponent it chose, and that exponent is no larger than the one rounding works at:
the quotient carries enough bits. -/
theorem divCore_approximates {m₁ m₂ : ℕ} (pos₁ : 0 < m₁) (pos₂ : 0 < m₂) (e₁ e₂ : ℤ) {Q : ℕ} {T : ℤ}
    {acc : Accuracy} (core : divCore .binary64 m₁ e₁ m₂ e₂ = (Q, T, acc)) :
    Approximates (ExtendedMantissa.ofMantissaAndAccuracy Q acc)
        ((m₁ * 2 ^ e₁) / (m₂ * 2 ^ e₂) / 2 ^ T) ∧
      T ≤ Format.binary64.targetExponent (totalExponent Q T) := by
  simp only [divCore, Prod.mk.injEq] at core
  obtain ⟨quotient, exponent, accuracy⟩ := core
  rw [exponent] at quotient accuracy
  set s := (e₁ - e₂ - T).toNat with sIs
  have shift : e₁ - e₂ - T = s := by
    rw [sIs, ← exponent]
    omega
  have m₂Pos : (0 : ℚ) < m₂ := by exact_mod_cast pos₂
  have value : (m₁ * 2 ^ e₁) / (m₂ * 2 ^ e₂) / 2 ^ T = ((m₁ <<< s : ℕ) : ℚ) / m₂ := by
    rw [Nat.shiftLeft_eq]
    push_cast
    rw [← zpow_natCast, ← shift, zpow_sub₀ (by norm_num), zpow_sub₀ (by norm_num)]
    field_simp
  have split : ((m₁ <<< s : ℕ) : ℚ) / m₂ = Q + (((m₁ <<< s) % m₂ : ℕ) : ℚ) / m₂ := by
    rw [← quotient]
    have := Nat.div_add_mod (m₁ <<< s) m₂
    field_simp
    exact_mod_cast this.symm.trans (by ring)
  refine ⟨?_, ?_⟩
  · rw [approximates_ofMantissaAndAccuracy, value, split, add_sub_cancel_left, ← accuracy]
    exact ⟨le_add_of_nonneg_right (by positivity),
      records_accuracyOfFraction (Nat.mod_lt _ pos₂)⟩
  · have bounds : T ≤ e₁ - e₂ ∧ T ≤ max (((m₁.log2 : ℤ) - m₂.log2 + e₁ - e₂) - 53) (-1074) := by
      rw [← exponent]
      simp only [Format.targetExponent, totalExponent, Format.mantissaBits, Format.minExponent]
      omega
    rw [targetExponent_binary64]
    by_cases least : T ≤ -1074
    · omega
    · have logs : m₂.log2 + 53 ≤ m₁.log2 + s := by omega
      have full : 2 ^ 52 ≤ Q := by
        rw [← quotient, Nat.le_div_iff_mul_le pos₂, Nat.shiftLeft_eq]
        calc 2 ^ 52 * m₂ ≤ 2 ^ 52 * 2 ^ (m₂.log2 + 1) := by
              gcongr
              exact Nat.lt_log2_self.le
          _ = 2 ^ (m₂.log2 + 53) := by rw [← Nat.pow_add]; ring_nf
          _ ≤ 2 ^ (m₁.log2 + s) := Nat.pow_le_pow_right (by norm_num) logs
          _ = 2 ^ m₁.log2 * 2 ^ s := Nat.pow_add _ _ _
          _ ≤ m₁ * 2 ^ s := by
              gcongr
              exact Nat.log2_self_le pos₁.ne'
      have logGe : 52 ≤ Q.log2 := (Nat.le_log2 (by omega)).mpr full
      omega

theorem approximates_exact (M : ℕ) :
    Approximates (ExtendedMantissa.ofMantissaAndAccuracy M .exact) M :=
  approximates_ofMantissaAndAccuracy.mpr ⟨le_rfl, sub_self _⟩

/-- Dividing two positive values whose exact quotient lies in a double's interval gives that
double. -/
theorem div_of_holds (valid : Valid b) {m₁ m₂ : ℕ} (pos₁ : 0 < m₁) (pos₂ : 0 < m₂) {e₁ e₂ : ℤ}
    (inside : Holds b.interval ((m₁ * 2 ^ e₁) / (m₂ * 2 ^ e₂))) :
    UnpackedFloat.div .binary64 (.finite .positive m₁ e₁ pos₁) (.finite .positive m₂ e₂ pos₂) =
      .finite .positive b.significand b.exponent valid.significand_pos := by
  obtain ⟨⟨Q, T, acc⟩, core⟩ : ∃ r, divCore .binary64 m₁ e₁ m₂ e₂ = r := ⟨_, rfl⟩
  obtain ⟨approx, notAbove⟩ := divCore_approximates pos₁ pos₂ e₁ e₂ core
  simp only [UnpackedFloat.div, core]
  exact roundWithAccuracy_of_holds valid approx notAbove inside

/-- Multiplying two positive values whose exact product, of at least 53 bits, lies in a double's
interval gives that double. -/
theorem mul_of_holds (valid : Valid b) {m₁ m₂ : ℕ} (pos₁ : 0 < m₁) (pos₂ : 0 < m₂) {e₁ e₂ : ℤ}
    (wide : 52 ≤ (m₁ * m₂).log2) (inside : Holds b.interval ((m₁ * m₂ : ℕ) * 2 ^ (e₁ + e₂))) :
    UnpackedFloat.mul .binary64 (.finite .positive m₁ e₁ pos₁) (.finite .positive m₂ e₂ pos₂) =
      .finite .positive b.significand b.exponent valid.significand_pos := by
  have approx : Approximates (ExtendedMantissa.ofMantissaAndAccuracy (m₁ * m₂) .exact)
      ((m₁ * m₂ : ℕ) * 2 ^ (e₁ + e₂) / 2 ^ (e₁ + e₂)) := by
    rw [mul_div_cancel_right₀ _ (zpow_pos (by norm_num : (0 : ℚ) < 2) _).ne']
    exact approximates_exact _
  refine roundWithAccuracy_of_holds valid approx ?_ inside
  rw [targetExponent_binary64]
  omega

theorem log2_shiftLeft {N : ℕ} (positive : 0 < N) (s : ℕ) : (N <<< s).log2 = N.log2 + s := by
  rw [Nat.log2_eq_iff (by rw [Nat.shiftLeft_eq]; positivity), Nat.shiftLeft_eq]
  constructor
  · rw [Nat.pow_add]
    exact Nat.mul_le_mul_right _ (Nat.log2_self_le positive.ne')
  · rw [show N.log2 + s + 1 = N.log2 + 1 + s by omega, Nat.pow_add]
    exact Nat.mul_lt_mul_of_pos_right Nat.lt_log2_self (by positivity)

/-- Rounding an exact value `N * 2^E` of a double's interval gives that double. -/
theorem round_of_holds (valid : Valid b) {N : ℕ} {E : ℤ} (positive : 0 < N)
    (inside : Holds b.interval (N * 2 ^ E)) :
    UnpackedFloat.round .binary64 .positive N E = .finite .positive b.significand b.exponent valid.significand_pos := by
  -- the mantissa is first widened to the exponent rounding works at, which keeps that exponent
  set T := Format.binary64.targetExponent (totalExponent N E) with TIs
  set s := (E - T).toNat with sIs
  have total : totalExponent (N <<< s) (E - s) = totalExponent N E := by
    simp only [totalExponent, log2_shiftLeft positive]
    push_cast
    ring
  have approx : Approximates (ExtendedMantissa.ofMantissaAndAccuracy (N <<< s) .exact)
      (N * 2 ^ E / 2 ^ (E - s)) := by
    have value : (N : ℚ) * 2 ^ E / 2 ^ (E - s) = ((N <<< s : ℕ) : ℚ) := by
      rw [Nat.shiftLeft_eq, zpow_sub₀ two_ne_zero]
      push_cast
      field_simp
      rw [zpow_natCast]
    rw [value]
    exact approximates_exact _
  unfold UnpackedFloat.round
  simp only [decreaseExponent]
  refine roundWithAccuracy_of_holds valid approx ?_ inside
  rw [total, ← TIs]
  omega

end Round

end Binary64

end PipelineEditor
