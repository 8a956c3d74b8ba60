import Mathlib
import PipelineEditor.Editor.Copy

/-! Rounding in binary64 as a clone's position needs it: a finite coordinate plus 200 stays finite. -/

namespace PipelineEditor

namespace Binary64

open Float.Model Float.Model.UnpackedFloat

section Shift

theorem shiftRight_succ (em : ExtendedMantissa) (n : Nat) :
    em >>> (n + 1) = (em >>> n).shiftRightOne := rfl

theorem mantissa_shiftRight (em : ExtendedMantissa) (n : Nat) :
    (em >>> n).mantissa = em.mantissa / 2 ^ n := by
  induction n with
  | zero => exact (Nat.div_one _).symm
  | succ n ih =>
    rw [shiftRight_succ, ExtendedMantissa.shiftRightOne, ih, Nat.div_div_eq_div_mul, Nat.pow_succ]

theorem mantissa_mk_shiftRight (N k : Nat) :
    (ExtendedMantissa.mk N false false >>> k).mantissa = N / 2 ^ k :=
  mantissa_shiftRight _ k

/-- The round bit is the last bit shifted out. -/
theorem roundBit_shiftRight_succ (em : ExtendedMantissa) (n : Nat) :
    (em >>> (n + 1)).roundBit = (em.mantissa / 2 ^ n % 2 != 0) := by
  rw [shiftRight_succ, ExtendedMantissa.shiftRightOne, mantissa_shiftRight]

theorem roundedMantissa_le (em : ExtendedMantissa) : em.roundedMantissa ≤ em.mantissa + 1 := by
  obtain ⟨m, r, s⟩ := em
  cases r <;> cases s <;>
    simp [ExtendedMantissa.roundedMantissa, ExtendedMantissa.accuracy,
      Accuracy.roundToNearestEven]
  omega

/-- Without a round bit the mantissa is rounded down, whatever the sticky bit says. -/
theorem roundedMantissa_of_roundBit {em : ExtendedMantissa} (noRoundBit : em.roundBit = false) :
    em.roundedMantissa = em.mantissa := by
  obtain ⟨m, r, s⟩ := em
  cases noRoundBit
  cases s <;> rfl

end Shift

section Round

theorem shiftToTargetExponent_exact (N : Nat) (E : Int) :
    shiftToTargetExponent .binary64 N E .exact =
      (ExtendedMantissa.mk N false false >>> (Format.binary64.targetExponent (totalExponent N E) - E).toNat,
        E + (Format.binary64.targetExponent (totalExponent N E) - E).toNat) := rfl

theorem targetExponent_binary64 (N : Nat) (E : Int) :
    Format.binary64.targetExponent (totalExponent N E) = max (N.log2 + E - 52) (-1074) := by
  simp only [Format.targetExponent, totalExponent, Format.mantissaBits, Format.minExponent]
  omega

/-- A mantissa below `2^53` at an exponent no smaller than the least one is already rounded. -/
theorem shiftToTargetExponent_small {N : Nat} {E : Int} (fits : N < 2 ^ 53) (aboveLeast : -1074 ≤ E) :
    shiftToTargetExponent .binary64 N E .exact = (ExtendedMantissa.mk N false false, E) := by
  have logBound : N.log2 ≤ 52 := by
    rcases Nat.eq_zero_or_pos N with rfl | positive
    · simp
    · have := (Nat.log2_lt (Nat.ne_of_gt positive)).mpr fits
      omega
  have shift : (Format.binary64.targetExponent (totalExponent N E) - E).toNat = 0 := by
    rw [targetExponent_binary64]
    omega
  rw [shiftToTargetExponent_exact, shift, Int.natCast_zero, Int.add_zero]
  rfl

/-- A mantissa carried to `2^53` moves one exponent up. -/
theorem shiftToTargetExponent_carry {E : Int} (aboveLeast : -1074 ≤ E) :
    shiftToTargetExponent .binary64 (2 ^ 53) E .exact =
      (ExtendedMantissa.mk (2 ^ 52) false false, E + 1) := by
  have shift : (Format.binary64.targetExponent (totalExponent (2 ^ 53) E) - E).toNat = 1 := by
    rw [targetExponent_binary64, Nat.log2_two_pow]
    omega
  rw [shiftToTargetExponent_exact, shift]
  rfl

/-- Rounding carries a mantissa shifted by `k` to `2^53` only when a round bit was shifted out
and the value is at least `(2^54 - 1) * 2^(k - 1)`. -/
theorem le_of_carry {N k r : Nat}
    (rounded : (ExtendedMantissa.mk N false false >>> k).roundedMantissa = r) (carried : r = 2 ^ 53)
    (shiftedFits : N / 2 ^ k < 2 ^ 53) : ∃ j, k = j + 1 ∧ (2 ^ 54 - 1) * 2 ^ j ≤ N := by
  have roundedLe := roundedMantissa_le (ExtendedMantissa.mk N false false >>> k)
  rw [mantissa_mk_shiftRight] at roundedLe
  have roundBit : (ExtendedMantissa.mk N false false >>> k).roundBit = true := by
    by_contra noBit
    rw [roundedMantissa_of_roundBit (Bool.eq_false_iff.mpr noBit), mantissa_mk_shiftRight] at rounded
    omega
  cases k with
  | zero => exact absurd roundBit Bool.false_ne_true
  | succ j =>
    refine ⟨j, rfl, ?_⟩
    rw [roundBit_shiftRight_succ] at roundBit
    have odd : N / 2 ^ j % 2 = 1 := by simpa using roundBit
    have halved : N / 2 ^ (j + 1) = N / 2 ^ j / 2 := by
      rw [Nat.pow_succ, Nat.div_div_eq_div_mul]
    have keptOnes : N / 2 ^ j = 2 ^ 54 - 1 := by omega
    calc (2 ^ 54 - 1) * 2 ^ j = N / 2 ^ j * 2 ^ j := by rw [keptOnes]
      _ ≤ N := Nat.div_mul_le_self N (2 ^ j)

end Round

section Pack

theorem isFinite_unpack_packComponents {s : Sign} {ex : BitVec 11} {mant : BitVec 52}
    (notTop : ex ≠ -1#11) :
    (UnpackedFloat.unpack .binary64 (packComponents .binary64 s ex mant)).isFinite = true := by
  unfold UnpackedFloat.unpack
  simp only [unpackExponent_packComponents]
  rw [if_neg notTop]
  split
  · split <;> rfl
  · rfl

theorem ofNat_ne_allOnes {b : Nat} (below : b < 2047) : BitVec.ofNat 11 b ≠ -1#11 := by
  intro allOnes
  have natEq := congrArg BitVec.toNat allOnes
  simp only [BitVec.toNat_ofNat, BitVec.toNat_neg] at natEq
  omega

/-- A rounded value packs to a finite double while its exponent is at most `971`. -/
theorem isFinite_pack_finite {s : Sign} {m : Nat} {e : Int} {h : 0 < m} (eTop : e ≤ 971) :
    (Float.Model.pack (.finite s m e h)).isFinite = true := by
  show (UnpackedFloat.unpack .binary64 (UnpackedFloat.pack .binary64 (.finite s m e h))).isFinite = true
  have bias : Format.binary64.exponentBias = 1023 := rfl
  unfold UnpackedFloat.pack
  dsimp only
  split
  · rename_i overflow
    rw [bias] at overflow
    norm_num at overflow
    omega
  split
  · refine isFinite_unpack_packComponents (ofNat_ne_allOnes ?_)
    rw [bias]
    norm_num
    omega
  · exact isFinite_unpack_packComponents (by decide)

theorem isFinite_pack_zero (s : Sign) : (Float.Model.pack (.zero s)).isFinite = true := by
  cases s <;> rfl

/-- A finite double unpacks to a mantissa of at most 53 bits at an exponent of at most `971`. -/
theorem unpack_finite_bounds {b : BitVec Format.binary64.numBits} {s : Sign} {m : Nat} {e : Int}
    {h : 0 < m} (unpacked : UnpackedFloat.unpack .binary64 b = .finite s m e h) :
    m < 2 ^ 53 ∧ e ≤ 971 := by
  unfold UnpackedFloat.unpack at unpacked
  dsimp only at unpacked
  split at unpacked
  · split at unpacked <;> cases unpacked
  split at unpacked
  · split at unpacked
    · cases unpacked
    · rename_i expZero _
      simp only [UnpackedFloat.finite.injEq] at unpacked
      obtain ⟨-, rfl, rfl, -⟩ := unpacked
      have fieldLt := (@unpackMantissa Format.binary64 b).isLt
      rw [expZero]
      simp only [Format.exponentBias, BitVec.toNat_zero] at fieldLt ⊢
      omega
  · rename_i notAllOnes _
    simp only [UnpackedFloat.finite.injEq] at unpacked
    obtain ⟨-, rfl, rfl, -⟩ := unpacked
    have expNotTop : (@unpackExponent Format.binary64 b).toNat ≠ 2047 := fun allOnes =>
      notAllOnes (BitVec.eq_of_toNat_eq (by rw [allOnes]; rfl))
    have fieldLt := (@unpackExponent Format.binary64 b).isLt
    have mantLt := (1#1 ++ @unpackMantissa Format.binary64 b).isLt
    simp only [Format.exponentBias] at fieldLt mantLt ⊢
    omega

end Pack

section Overflow

/-- Rounding a value below `(2^54 - 1) * 2^970`, half a unit above the largest double, gives a
finite double. -/
theorem isFinite_pack_roundWithAccuracy (sign : Sign) {N : Nat} {E : Int} (belowTop : E ≤ 970)
    (bounded : N < (2 ^ 54 - 1) * 2 ^ (970 - E).toNat) :
    (Float.Model.pack (roundWithAccuracy .binary64 sign N E .exact)).isFinite = true := by
  have target := targetExponent_binary64 N E
  generalize shiftIs : (Format.binary64.targetExponent (totalExponent N E) - E).toNat = k
  have logBound : N.log2 < 54 + (970 - E).toNat := by
    rcases Nat.eq_zero_or_pos N with rfl | positive
    · simp
    · refine (Nat.log2_lt (Nat.ne_of_gt positive)).mpr (lt_of_lt_of_le bounded ?_)
      rw [Nat.pow_add]
      exact Nat.mul_le_mul_right _ (by norm_num)
  have shiftedFits : N / 2 ^ k < 2 ^ 53 := by
    refine (Nat.div_lt_iff_lt_mul (Nat.two_pow_pos k)).mpr (lt_of_lt_of_le Nat.lt_log2_self ?_)
    rw [← Nat.pow_add]
    exact Nat.pow_le_pow_right (by decide) (by omega)
  have shiftedTop : E + k ≤ 971 := by omega
  have shiftedLeast : -1074 ≤ E + k := by omega
  unfold roundWithAccuracy
  rw [shiftToTargetExponent_exact, shiftIs]
  dsimp only
  generalize rounded : (ExtendedMantissa.mk N false false >>> k).roundedMantissa = r
  have roundedLe : r ≤ 2 ^ 53 := by
    have := roundedMantissa_le (ExtendedMantissa.mk N false false >>> k)
    rw [mantissa_mk_shiftRight] at this
    omega
  by_cases small : r < 2 ^ 53
  · rw [shiftToTargetExponent_small small shiftedLeast]
    dsimp only
    split
    · exact isFinite_pack_zero sign
    · exact isFinite_pack_finite shiftedTop
  · obtain ⟨j, rfl, large⟩ := le_of_carry rounded (by omega) shiftedFits
    -- a carry at the top exponent needs a value no double reaches
    have carryRoom : E + (j + 1 : Nat) ≤ 970 := by
      by_contra above
      have atTop : j = (970 - E).toNat := by omega
      rw [atTop] at large
      omega
    rw [show r = 2 ^ 53 by omega, shiftToTargetExponent_carry shiftedLeast]
    exact isFinite_pack_finite (by omega)

/-- The bound holds at whatever exponent the value is written: `round` first moves it to its
target exponent without changing it. -/
theorem isFinite_pack_round (sign : Sign) {N : Nat} {E : Int} (belowTop : E ≤ 970)
    (bounded : N < (2 ^ 54 - 1) * 2 ^ (970 - E).toNat) :
    (Float.Model.pack (UnpackedFloat.round .binary64 sign N E)).isFinite = true := by
  unfold UnpackedFloat.round decreaseExponent
  dsimp only
  generalize (E - Format.binary64.targetExponent (totalExponent N E)).toNat = d
  refine isFinite_pack_roundWithAccuracy sign (by omega) ?_
  have shifted : (970 - (E - (d : Int))).toNat = (970 - E).toNat + d := by omega
  rw [Nat.shiftLeft_eq, shifted, Nat.pow_add, ← Nat.mul_assoc]
  exact Nat.mul_lt_mul_of_pos_right bounded (Nat.two_pow_pos d)

theorem isFinite_pack_normalize {M E : Int} (zeroSign : Sign) (belowTop : E ≤ 970)
    (bounded : M.natAbs < (2 ^ 54 - 1) * 2 ^ (970 - E).toNat) :
    (Float.Model.pack (UnpackedFloat.normalize .binary64 M E zeroSign)).isFinite = true := by
  unfold UnpackedFloat.normalize
  split
  · exact isFinite_pack_round _ belowTop (by omega)
  · exact isFinite_pack_zero zeroSign
  · exact isFinite_pack_round _ belowTop (by omega)

/-- The clone offset, unpacked: `200 = 7036874417766400 * 2^(-45)`. -/
theorem cloneOffset_unpack :
    Editor.cloneOffset.toModel.unpack = .finite .positive 7036874417766400 (-45) (by decide) := rfl

/-- The exact sum of a finite value and the clone offset is at most `(2^53 - 1) * 2^971 + 200`,
below half a unit above the largest double. -/
theorem isFinite_pack_add_offset {s : Sign} {m : Nat} {e : Int} {h : 0 < m} (mantBits : m < 2 ^ 53)
    (eTop : e ≤ 971) :
    (Float.Model.pack (UnpackedFloat.add .binary64 (.finite s m e h)
      (.finite .positive 7036874417766400 (-45) (by decide)))).isFinite = true := by
  simp only [UnpackedFloat.add, decreaseExponent, Nat.shiftLeft_eq]
  refine isFinite_pack_normalize _ (by omega) ?_
  generalize aIs : (e - min e (-45)).toNat = a
  generalize bIs : (-45 - min e (-45)).toNat = b
  generalize xIs : (970 - min e (-45)).toNat = x
  have exps : a ≤ x + 1 ∧ b + 53 ≤ x := by omega
  have sumBound : (s.apply (m * 2 ^ a : Nat) + Sign.positive.apply (7036874417766400 * 2 ^ b : Nat)).natAbs
      ≤ m * 2 ^ a + 7036874417766400 * 2 ^ b := by
    cases s <;> simp only [Sign.apply] <;> omega
  have valueBound : m * 2 ^ a ≤ (2 ^ 53 - 1) * (2 * 2 ^ x) := by
    refine Nat.mul_le_mul (by omega) ?_
    rw [← Nat.pow_succ']
    exact Nat.pow_le_pow_right (by decide) exps.1
  have offsetBound : 7036874417766400 * 2 ^ b < 2 ^ x := calc
    7036874417766400 * 2 ^ b < 2 ^ 53 * 2 ^ b :=
      Nat.mul_lt_mul_of_pos_right (by decide) (Nat.two_pow_pos b)
    _ = 2 ^ (53 + b) := (Nat.pow_add 2 53 b).symm
    _ ≤ 2 ^ x := Nat.pow_le_pow_right (by decide) (by omega)
  omega

/-- Moving a finite coordinate by the clone offset keeps it finite: even the largest double plus
`200` rounds back to the largest double. -/
theorem isFinite_add_cloneOffset {x : Float} (xFinite : x.isFinite = true) :
    (x + Editor.cloneOffset).isFinite = true := by
  show (Float.Model.pack (UnpackedFloat.add .binary64 x.toModel.unpack
    Editor.cloneOffset.toModel.unpack)).isFinite = true
  rw [cloneOffset_unpack]
  have unpackedFinite : x.toModel.unpack.isFinite = true := xFinite
  generalize unpacked : x.toModel.unpack = u at unpackedFinite
  cases u with
  | notANumber => cases unpackedFinite
  | infinity s => cases unpackedFinite
  | zero s => exact isFinite_pack_finite (by decide)
  | finite s m e h =>
    obtain ⟨mantBits, eTop⟩ := unpack_finite_bounds unpacked
    exact isFinite_pack_add_offset mantBits eTop

end Overflow

end Binary64

end PipelineEditor
