import Mathlib
import PipelineEditor.Proofs.Float.Rounding

/-! Doubles taken apart, and read from decimal notation as the double whose interval holds it. -/

namespace PipelineEditor

namespace Decimal

/-- The sign of a decoded double, as the float model writes it. -/
def Binary.sign (b : Binary) : Float.Model.UnpackedFloat.Sign :=
  if b.negative then .negative else .positive

end Decimal

namespace Binary64

open Float.Model Float.Model.UnpackedFloat Decimal

section Bits

theorem unpack_packComponents_normal (s : Sign) {e : BitVec 11} (m : BitVec 52)
    (notAllOnes : e ≠ -1#11) (notZero : e ≠ 0#11) :
    UnpackedFloat.unpack .binary64 (packComponents .binary64 s e m) =
      .finite s (2 ^ 52 + m.toNat) (e.toNat - 1075) (by positivity) := by
  have lead : (1#1 ++ m).toNat = 2 ^ 52 + m.toNat := by
    rw [BitVec.toNat_append, ← Nat.shiftLeft_add_eq_or_of_lt m.isLt]
    simp [Nat.shiftLeft_eq]
  simp only [UnpackedFloat.unpack, unpackExponent_packComponents, unpackMantissa_packComponents,
    unpackSign_packComponents, Sign.ofBitVec_toBitVec, notAllOnes, notZero, if_false, lead]
  rfl

theorem unpack_packComponents_subnormal (s : Sign) {m : BitVec 52} (nonzero : m ≠ 0#52) :
    UnpackedFloat.unpack .binary64 (packComponents .binary64 s 0#11 m) =
      .finite s m.toNat (-1074) (by simpa [BitVec.toNat_pos, BitVec.pos_iff_ne_zero]) := by
  have notAllOnes : (0#11 : BitVec 11) ≠ -1#11 := by decide
  simp only [UnpackedFloat.unpack, unpackExponent_packComponents, unpackMantissa_packComponents,
    unpackSign_packComponents, Sign.ofBitVec_toBitVec, notAllOnes, nonzero, if_false, if_true, dif_neg,
    not_false_eq_true]
  rfl

theorem unpack_pack_finite (s : Sign) {m : ℕ} {q : ℤ} (positive : 0 < m) (fits : m < 2 ^ 53)
    (aboveLeast : -1074 ≤ q) (belowTop : q ≤ 971) (normal : 2 ^ 52 ≤ m ∨ q = -1074) :
    (Float.Model.pack (.finite s m q positive)).unpack = .finite s m q positive := by
  show UnpackedFloat.unpack .binary64 (UnpackedFloat.pack .binary64 (.finite s m q positive)) = _
  have noOverflow : ¬ (2 ^ Format.binary64.exponentBits ≤
      (q + Format.binary64.exponentBias + Format.binary64.mantissaBitsWithoutImplicit).toNat + 1) := by
    show ¬ (2 ^ 11 ≤ (q + 1023 + 52).toNat + 1)
    omega
  unfold UnpackedFloat.pack
  simp only [noOverflow, if_false]
  by_cases full : 2 ^ 52 ≤ m
  · have logIs : m.log2 + 1 = Format.binary64.mantissaBits := by
      rw [(Nat.log2_eq_iff positive.ne').mpr ⟨full, fits⟩]
      rfl
    simp only [logIs, if_true]
    have biased : (q + Format.binary64.exponentBias +
        Format.binary64.mantissaBitsWithoutImplicit).toNat = (q + 1075).toNat := by
      show (q + (1023 : ℕ) + (52 : ℕ)).toNat = _
      omega
    have notZero : BitVec.ofNat 11 (q + 1075).toNat ≠ 0#11 := by
      intro zero
      have := congrArg BitVec.toNat zero
      simp only [BitVec.toNat_ofNat] at this
      omega
    rw [biased, unpack_packComponents_normal s _ (ofNat_ne_allOnes (by omega)) notZero]
    simp only [UnpackedFloat.finite.injEq, BitVec.toNat_ofNat, true_and]
    omega
  · have logIs : m.log2 + 1 ≠ Format.binary64.mantissaBits := by
      have : m.log2 < 52 := (Nat.log2_lt positive.ne').mpr (by omega)
      show m.log2 + 1 ≠ 53
      omega
    have least : q = -1074 := normal.resolve_left full
    have nonzero : BitVec.ofNat 52 m ≠ 0#52 := by
      intro zero
      have := congrArg BitVec.toNat zero
      simp only [BitVec.toNat_ofNat] at this
      omega
    simp only [logIs, if_false]
    rw [unpack_packComponents_subnormal s nonzero]
    simp only [UnpackedFloat.finite.injEq, BitVec.toNat_ofNat, true_and, least, and_true]
    omega

end Bits

section Decode

theorem toNat_unpackExponent (w : BitVec 64) :
    (@unpackExponent .binary64 w).toNat = w.toNat / 2 ^ 52 % 2 ^ 11 := by
  simp [unpackExponent, BitVec.extractLsb_toNat, Nat.shiftRight_eq_div_pow]

theorem toNat_unpackMantissa (w : BitVec 64) :
    (@unpackMantissa .binary64 w).toNat = w.toNat % 2 ^ 52 := by
  simp [unpackMantissa, BitVec.extractLsb_toNat]

theorem ofBitVec_unpackSign (w : BitVec 64) :
    Sign.ofBitVec (@unpackSign .binary64 w) =
      if w.toNat / 2 ^ 63 = 1 then .negative else .positive := by
  have bound := w.isLt
  have signBits : (@unpackSign .binary64 w).toNat = w.toNat / 2 ^ 63 := by
    simp [unpackSign, BitVec.extractLsb_toNat, Nat.shiftRight_eq_div_pow]
    omega
  unfold Sign.ofBitVec
  by_cases topSet : w.toNat / 2 ^ 63 = 1
  · rw [if_pos topSet, if_neg]
    intro zero
    rw [zero] at signBits
    simp at signBits
    omega
  · rw [if_neg topSet, if_pos]
    apply BitVec.eq_of_toNat_eq
    simp only [signBits, BitVec.toNat_zero]
    omega

/-- `unpack` reads the fields `Kind.ofFloat` reads: the two agree on the kind of a double, and on
the sign, mantissa and exponent of a finite one. -/
theorem unpack_of_kind (f : Float) :
    match Kind.ofFloat f with
    | .nan => f.toModel.unpack = .notANumber
    | .infinite negative => f.toModel.unpack = .infinity (if negative then .negative else .positive)
    | .finite b => f.toModel.unpack = if isZero : b.significand = 0 then .zero b.sign
        else .finite b.sign b.significand b.exponent (Nat.pos_of_ne_zero isZero) := by
  obtain ⟨w, bits⟩ : ∃ w, f.toModel.toBits.toBitVec = w := ⟨_, rfl⟩
  have toBitsIs : f.toBits.toNat = w.toNat := by rw [← bits]; rfl
  have expBits := toNat_unpackExponent w
  have mantBits := toNat_unpackMantissa w
  have signIs := ofBitVec_unpackSign w
  have allOnesIff : @unpackExponent .binary64 w = -1#11 ↔ w.toNat / 2 ^ 52 % 2 ^ 11 = 2047 := by
    rw [← BitVec.toNat_inj, expBits]
    rfl
  have zeroIff : @unpackExponent .binary64 w = 0#11 ↔ w.toNat / 2 ^ 52 % 2 ^ 11 = 0 := by
    rw [← BitVec.toNat_inj, expBits]
    rfl
  have fracZeroIff : @unpackMantissa .binary64 w = 0#52 ↔ w.toNat % 2 ^ 52 = 0 := by
    rw [← BitVec.toNat_inj, mantBits]
    rfl
  have zeroNotAllOnes : ¬ (0#11 : BitVec 11) = -1#11 := by decide
  unfold Kind.ofFloat
  simp only [toBitsIs, Nat.pow_eq]
  unfold Float.Model.unpack UnpackedFloat.unpack
  rw [bits]
  by_cases expAllOnes : w.toNat / 2 ^ 52 % 2 ^ 11 = 2047
  · simp only [expAllOnes, if_true, allOnesIff.mpr expAllOnes, fracZeroIff, signIs]
    by_cases fracZero : w.toNat % 2 ^ 52 = 0
    · simp only [fracZero, if_true, decide_eq_true_eq]
    · simp only [fracZero, if_false]
  · rw [if_neg expAllOnes, if_neg fun h => expAllOnes (allOnesIff.mp h)]
    by_cases expZero : w.toNat / 2 ^ 52 % 2 ^ 11 = 0
    · rw [if_pos expZero, if_pos (zeroIff.mpr expZero)]
      dsimp only
      by_cases fracZero : w.toNat % 2 ^ 52 = 0
      · rw [dif_pos (fracZeroIff.mpr fracZero), dif_pos fracZero, signIs]
        simp only [Binary.sign, decide_eq_true_eq]
      · rw [dif_neg fun h => fracZero (fracZeroIff.mp h), dif_neg fracZero]
        simp only [mantBits, signIs, expBits, expZero, UnpackedFloat.finite.injEq, Binary.sign,
          decide_eq_true_eq, true_and]
        rfl
    · rw [if_neg expZero, if_neg fun h => expZero (zeroIff.mp h)]
      have lead : (1#1 ++ @unpackMantissa .binary64 w).toNat = w.toNat % 2 ^ 52 + 2 ^ 52 := by
        rw [BitVec.toNat_append, ← Nat.shiftLeft_add_eq_or_of_lt (BitVec.isLt _), mantBits]
        simp [Nat.shiftLeft_eq]
        omega
      dsimp only
      rw [dif_neg (by omega)]
      simp only [lead, signIs, expBits, UnpackedFloat.finite.injEq, Binary.sign, decide_eq_true_eq,
        true_and]
      rfl

variable {f : Float} {b : Binary}

theorem unpack_of_ofFloat_pos (kind : Kind.ofFloat f = .finite b) (positive : 0 < b.significand) :
    f.toModel.unpack = .finite b.sign b.significand b.exponent positive := by
  have unpacked := unpack_of_kind f
  rw [kind] at unpacked
  dsimp only at unpacked
  rwa [dif_neg positive.ne'] at unpacked

theorem unpack_of_ofFloat_zero (kind : Kind.ofFloat f = .finite b) (zero : b.significand = 0) :
    f.toModel.unpack = .zero b.sign := by
  have unpacked := unpack_of_kind f
  rw [kind] at unpacked
  dsimp only at unpacked
  rwa [dif_pos zero] at unpacked

/-- A finite double decodes as finite. -/
theorem ofFloat_of_isFinite (finite : f.isFinite = true) : ∃ b, Kind.ofFloat f = .finite b := by
  have unpacked := unpack_of_kind f
  have unpackedFinite : f.toModel.unpack.isFinite = true := finite
  rcases kind : Kind.ofFloat f with b | negative | _
  · exact ⟨b, rfl⟩
  · rw [kind] at unpacked
    rw [unpacked] at unpackedFinite
    cases unpackedFinite
  · rw [kind] at unpacked
    rw [unpacked] at unpackedFinite
    cases unpackedFinite

/-- A finite nonzero double decodes to a mantissa of at most 53 bits, of all 53 above the least
exponent, at an exponent a double can have. -/
theorem valid_of_ofFloat_finite {f : Float} {b : Binary} (kind : Kind.ofFloat f = .finite b)
    (positive : 0 < b.significand) : Valid b := by
  have bitsLt : f.toBits.toNat < 2 ^ 64 := f.toBits.toNat_lt
  unfold Kind.ofFloat at kind
  simp only [Nat.pow_eq] at kind
  split at kind
  · split at kind <;> cases kind
  · rename_i notAllOnes
    split at kind
    · cases kind
      refine ⟨positive, ?_, le_rfl, by norm_num, Or.inr rfl, by simp⟩
      dsimp only
      omega
    · rename_i notZeroExp
      cases kind
      refine ⟨positive, ?_, ?_, ?_, ?_, decide_eq_decide.mpr ?_⟩ <;> dsimp only <;> omega

/-- A double packs back from what it unpacks to. -/
theorem pack_unpack_toModel (f : Float) : Float.Model.pack f.toModel.unpack = f.toModel := by
  obtain ⟨⟨bits, valid⟩⟩ := f
  simp only [Float.Model.pack, Float.Model.unpack, Float.Model.mk.injEq]
  rw [pack_unpack_of_valid valid]

end Decode

section Read

/-- The double `n * 2^E`, for a positive `n` below `2^53`, with its mantissa moved up to 53 bits. -/
def normalBinary (n : ℕ) (E : ℤ) : Binary :=
  ⟨false, n <<< (52 - n.log2), E + n.log2 - 52,
    decide (n <<< (52 - n.log2) = 2 ^ 52 ∧ -1074 < E + n.log2 - 52)⟩

theorem valid_normalBinary {n : ℕ} {E : ℤ} (positive : 0 < n) (fits : n < 2 ^ 53)
    (aboveLeast : -1074 ≤ E + n.log2 - 52) (belowTop : E + n.log2 - 52 ≤ 971) : Valid (normalBinary n E) := by
  have logLt : n.log2 < 53 := (Nat.log2_lt positive.ne').mpr fits
  have shiftedPos : 0 < n <<< (52 - n.log2) := by
    rw [Nat.shiftLeft_eq]
    positivity
  have shiftedLog := log2_shiftLeft positive (52 - n.log2)
  refine ⟨shiftedPos, ?_, aboveLeast, belowTop, Or.inl ?_, rfl⟩
  · exact (Nat.log2_lt shiftedPos.ne').mp (by omega)
  · exact (Nat.le_log2 shiftedPos.ne').mp (by omega)

theorem value_normalBinary {n : ℕ} (E : ℤ) (fits : n < 2 ^ 53) :
    ((normalBinary n E).significand : ℚ) * 2 ^ (normalBinary n E).exponent = n * 2 ^ E := by
  have logLe : n.log2 ≤ 52 := by
    rcases Nat.eq_zero_or_pos n with rfl | positive
    · simp
    · have := (Nat.log2_lt positive.ne').mpr fits
      omega
  simp only [normalBinary, Nat.shiftLeft_eq]
  push_cast
  rw [show E + n.log2 - 52 = E - ((52 - n.log2 : ℕ) : ℤ) by omega, zpow_sub₀ two_ne_zero, zpow_natCast]
  field_simp

/-- Packing a well-formed double and unpacking it gives it back. -/
theorem unpack_pack_valid {b : Binary} (valid : Valid b) (s : Sign) :
    (Float.Model.pack (.finite s b.significand b.exponent valid.significand_pos)).unpack =
      .finite s b.significand b.exponent valid.significand_pos :=
  unpack_pack_finite s valid.significand_pos valid.significand_lt valid.exponent_ge valid.exponent_le valid.normal

theorem valid_normalBinary_zero {n : ℕ} (positive : 0 < n) (fits : n < 2 ^ 53) :
    Valid (normalBinary n 0) := by
  have logLt : n.log2 < 53 := (Nat.log2_lt positive.ne').mpr fits
  exact valid_normalBinary positive fits (by omega) (by omega)

/-- A positive natural below `2^53` converts to a double exactly. -/
theorem toModel_toFloat {n : ℕ} (positive : 0 < n) (fits : n < 2 ^ 53) :
    n.toUInt64.toFloat.toModel =
      Float.Model.pack (.finite .positive (normalBinary n 0).significand (normalBinary n 0).exponent
        (valid_normalBinary_zero positive fits).significand_pos) := by
  have valid := valid_normalBinary_zero positive fits
  have center : Holds (normalBinary n 0).interval (n * 2 ^ (0 : ℤ)) := by
    have := Holds.center valid
    rwa [value_normalBinary 0 fits] at this
  show Float.Model.pack (UnpackedFloat.ofNat .binary64 (UInt64.ofNat n).toNat) = _
  rw [UInt64.toNat_ofNat', Nat.mod_eq_of_lt (by omega)]
  unfold UnpackedFloat.ofNat UnpackedFloat.ofInt UnpackedFloat.normalize
  rw [show compare (n : ℤ) 0 = .gt from compare_gt_iff_gt.mpr (by omega)]
  simp only [Int.toNat_natCast]
  rw [round_of_holds valid positive center]

theorem normalBinary_pos (n : ℕ) (E : ℤ) (positive : 0 < n) : 0 < (normalBinary n E).significand := by
  simp only [normalBinary, Nat.shiftLeft_eq]
  positivity

/-- The table of powers of ten up to `10^22` holds them exactly. -/
theorem toModel_powerOfTen {e : ℕ} (small : e ≤ 22) :
    (getElem Float.exactlyRepresentablePowersOfTen e
      (by simp [Float.exactlyRepresentablePowersOfTen]; omega)).toModel =
      Float.Model.pack (.finite .positive (normalBinary (5 ^ e) e).significand
        (normalBinary (5 ^ e) e).exponent (normalBinary_pos _ _ (by positivity))) := by
  interval_cases e <;> decide +revert

theorem valid_normalBinary_pow {e : ℕ} (small : e ≤ 22) : Valid (normalBinary (5 ^ e) e) := by
  have fiveFits : 5 ^ e < 2 ^ 53 := lt_of_le_of_lt (Nat.pow_le_pow_right (by norm_num) small) (by norm_num)
  have logLt : (5 ^ e).log2 < 53 := (Nat.log2_lt (by positivity)).mpr fiveFits
  exact valid_normalBinary (by positivity) fiveFits (by omega) (by omega)

theorem value_normalBinary_pow {e : ℕ} (small : e ≤ 22) :
    ((normalBinary (5 ^ e) e).significand : ℚ) * 2 ^ (normalBinary (5 ^ e) e).exponent = 10 ^ e := by
  have fiveFits : 5 ^ e < 2 ^ 53 := lt_of_le_of_lt (Nat.pow_le_pow_right (by norm_num) small) (by norm_num)
  rw [value_normalBinary e fiveFits, zpow_natCast]
  push_cast
  rw [← mul_pow]
  norm_num

variable {b : Binary}

/-- The fast way of reading `m * 10^e` or `m / 10^e`, for `m` below `2^53` and `e` at most `22`:
both are doubles exactly, so one product or quotient rounds the exact value. -/
theorem ofScientific_fast (valid : Valid b) {m e : ℕ} {s : Bool} (positive : 0 < m) (fits : m < 2 ^ 53)
    (small : e ≤ 22) (inside : Holds b.interval (m * 10 ^ (if s then -(e : ℤ) else e))) :
    (Float.ofScientific m s e).toModel =
      Float.Model.pack (.finite .positive b.significand b.exponent valid.significand_pos) := by
  have mValid := valid_normalBinary_zero positive fits
  have powValid := valid_normalBinary_pow small
  have mValue := value_normalBinary (n := m) 0 fits
  have powValue := value_normalBinary_pow small
  have tenPos : (0 : ℚ) < 10 ^ e := by positivity
  unfold Float.ofScientific
  rw [dif_pos ⟨fits, small⟩]
  cases s
  · show Float.Model.pack (UnpackedFloat.mul .binary64 m.toUInt64.toFloat.toModel.unpack
      (getElem Float.exactlyRepresentablePowersOfTen e _).toModel.unpack) = _
    rw [toModel_toFloat positive fits, toModel_powerOfTen small, unpack_pack_valid mValid, unpack_pack_valid powValid]
    have full : 2 ^ 52 ≤ (normalBinary m 0).significand := mValid.normal.resolve_right (by
      simp only [normalBinary]
      omega)
    refine congrArg Float.Model.pack (mul_of_holds valid _ _
      ((Nat.le_log2 (Nat.mul_pos mValid.significand_pos powValid.significand_pos).ne').mpr ?_) ?_)
    · exact full.trans (Nat.le_mul_of_pos_right _ powValid.significand_pos)
    · rw [if_neg Bool.false_ne_true, zpow_natCast] at inside
      rw [Nat.cast_mul, zpow_add₀ two_ne_zero, mul_mul_mul_comm, mValue, powValue, zpow_zero, mul_one]
      exact inside
  · show Float.Model.pack (UnpackedFloat.div .binary64 m.toUInt64.toFloat.toModel.unpack
      (getElem Float.exactlyRepresentablePowersOfTen e _).toModel.unpack) = _
    rw [toModel_toFloat positive fits, toModel_powerOfTen small, unpack_pack_valid mValid, unpack_pack_valid powValid]
    refine congrArg Float.Model.pack (div_of_holds valid _ _ ?_)
    rw [if_pos rfl, zpow_neg, zpow_natCast, ← div_eq_mul_inv] at inside
    rw [mValue, powValue, zpow_zero, mul_one]
    exact inside

/-- Every value of a double's interval is below `2^1024`. -/
theorem Holds.lt_two_pow (valid : Valid b) {x : ℚ} (inside : Holds b.interval x) : x < 2 ^ (1024 : ℤ) :=
  (inside.lt_pow valid).trans_le (zpow_le_zpow_right₀ one_le_two (by linarith [valid.exponent_le]))

/-- Every value of a double's interval is at least `2^-1075`, half the least double. -/
theorem Holds.two_pow_le (valid : Valid b) {x : ℚ} (inside : Holds b.interval x) : 2 ^ (-1075 : ℤ) ≤ x :=
  (zpow_le_zpow_right₀ one_le_two (by linarith [valid.exponent_ge])).trans (inside.pow_le valid)

/-- The model reads `m * 10^e` as the double whose interval holds the exact value: the exact
product, or the quotient for a negative exponent, is rounded once. -/
theorem ofScientific_model (valid : Valid b) {m : ℕ} {e : ℤ} (positive : 0 < m)
    (inside : Holds b.interval (m * 10 ^ e)) :
    UnpackedFloat.ofScientific .binary64 m e =
      .finite .positive b.significand b.exponent valid.significand_pos := by
  have belowMax := inside.lt_two_pow valid
  have aboveMin := inside.two_pow_le valid
  have atLeastOne : (1 : ℚ) ≤ m := by exact_mod_cast positive
  -- neither shortcut to infinity or zero is taken: the value is a double's
  have bitsIs : (2 : ℤ) ^ Format.binary64.exponentBits = 2048 := rfl
  have noInfinity : ¬ e > 2 ^ Format.binary64.exponentBits := by
    intro overflows
    rw [bitsIs] at overflows
    have : (2 : ℚ) ^ (1024 : ℤ) ≤ m * 10 ^ e :=
      calc (2 : ℚ) ^ (1024 : ℤ) ≤ 2 ^ e := zpow_le_zpow_right₀ one_le_two (by omega)
        _ ≤ 10 ^ e := zpow_le_zpow_left₀ (by omega) (by norm_num) (by norm_num)
        _ ≤ m * 10 ^ e := le_mul_of_one_le_left (by positivity) atLeastOne
    linarith
  have noZero : ¬ e < -(2 ^ Format.binary64.exponentBits + (m.log2 : ℤ)) := by
    intro under
    rw [bitsIs] at under
    have mBelow : (m : ℚ) < 2 ^ ((m.log2 : ℤ) + 1) := by
      rw [zpow_add_one₀ two_ne_zero, zpow_natCast]
      exact_mod_cast (pow_succ 2 m.log2) ▸ Nat.lt_log2_self
    have tenLe : (10 : ℚ) ^ e ≤ 2 ^ e := by
      have := zpow_le_zpow_left₀ (n := -e) (by omega) (by norm_num : (0 : ℚ) ≤ 2)
        (by norm_num : (2 : ℚ) ≤ 10)
      rw [zpow_neg, zpow_neg] at this
      exact (inv_le_inv₀ (by positivity) (by positivity)).mp this
    have : (m : ℚ) * 10 ^ e < 2 ^ (-1075 : ℤ) :=
      calc (m : ℚ) * 10 ^ e ≤ m * 2 ^ e := by gcongr
        _ < 2 ^ ((m.log2 : ℤ) + 1) * 2 ^ e := by gcongr
        _ = 2 ^ ((m.log2 : ℤ) + 1 + e) := (zpow_add₀ two_ne_zero _ _).symm
        _ ≤ 2 ^ (-1075 : ℤ) := zpow_le_zpow_right₀ one_le_two (by omega)
    linarith
  unfold UnpackedFloat.ofScientific
  rw [dif_neg positive.ne', if_neg noInfinity, if_neg noZero]
  split
  · rename_i nonneg
    have mantissaBits53 : Format.binary64.mantissaBits = 53 := rfl
    have wide : 2 ^ 52 ≤ m <<< Format.binary64.mantissaBits * 10 ^ e.toNat := by
      rw [mantissaBits53, Nat.shiftLeft_eq]
      calc 2 ^ 52 ≤ 1 * 2 ^ 53 * 1 := by norm_num
        _ ≤ m * 2 ^ 53 * 10 ^ e.toNat := by gcongr <;> [omega; exact Nat.one_le_pow _ _ (by norm_num)]
    have wideLog : 52 ≤ (m <<< Format.binary64.mantissaBits * 10 ^ e.toNat).log2 :=
      (Nat.le_log2 (by omega)).mpr wide
    refine mul_of_holds valid _ _ wideLog ?_
    have value : ((m <<< Format.binary64.mantissaBits * 10 ^ e.toNat : ℕ) : ℚ) *
        2 ^ (-(Format.binary64.mantissaBits : ℤ) + 0) = m * 10 ^ e := by
      rw [mantissaBits53, Nat.shiftLeft_eq, add_zero, zpow_neg, zpow_natCast]
      push_cast
      rw [← zpow_natCast (10 : ℚ), Int.toNat_of_nonneg nonneg]
      field_simp
      norm_num
    rwa [value]
  · rename_i negative
    refine div_of_holds valid _ _ ?_
    have value : (m : ℚ) * 2 ^ (0 : ℤ) / ((10 ^ (-e).toNat : ℕ) * 2 ^ (0 : ℤ)) = m * 10 ^ e := by
      rw [zpow_zero, mul_one, mul_one, Nat.cast_pow, ← zpow_natCast, Int.toNat_of_nonneg (by omega),
        zpow_neg, div_eq_mul_inv]
      norm_num
    rwa [value]

/-- Reading `m * 10^e`, or `m / 10^e` when `s` is set, gives the double whose interval holds the
exact value, whether the fast way or the model is taken. -/
theorem ofScientific_of_holds (valid : Valid b) {m e : ℕ} {s : Bool} (positive : 0 < m)
    (inside : Holds b.interval (m * 10 ^ (if s then -(e : ℤ) else e))) :
    (Float.ofScientific m s e).toModel =
      Float.Model.pack (.finite .positive b.significand b.exponent valid.significand_pos) := by
  by_cases fast : m < 2 ^ 53 ∧ e ≤ 22
  · exact ofScientific_fast valid positive fast.1 fast.2 inside
  · unfold Float.ofScientific
    rw [dif_neg fast]
    show Float.Model.pack (UnpackedFloat.ofScientific .binary64 m _) = _
    have exponentIs : (if s then Int.negOfNat e else Int.ofNat e) = if s then -(e : ℤ) else e := by
      cases s <;> simp [Int.negOfNat_eq]
    rw [exponentIs, ofScientific_model valid positive inside]

end Read

end Binary64

end PipelineEditor
