import Mathlib
import PipelineEditor.Proofs.Float.Rounding

/-! The shortest digits of a double lie in its rounding interval, so they read back as it. -/

namespace PipelineEditor

namespace Decimal

open Binary64

section Compare

theorem compare_div_cast {D : ℚ} (denPos : 0 < D) (x y : ℕ) :
    compare ((x : ℚ) / D) (y / D) = compare x y := by
  have mono : StrictMono fun n : ℕ => (n : ℚ) / D := fun a b h =>
    div_lt_div_of_pos_right (by exact_mod_cast h) denPos
  exact (compare_iff _ _).mpr (mono.compares.mpr ((compare_iff _ _).mp rfl))

/-- `2^p` as a quotient of natural powers. -/
theorem two_zpow_eq (p : ℤ) : (2 : ℚ) ^ p = 2 ^ p.toNat / 2 ^ (-p).toNat := by
  rw [← zpow_natCast, ← zpow_natCast, ← zpow_sub₀ two_ne_zero]
  congr 1
  omega

/-- `10^t` as a quotient of natural powers. -/
theorem ten_zpow_eq (t : ℤ) : (10 : ℚ) ^ t = 10 ^ t.toNat / 10 ^ (-t).toNat := by
  rw [← zpow_natCast, ← zpow_natCast, ← zpow_sub₀ (by norm_num)]
  congr 1
  omega

/-- `compareScaled` compares the two values exactly. -/
theorem compareScaled_eq (a : ℕ) (p : ℤ) (b : ℕ) (t : ℤ) :
    compareScaled a p b t = compare ((a : ℚ) * 2 ^ p) (b * 10 ^ t) := by
  have denPos : (0 : ℚ) < 2 ^ (-p).toNat * 10 ^ (-t).toNat := by positivity
  have left : (a : ℚ) * 2 ^ p =
      ((a * Nat.pow 2 p.toNat * Nat.pow 10 (-t).toNat : ℕ) : ℚ) / (2 ^ (-p).toNat * 10 ^ (-t).toNat) := by
    rw [two_zpow_eq]
    push_cast [Nat.pow_eq]
    field_simp
  have right : (b : ℚ) * 10 ^ t =
      ((b * Nat.pow 10 t.toNat * Nat.pow 2 (-p).toNat : ℕ) : ℚ) / (2 ^ (-p).toNat * 10 ^ (-t).toNat) := by
    rw [ten_zpow_eq]
    push_cast [Nat.pow_eq]
    field_simp
  rw [left, right, compare_div_cast denPos]
  rfl

/-- A rounding interval contains `d * 10^k` exactly when the value lies in it. -/
theorem contains_iff (r : RoundingInterval) (d : ℕ) (k : ℤ) :
    r.contains d k = true ↔ Holds r (d * 10 ^ k) := by
  unfold RoundingInterval.contains Holds
  rw [compareScaled_eq, compareScaled_eq]
  simp only [Bool.and_eq_true, Bool.or_eq_true, beq_iff_eq, compare_lt_iff_lt, compare_eq_iff_eq,
    compare_gt_iff_gt, eq_comm (b := (d : ℚ) * 10 ^ k)]

end Compare

section Log

/-- `10^k ≤ 2^b` for natural exponents whenever `10 k ≤ 3 b`, since `10^3 ≤ 2^10`. -/
theorem ten_pow_le_two_pow {k b : ℕ} (ratio : 10 * k ≤ 3 * b) : 10 ^ k ≤ 2 ^ b := by
  refine (Nat.pow_le_pow_iff_left (n := 10) (by norm_num)).mp ?_
  calc (10 ^ k) ^ 10 = 10 ^ (10 * k) := by rw [← pow_mul, mul_comm]
    _ ≤ 10 ^ (3 * b) := Nat.pow_le_pow_right (by norm_num) ratio
    _ = (10 ^ 3) ^ b := pow_mul _ _ _
    _ ≤ (2 ^ 10) ^ b := Nat.pow_le_pow_left (by norm_num) _
    _ = (2 ^ b) ^ 10 := by rw [← pow_mul, ← pow_mul, mul_comm]

/-- `2^c ≤ 10^k` for natural exponents whenever `28 c ≤ 93 k`, since `2^93 ≤ 10^28`. -/
theorem two_pow_le_ten_pow {c k : ℕ} (ratio : 28 * c ≤ 93 * k) : 2 ^ c ≤ 10 ^ k := by
  refine (Nat.pow_le_pow_iff_left (n := 93) (by norm_num)).mp ?_
  calc (2 ^ c) ^ 93 = (2 ^ 93) ^ c := by rw [← pow_mul, ← pow_mul, mul_comm]
    _ ≤ (10 ^ 28) ^ c := Nat.pow_le_pow_left (by norm_num) _
    _ = 10 ^ (28 * c) := by rw [← pow_mul]
    _ ≤ 10 ^ (93 * k) := Nat.pow_le_pow_right (by norm_num) ratio
    _ = (10 ^ k) ^ 93 := by rw [← pow_mul, mul_comm]

/-- The estimate `⌊b * 0.30103⌋` of `log10 (2^b)` is less than four too high, for `b` in the range
of doubles and well beyond. -/
theorem ten_zpow_estimate_le {b : ℤ} (aboveMin : -10000 ≤ b) (belowMax : b ≤ 3000) :
    (10 : ℚ) ^ (b * 30103 / 100000 - 4) ≤ 2 ^ b := by
  have floorLe := Int.ediv_mul_le (b * 30103) (by norm_num : (100000 : ℤ) ≠ 0)
  set k := b * 30103 / 100000 - 4 with kIs
  rcases le_or_gt 0 b with bSign | bSign
  · rcases lt_or_ge k 0 with kSign | kSign
    · exact (zpow_le_one_of_nonpos₀ (by norm_num) kSign.le).trans (one_le_zpow₀ one_le_two bSign)
    · obtain ⟨K, KIs⟩ : ∃ K : ℕ, k = K := ⟨k.toNat, by omega⟩
      obtain ⟨n, nIs⟩ : ∃ n : ℕ, b = n := ⟨b.toNat, by omega⟩
      rw [KIs, nIs, zpow_natCast, zpow_natCast]
      exact_mod_cast ten_pow_le_two_pow (by omega)
  · obtain ⟨c, cIs⟩ : ∃ c : ℕ, b = -c := ⟨b.natAbs, by omega⟩
    obtain ⟨K, KIs⟩ : ∃ K : ℕ, k = -K := ⟨k.natAbs, by omega⟩
    rw [KIs, cIs, zpow_neg, zpow_neg, zpow_natCast, zpow_natCast]
    apply inv_anti₀ (by positivity)
    exact_mod_cast two_pow_le_ten_pow (by omega)

/-- The walk from an estimate at most `fuel` steps too high ends on a power of ten at most the
value: a step down is taken only from above the value, a step up only to a power below it. -/
theorem floorLog10From_le {a : ℕ} {p : ℤ} :
    ∀ (fuel : ℕ) (e : ℤ), (10 : ℚ) ^ (e - fuel) ≤ a * 2 ^ p →
      (10 : ℚ) ^ floorLog10From a p fuel e ≤ a * 2 ^ p
  | 0, e, below => by simpa [floorLog10From] using below
  | fuel + 1, e, below => by
    unfold floorLog10From
    simp only [compareScaled_eq, Nat.cast_one, one_mul, beq_iff_eq, bne_iff_ne, ne_eq,
      compare_lt_iff_lt]
    split
    · apply floorLog10From_le fuel (e - 1)
      rwa [show e - 1 - (fuel : ℤ) = e - ((fuel + 1 : ℕ) : ℤ) by push_cast; ring]
    · rename_i notBelow
      split
      · rename_i nextBelow
        apply floorLog10From_le fuel (e + 1)
        exact (zpow_le_zpow_right₀ (by norm_num) (by omega)).trans (not_lt.mp nextBelow)
      · exact not_lt.mp notBelow

/-- `floorLog10` never overshoots: `10^(floorLog10 a p) ≤ a * 2^p` for the values of doubles. -/
theorem floorLog10_le {a : ℕ} {p : ℤ} (positive : 0 < a) (aboveMin : -10000 ≤ (a.log2 : ℤ) + p)
    (belowMax : (a.log2 : ℤ) + p ≤ 3000) : (10 : ℚ) ^ floorLog10 a p ≤ a * 2 ^ p := by
  apply floorLog10From_le 4
  have estimate : (2 : ℚ) ^ ((a.log2 : ℤ) + p) ≤ a * 2 ^ p := by
    rw [zpow_add₀ two_ne_zero, zpow_natCast]
    gcongr
    exact_mod_cast Nat.log2_self_le positive.ne'
  exact (ten_zpow_estimate_le aboveMin belowMax).trans estimate

end Log

section Grid

variable {b : Binary}

/-- The grid point below a double: `lower * 10^k` is the last point of the grid of spacing `10^k`
at or below the double, and `exact` says whether it is the double. -/
theorem gridBelow_spec {e10 : ℤ} {n lower : ℕ} {k : ℤ} {exact : Bool}
    (grid : b.gridBelow e10 n = (lower, k, exact)) :
    k = e10 - n + 1 ∧ (lower : ℚ) * 10 ^ k ≤ b.significand * 2 ^ b.exponent ∧
      (b.significand : ℚ) * 2 ^ b.exponent < (lower + 1) * 10 ^ k ∧
      (exact = true ↔ (lower : ℚ) * 10 ^ k = b.significand * 2 ^ b.exponent) := by
  unfold Binary.gridBelow at grid
  simp only [Prod.mk.injEq, Nat.pow_eq] at grid
  obtain ⟨lowerIs, kIs, exactIs⟩ := grid
  subst kIs
  set k := e10 - n + 1
  set num := 4 * b.significand * 2 ^ (b.exponent - 2).toNat * 10 ^ (-k).toNat
  set den := 10 ^ k.toNat * 2 ^ (-(b.exponent - 2)).toNat
  have denPos : (0 : ℚ) < den := by positivity
  have value : (b.significand : ℚ) * 2 ^ b.exponent = (num : ℚ) / den * 10 ^ k := by
    have four : (2 : ℚ) ^ b.exponent = 4 * 2 ^ (b.exponent - 2) := by
      rw [zpow_sub₀ two_ne_zero]
      norm_num
      ring
    rw [four, two_zpow_eq, ten_zpow_eq]
    simp only [num, den]
    push_cast
    field_simp
  have split : (num : ℚ) / den = lower + ((num % den : ℕ) : ℚ) / den := by
    rw [← lowerIs, div_eq_iff denPos.ne', add_mul, div_mul_cancel₀ _ denPos.ne']
    exact_mod_cast (Nat.div_add_mod' num den).symm
  have remLt : ((num % den : ℕ) : ℚ) / den < 1 := by
    rw [div_lt_one denPos]
    exact_mod_cast Nat.mod_lt _ (by positivity)
  have remNonneg : 0 ≤ ((num % den : ℕ) : ℚ) / den := by positivity
  have tenPos : (0 : ℚ) < 10 ^ k := by positivity
  refine ⟨rfl, ?_, ?_, ?_⟩
  · rw [value, split]
    nlinarith
  · rw [value, split]
    nlinarith
  · rw [← exactIs, beq_iff_eq, value, split, add_mul, left_eq_add,
      mul_eq_zero_iff_right tenPos.ne', div_eq_zero_iff, Nat.cast_eq_zero, or_iff_left denPos.ne']

/-- Of two neighbouring grid points `nearer` picks one. -/
theorem nearer_cases (b : Binary) (lower : ℕ) (k : ℤ) :
    b.nearer lower k = ⟨lower, k⟩ ∨ b.nearer lower k = ⟨lower + 1, k⟩ := by
  unfold Binary.nearer
  split
  · exact Or.inl rfl
  · exact Or.inr rfl

/-- Every candidate reads back as the double: the double itself, or a grid point of its interval. -/
theorem candidate_holds (valid : Valid b) {e10 : ℤ} {n : ℕ} {s : Scientific}
    (found : b.candidate e10 n = some s) : Holds b.interval (s.digits * 10 ^ s.exponent) := by
  rcases grid : b.gridBelow e10 n with ⟨lower, k, exact⟩
  obtain ⟨-, -, -, exactIff⟩ := gridBelow_spec grid
  unfold Binary.candidate at found
  rw [grid] at found
  simp only at found
  split at found
  · rename_i isExact
    cases found
    rw [exactIff.mp isExact]
    exact Holds.center valid
  · have lowIff := contains_iff b.interval lower k
    have highIff := contains_iff b.interval (lower + 1) k
    split at found
    · rename_i lowIn highIn
      cases found
      rcases nearer_cases b lower k with picked | picked <;> rw [picked]
      · exact lowIff.mp lowIn
      · exact_mod_cast highIff.mp highIn
    · rename_i lowIn _
      cases found
      exact lowIff.mp lowIn
    · rename_i _ highIn
      cases found
      exact_mod_cast highIff.mp highIn
    · cases found

/-- Of two neighbouring points of a grid at most the double over `10^16` apart, one below the
double and one above, one lies in its interval: the spacing is smaller than the interval, so the
point below cannot miss it at its low end while the point above misses it at its high end. -/
theorem holds_of_neighbours (valid : Valid b) {lower : ℕ} {k : ℤ}
    (fine : (10 : ℚ) ^ k * 10 ^ 16 ≤ b.significand * 2 ^ b.exponent)
    (below : (lower : ℚ) * 10 ^ k < b.significand * 2 ^ b.exponent)
    (above : (b.significand : ℚ) * 2 ^ b.exponent < (lower + 1) * 10 ^ k) :
    Holds b.interval (lower * 10 ^ k) ∨ Holds b.interval ((lower + 1 : ℕ) * 10 ^ k) := by
  by_contra bothOut
  obtain ⟨lowOut, highOut⟩ := not_or.mp bothOut
  have twoPos : (0 : ℚ) < 2 ^ b.exponent := by positivity
  set c : ℚ := if b.lowerCloser then 1 / 4 else 1 / 2 with cIs
  have cPos : 0 < c := by
    rw [cIs]
    split <;> norm_num
  have low := interval_low_value valid
  have high := interval_high_value b
  rw [← cIs] at low
  have lowMiss : (lower : ℚ) * 10 ^ k ≤ (b.significand - c) * 2 ^ b.exponent := by
    by_contra inside
    refine lowOut ⟨Or.inl (by rw [low]; exact not_le.mp inside), Or.inl ?_⟩
    rw [high]
    nlinarith
  have highMiss : ((b.significand : ℚ) + 1 / 2) * 2 ^ b.exponent ≤ (lower + 1) * 10 ^ k := by
    by_contra inside
    refine highOut ⟨Or.inl ?_, Or.inl (by rw [high]; exact_mod_cast not_le.mp inside)⟩
    rw [low]
    push_cast
    nlinarith
  have width : (1 / 2 + c) * 2 ^ b.exponent ≤ 10 ^ k := by linarith
  have mantLt : (b.significand : ℚ) < 2 ^ 53 := by exact_mod_cast valid.significand_lt
  by_cases closerBelow : b.lowerCloser = true
  · -- at a power of two the interval is three quarters of a unit, and the mantissa is `2^52`
    have mantPow : (b.significand : ℚ) = 2 ^ 52 := by
      exact_mod_cast (valid.of_lowerCloser closerBelow).1
    rw [cIs, if_pos closerBelow] at width
    rw [mantPow] at fine
    linarith
  · rw [cIs, if_neg closerBelow] at width
    nlinarith

/-- On a grid whose spacing is at most the double over `10^16` some point reads back as the double. -/
theorem candidate_isSome (valid : Valid b) {e10 : ℤ} {n : ℕ}
    (fine : (10 : ℚ) ^ (e10 - n + 1 + 16) ≤ b.significand * 2 ^ b.exponent) :
    (b.candidate e10 n).isSome := by
  rcases grid : b.gridBelow e10 n with ⟨lower, k, exact⟩
  obtain ⟨kIs, below, above, exactIff⟩ := gridBelow_spec grid
  have spacing : (10 : ℚ) ^ k * 10 ^ 16 ≤ b.significand * 2 ^ b.exponent := by
    rw [← zpow_natCast, ← zpow_add₀ (by norm_num), kIs]
    exact_mod_cast fine
  unfold Binary.candidate
  rw [grid]
  simp only
  split
  · rfl
  rename_i notExact
  have strictlyBelow : (lower : ℚ) * 10 ^ k < b.significand * 2 ^ b.exponent :=
    lt_of_le_of_ne below fun holds => notExact (exactIff.mpr holds)
  cases lowIn : b.interval.contains lower k <;> cases highIn : b.interval.contains (lower + 1) k <;>
    simp only [Option.isSome_some]
  rcases holds_of_neighbours valid spacing strictlyBelow above with holds | holds
  · rw [← contains_iff, lowIn] at holds
    cases holds
  · rw [← contains_iff, highIn] at holds
    cases holds

/-- When the last grid searched has a candidate, the search returns the candidate of some grid. -/
theorem search_eq_candidate {e10 : ℤ} : ∀ (fuel n : ℕ), (b.candidate e10 (n + fuel)).isSome →
    ∃ n', b.candidate e10 n' = some (b.search e10 fuel n)
  | 0, n, last => by
    obtain ⟨s, isSome⟩ := Option.isSome_iff_exists.mp (Nat.add_zero n ▸ last)
    exact ⟨n, by simp only [Binary.search, isSome, Option.getD_some]⟩
  | fuel + 1, n, last => by
    unfold Binary.search
    cases found : b.candidate e10 n with
    | some s => exact ⟨n, found⟩
    | none =>
      refine search_eq_candidate fuel (n + 1) ?_
      rwa [show n + 1 + fuel = n + (fuel + 1) by omega]

end Grid

section Normalize

/-- Dropping trailing zeros keeps the value. -/
theorem normalize_value : ∀ (fuel : ℕ) (s : Scientific),
    ((s.normalize fuel).digits : ℚ) * 10 ^ (s.normalize fuel).exponent = s.digits * 10 ^ s.exponent
  | 0, _ => rfl
  | fuel + 1, s => by
    unfold Scientific.normalize
    split
    · rename_i divisible
      rw [normalize_value fuel]
      have divMul : ((s.digits / 10 : ℕ) : ℚ) * 10 = s.digits := by
        exact_mod_cast Nat.div_mul_cancel (Nat.dvd_of_mod_eq_zero divisible.2)
      rw [zpow_add_one₀ (by norm_num), ← mul_assoc, mul_comm _ (10 : ℚ), ← mul_assoc,
        mul_comm (10 : ℚ), divMul]
    · rfl

end Normalize

section Shortest

variable {b : Binary}

/-- The shortest digits of a double read back as it: they lie in its interval. -/
theorem shortest_holds (valid : Valid b) :
    Holds b.interval (b.shortest.digits * 10 ^ b.shortest.exponent) := by
  unfold Binary.shortest
  rw [if_neg valid.significand_pos.ne', normalize_value]
  have logLt : b.significand.log2 < 53 := (Nat.log2_lt valid.significand_pos.ne').mpr valid.significand_lt
  have fine := floorLog10_le (p := b.exponent) valid.significand_pos (by linarith [valid.exponent_ge])
    (by linarith [valid.exponent_le, logLt])
  obtain ⟨n, found⟩ := search_eq_candidate 16 1 (candidate_isSome valid (by
    rwa [show floorLog10 b.significand b.exponent - ((1 + 16 : ℕ) : ℤ) + 1 + 16 =
      floorLog10 b.significand b.exponent by push_cast; ring]))
  exact candidate_holds valid found

end Shortest

end Decimal

end PipelineEditor
