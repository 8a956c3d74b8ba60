import Mathlib
import PipelineEditor.Proofs.Float.Reading
import PipelineEditor.Proofs.Decimal.ShortestDigits
import PipelineEditor.Proofs.Atomicity
import PipelineEditor.Proofs.View.TransformText

/-! Every finite double reads back from its plain text bit for bit, and so does a finite transform. -/

namespace PipelineEditor

namespace Decimal

open Binary64 Float.Model Float.Model.UnpackedFloat

section Digits

theorem foldl_digits (a : ℕ) (ds : List Char) :
    ds.foldl (fun acc c => acc * 10 + digitValue c) a = a * 10 ^ ds.length + digitsValue ds := by
  induction ds generalizing a with
  | nil => simp [digitsValue]
  | cons c ds ih =>
    simp only [List.foldl_cons, digitsValue, List.length_cons]
    rw [ih, ih (0 * 10 + digitValue c)]
    ring

/-- Digits written after others shift them up. -/
theorem digitsValue_append (xs ys : List Char) :
    digitsValue (xs ++ ys) = digitsValue xs * 10 ^ ys.length + digitsValue ys := by
  rw [digitsValue, List.foldl_append, foldl_digits]
  rfl

theorem digitsValue_replicate_zero (z : ℕ) : digitsValue (List.replicate z '0') = 0 := by
  induction z with
  | zero => rfl
  | succ z ih =>
    rw [List.replicate_succ', digitsValue_append, ih]
    rfl

/-- Digits followed by text that does not start with a digit split into the two. -/
theorem spanDigits_append {ds rest : List Char} (digits : ∀ c ∈ ds, c.isDigit = true)
    (restNotDigit : ∀ c ∈ rest.head?, c.isDigit = false) : spanDigits (ds ++ rest) = (ds, rest) := by
  unfold spanDigits
  rw [List.takeWhile_append_of_pos digits, List.dropWhile_append_of_pos digits]
  cases rest with
  | nil => simp
  | cons c rest => simp [restNotDigit c rfl]

/-- Digits, a point and digits read as their digits over a power of ten. -/
theorem readUnsigned?_point {whole fraction : List Char} (wholeDigits : ∀ c ∈ whole, c.isDigit = true)
    (fractionDigits : ∀ c ∈ fraction, c.isDigit = true) (nonempty : whole ≠ []) :
    readUnsigned? (whole ++ '.' :: fraction) =
      some (nearestDouble (digitsValue (whole ++ fraction)) (-(fraction.length : ℤ))) := by
  have wholeSplit := @spanDigits_append _ ('.' :: fraction) wholeDigits (by simp)
  have fractionSplit := @spanDigits_append _ [] fractionDigits (by simp)
  rw [List.append_nil] at fractionSplit
  have notEmpty : whole.isEmpty = false := List.isEmpty_eq_false_iff.mpr nonempty
  simp only [readUnsigned?, wholeSplit, fractionSplit, notEmpty, Bool.false_and, Bool.false_eq_true, if_false,
    Option.map_some, zero_sub]

/-- Digits alone read as their value. -/
theorem readUnsigned?_digits {ds : List Char} (digits : ∀ c ∈ ds, c.isDigit = true) (nonempty : ds ≠ []) :
    readUnsigned? ds = some (nearestDouble (digitsValue ds) 0) := by
  have split := @spanDigits_append _ [] digits (by simp)
  rw [List.append_nil] at split
  have notEmpty : ds.isEmpty = false := List.isEmpty_eq_false_iff.mpr nonempty
  simp only [readUnsigned?, split, notEmpty, Bool.false_and, Bool.false_eq_true, if_false,
    Option.map_some, List.append_nil, List.length_nil, Nat.cast_zero, sub_zero]

end Digits

section Layout

/-- The digits of a positive `d * 10^k`, laid out plainly, read back as a decimal of that value. -/
theorem readUnsigned?_body {d : ℕ} (positive : 0 < d) (k : ℤ) :
    ∃ (M : ℕ) (E : ℤ), 0 < M ∧ (M : ℚ) * 10 ^ E = d * 10 ^ k ∧
      readUnsigned? (Layout.plain.body (natDigits d) (k + (natDigits d).length)).toList =
        some (nearestDouble M E) := by
  have digits : ∀ c ∈ Nat.toDigits 10 d, c.isDigit = true := fun c listed =>
    Nat.isDigit_of_mem_toDigits (by decide) (by decide) listed
  have value : digitsValue (Nat.toDigits 10 d) = d := Editor.digitsValue_toDigits d
  have nonempty : Nat.toDigits 10 d ≠ [] := Nat.toDigits_ne_nil
  have length : (natDigits d).length = (Nat.toDigits 10 d).length := by simp [natDigits]
  have chars : (natDigits d).toList = Nat.toDigits 10 d := String.toList_ofList
  have zeroDigits : ∀ z, ∀ c ∈ List.replicate z '0', c.isDigit = true := fun z c listed => by
    rw [List.eq_of_mem_replicate listed]
    rfl
  simp only [Layout.body, positional_plain, if_true, length]
  split_ifs with low mid
  · -- at or below the first digit: `0.`, zeros, then the digits
    refine ⟨d, k, positive, rfl, ?_⟩
    have point : "0.".toList = ['0', '.'] := rfl
    simp only [String.toList_append, point, zeros, String.toList_ofList, chars]
    set z := (-(k + ((Nat.toDigits 10 d).length : ℤ))).toNat
    have split : ['0', '.'] ++ List.replicate z '0' ++ Nat.toDigits 10 d =
        ['0'] ++ '.' :: (List.replicate z '0' ++ Nat.toDigits 10 d) := rfl
    have fractionDigits : ∀ c ∈ List.replicate z '0' ++ Nat.toDigits 10 d, c.isDigit = true :=
      List.forall_mem_append.mpr ⟨zeroDigits z, digits⟩
    rw [split, readUnsigned?_point (by simp) fractionDigits (List.cons_ne_nil _ _), ← List.append_assoc,
      digitsValue_append, digitsValue_append, digitsValue_replicate_zero, value]
    congr 2
    · simp [digitsValue, digitValue]
    · simp only [List.length_append, List.length_replicate]
      omega
  · -- inside the digits: the point splits them
    refine ⟨d, k, positive, rfl, ?_⟩
    set p := (k + ((Nat.toDigits 10 d).length : ℤ)).toNat
    have dot : ".".toList = ['.'] := rfl
    simp only [String.toList_append, String.toList_ofList, chars, dot, List.append_assoc,
      List.singleton_append]
    have wholeNonempty : List.take p (Nat.toDigits 10 d) ≠ [] := by
      simp only [ne_eq, List.take_eq_nil_iff, nonempty, or_false]
      omega
    rw [readUnsigned?_point (fun c listed => digits c (List.mem_of_mem_take listed))
      (fun c listed => digits c (List.mem_of_mem_drop listed)) wholeNonempty, List.take_append_drop, value,
      List.length_drop]
    congr 2
    omega
  · -- past the digits: zeros fill up to the point
    set z := (k + ((Nat.toDigits 10 d).length : ℤ) - ((Nat.toDigits 10 d).length : ℤ)).toNat
    have zIs : (z : ℤ) = k := by omega
    refine ⟨d * 10 ^ z, 0, by positivity, ?_, ?_⟩
    · rw [zpow_zero, mul_one, ← zIs, zpow_natCast]
      push_cast
      rfl
    · have noSuffix : (Layout.plain.integralSuffix).toList = [] := rfl
      simp only [String.toList_append, zeros, String.toList_ofList, chars, noSuffix, List.append_nil]
      rw [readUnsigned?_digits (List.forall_mem_append.mpr ⟨digits, zeroDigits z⟩)
        (by simp [nonempty]), digitsValue_append, digitsValue_replicate_zero, value, List.length_replicate,
        add_zero]

end Layout

section Nearest

/-- A positive number lies between the powers of ten its count of digits gives. -/
theorem pow_length_toDigits {M : ℕ} (positive : 0 < M) :
    10 ^ ((Nat.toDigits 10 M).length - 1) ≤ M ∧ M < 10 ^ (Nat.toDigits 10 M).length := by
  have lengthPos := Nat.length_toDigits_pos (b := 10) (n := M)
  refine ⟨?_, (Nat.length_toDigits_le_iff (by decide) lengthPos).mp le_rfl⟩
  by_cases oneDigit : (Nat.toDigits 10 M).length = 1
  · rw [oneDigit, Nat.sub_self, pow_zero]
    exact positive
  · refine not_lt.mp fun below => ?_
    have := (Nat.length_toDigits_le_iff (by decide) (by omega)).mpr below
    omega

/-- The largest double is below `10^309`. -/
theorem two_zpow_le_ten_zpow_309 : (2 : ℚ) ^ (1024 : ℤ) ≤ 10 ^ (309 : ℤ) := by
  rw [zpow_ofNat, zpow_ofNat]
  exact_mod_cast two_pow_le_ten_pow (c := 1024) (k := 309) (by norm_num)

/-- Half the least double is above `10^-331`. -/
theorem ten_zpow_le_two_zpow_1075 : (10 : ℚ) ^ (-331 : ℤ) ≤ 2 ^ (-1075 : ℤ) := by
  rw [zpow_neg, zpow_neg, zpow_ofNat, zpow_ofNat]
  apply inv_anti₀ (by positivity)
  exact_mod_cast two_pow_le_ten_pow (c := 1075) (k := 331) (by norm_num)

variable {b : Binary}

/-- `nearestDouble` reads a decimal of a double's interval as that double: the shortcuts to
infinity and zero are taken only far outside the doubles. -/
theorem nearestDouble_of_holds (valid : Valid b) {M : ℕ} {E : ℤ} (positive : 0 < M)
    (inside : Holds b.interval (M * 10 ^ E)) :
    (nearestDouble M E).toModel =
      Float.Model.pack (.finite .positive b.significand b.exponent valid.significand_pos) := by
  obtain ⟨lowPow, highPow⟩ := pow_length_toDigits positive
  set L := (Nat.toDigits 10 M).length
  have belowMax := inside.lt_two_pow valid
  have aboveLeast := inside.two_pow_le valid
  have tenPos : (0 : ℚ) < 10 ^ E := by positivity
  have noOverflow : ¬ 310 < (L : ℤ) + E := by
    intro beyond
    have bound : (10 : ℚ) ^ (309 : ℤ) ≤ M * 10 ^ E :=
      calc (10 : ℚ) ^ (309 : ℤ) ≤ 10 ^ (((L - 1 : ℕ) : ℤ) + E) :=
            zpow_le_zpow_right₀ (by norm_num) (by omega)
        _ = (10 ^ (L - 1) : ℕ) * 10 ^ E := by
            rw [zpow_add₀ (by norm_num), zpow_natCast]
            push_cast
            rfl
        _ ≤ M * 10 ^ E := by gcongr
    exact lt_irrefl _ (bound.trans_lt (belowMax.trans_le two_zpow_le_ten_zpow_309))
  have noUnderflow : ¬ (L : ℤ) + E < -330 := by
    intro beyond
    have bound : (M : ℚ) * 10 ^ E < 10 ^ (-331 : ℤ) :=
      calc (M : ℚ) * 10 ^ E < (10 ^ L : ℕ) * 10 ^ E := by gcongr
        _ = 10 ^ ((L : ℤ) + E) := by
            rw [zpow_add₀ (by norm_num), zpow_natCast]
            push_cast
            rfl
        _ ≤ 10 ^ (-331 : ℤ) := zpow_le_zpow_right₀ (by norm_num) (by omega)
    exact lt_irrefl _ (aboveLeast.trans_lt (bound.trans_le ten_zpow_le_two_zpow_1075))
  unfold nearestDouble
  rw [if_neg positive.ne']
  simp only
  rw [if_neg noOverflow, if_neg noUnderflow]
  split
  · rename_i exponentNeg
    refine ofScientific_of_holds valid positive ?_
    rwa [if_pos rfl, show -(E.natAbs : ℤ) = E by omega]
  · rename_i exponentNonneg
    refine ofScientific_of_holds valid positive ?_
    rwa [if_neg Bool.false_ne_true, show (E.toNat : ℤ) = E by omega]

end Nearest

section PlainText

/-- Two doubles of one model are one double. -/
theorem float_eq_of_toModel {f g : Float} (same : f.toModel = g.toModel) : f = g := by
  cases f
  cases g
  cases same
  rfl

theorem toModel_neg {g : Float} {u : UnpackedFloat} (model : g.toModel.unpack = u) :
    (-g).toModel = Float.Model.pack u.neg := by
  show Float.Model.pack g.toModel.unpack.neg = _
  rw [model]

theorem unpack_zero : (0 : Float).toModel.unpack = .zero .positive := rfl

/-- The plain text of a finite double: its sign, then `0` or the digits of its shortest decimal
around the point. -/
theorem plainText_of_finite {f : Float} {b : Binary} (kind : Kind.ofFloat f = .finite b) :
    plainText f = (if b.negative then "-" else "") ++
      if b.significand = 0 then "0"
      else Layout.plain.body (natDigits b.shortest.digits)
        (b.shortest.exponent + (natDigits b.shortest.digits).length) := by
  unfold plainText Layout.write
  rw [kind]
  dsimp only
  split
  · simp [Layout.plain]
  · rfl

/-- A plain body starts with a digit. -/
theorem plain_body_head {ds : String} (digits : ∀ c ∈ ds.toList, c.isDigit = true)
    (nonempty : ds.toList ≠ []) (point : Int) :
    ∃ c rest, (Layout.plain.body ds point).toList = c :: rest ∧ c.isDigit = true := by
  obtain ⟨first, later, split⟩ := List.exists_cons_of_ne_nil nonempty
  have firstDigit : first.isDigit = true := digits first (by simp [split])
  simp only [Layout.body, positional_plain, if_true]
  split_ifs with low mid
  · exact ⟨'0', _, by rw [String.toList_append, String.toList_append]; rfl, rfl⟩
  · obtain ⟨p, pIs⟩ : ∃ p, point.toNat = p + 1 := ⟨point.toNat - 1, by omega⟩
    refine ⟨first, later.take p ++ '.' :: later.drop p, ?_, firstDigit⟩
    simp [String.toList_append, split, pIs]
  · exact ⟨first, _, by rw [String.toList_append, String.toList_append, split]; rfl, firstDigit⟩

theorem toLower_of_isDigit {c : Char} (digit : c.isDigit = true) : c.toLower = c := by
  simp only [Char.isDigit, Bool.and_eq_true, decide_eq_true_eq] at digit
  have high : c.toNat ≤ 57 := digit.2
  unfold Char.toLower
  rw [dif_neg]
  rintro ⟨upper, -⟩
  have low : 65 ≤ c.toNat := upper
  omega

theorem readNumber?_signed (negative : Bool) {c : Char} {cs : List Char} (digit : c.isDigit = true) :
    readNumber? ((if negative then "-" else "") ++ String.ofList (c :: cs)) =
      (readUnsigned? (c :: cs)).map fun m => if negative then -m else m := by
  have notWord : ∀ w : String, w.toList.headD ' ' ∈ ['i', 'n'] → asciiLower (c :: cs) ≠ w.toList := by
    intro w word same
    simp only [asciiLower, List.map_cons, toLower_of_isDigit digit] at same
    rw [← same] at word
    simp only [List.headD_cons, List.mem_cons, List.mem_nil_iff, or_false] at word
    rcases word with rfl | rfl <;> exact absurd digit (by decide)
  have notSign : c ≠ '-' ∧ c ≠ '+' := by
    constructor <;> rintro rfl <;> exact absurd digit (by decide)
  have text : ((if negative then "-" else "") ++ String.ofList (c :: cs)).toList =
      (if negative then ['-'] else []) ++ c :: cs := by
    cases negative <;> simp [String.toList_append]
  have notInf := not_or.mpr ⟨notWord "inf" (by decide), notWord "infinity" (by decide)⟩
  have notNan := notWord "nan" (by decide)
  unfold readNumber?
  rw [text]
  split
  rename_i sign body split
  have signed : sign = negative ∧ body = c :: cs := by
    cases negative
    · rw [if_neg Bool.false_ne_true, List.nil_append] at split
      split at split
      · rename_i rest same
        exact absurd (List.cons.inj same).1 notSign.1
      · rename_i rest same
        exact absurd (List.cons.inj same).1 notSign.2
      · cases split
        exact ⟨rfl, rfl⟩
    · rw [if_pos rfl, List.singleton_append] at split
      split at split
      · rename_i rest same
        cases split
        exact ⟨rfl, (List.cons.inj same).2.symm⟩
      · rename_i rest same
        exact absurd (List.cons.inj same).1 (by decide)
      · rename_i unmatched _
        exact absurd rfl (unmatched (c :: cs))
  obtain ⟨rfl, rfl⟩ := signed
  dsimp only
  rw [if_neg notInf, if_neg notNan]

theorem shortest_digits_pos {b : Binary} (valid : Valid b) : 0 < b.shortest.digits := by
  have holds := shortest_holds valid
  refine Nat.pos_of_ne_zero fun zero => ?_
  rw [zero, Nat.cast_zero, zero_mul] at holds
  exact absurd (holds.two_pow_le valid) (not_le.mpr (by positivity))

/-- Every finite double reads back from its plain text, bit for bit. -/
theorem readNumber?_plainText {f : Float} (finite : f.isFinite = true) :
    readNumber? (plainText f) = some f := by
  obtain ⟨b, kind⟩ := ofFloat_of_isFinite finite
  have model := (pack_unpack_toModel f).symm
  rw [plainText_of_finite kind]
  by_cases zero : b.significand = 0
  · rw [unpack_of_ofFloat_zero kind zero] at model
    have read : readUnsigned? ['0'] = some 0 := rfl
    rw [if_pos zero, show "0" = String.ofList ['0'] from rfl, readNumber?_signed _ (by decide), read,
      Option.map_some]
    congr 1
    apply float_eq_of_toModel
    rw [model, Binary.sign]
    cases b.negative
    · rw [if_neg Bool.false_ne_true, ← pack_unpack_toModel 0, unpack_zero]
      rfl
    · rw [if_pos rfl, toModel_neg unpack_zero]
      rfl
  · have pos := Nat.pos_of_ne_zero zero
    have valid := valid_of_ofFloat_finite kind pos
    rw [unpack_of_ofFloat_pos kind pos] at model
    obtain ⟨M, E, positive, value, read⟩ := readUnsigned?_body (shortest_digits_pos valid) b.shortest.exponent
    have nearest := nearestDouble_of_holds valid positive (by rw [value]; exact shortest_holds valid)
    obtain ⟨c, rest, body, digit⟩ := plain_body_head (natDigits_isDigit b.shortest.digits)
      (by simp [natDigits, Nat.toDigits_ne_nil]) (b.shortest.exponent + (natDigits b.shortest.digits).length)
    rw [if_neg zero, ← String.ofList_toList (s := Layout.plain.body _ _), body, readNumber?_signed _ digit,
      ← body, read, Option.map_some]
    congr 1
    apply float_eq_of_toModel
    rw [model, Binary.sign]
    cases b.negative
    · rw [if_neg Bool.false_ne_true, nearest]
      rfl
    · rw [if_pos rfl, toModel_neg (by rw [nearest, unpack_pack_valid valid])]
      rfl

end PlainText

end Decimal

namespace ViewTransform

/-- A view transform with finite numbers reads back from its text. -/
theorem parse_text {t : ViewTransform} (finite : t.IsFinite) : parse t.text = .ok t :=
  parse_text_of_readsBack finite (Decimal.readNumber?_plainText finite.1)
    (Decimal.readNumber?_plainText finite.2.1) (Decimal.readNumber?_plainText finite.2.2)

end ViewTransform

end PipelineEditor
