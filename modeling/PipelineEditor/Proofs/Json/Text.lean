import PipelineEditor.Json.Read
import PipelineEditor.Json.Write
import PipelineEditor.Proofs.Atomicity
import PipelineEditor.Proofs.Decimal.ReadBack

/-! Compact payload text is read back as the value it was written from. -/

namespace PipelineEditor.Json

/-- Whether a character can continue the text of a number: a digit, the point, an exponent mark
or a sign. -/
def continuesNumber (c : Char) : Bool :=
  c.isDigit || c == '.' || c == 'e' || c == 'E' || c == '+' || c == '-'

theorem map_append_nil {α : Type} (x : Except ReadError (α × List Char)) :
    x.map (fun p => (p.1, p.2 ++ [])) = x := by
  cases x <;> simp [Except.map]

@[simp] theorem map_error {α β : Type} (f : α → β) (err : ReadError) :
    (Except.error err : Except ReadError α).map f = .error err := rfl

@[simp] theorem map_ok {α β : Type} (f : α → β) (a : α) :
    (Except.ok a : Except ReadError α).map f = .ok (f a) := rfl

@[simp] theorem map_pair_map {α : Type} (x : Except ReadError α) (after rest : List Char) :
    (x.map (·, after)).map (fun p => (p.1, p.2 ++ rest)) = x.map (·, after ++ rest) := by
  cases x <;> rfl

/-- What the number reader does after the sign: the integer digits, then a fraction or an
exponent if one follows. -/
def readNumberBody (negative : Bool) (body : List Char) : Except ReadError (JsonNumber × List Char) :=
  match body with
  | '0' :: rest =>
    match rest with
    | d :: _ =>
      if d.isDigit then .error .malformed
      else readNumber.finish negative 0 rest
    | [] => readNumber.finish negative 0 rest
  | d :: _ =>
    if !d.isDigit then .error .malformed
    else
      let (significand, _, rest) := takeDigits body 0 0
      let extra := rest.takeWhile Char.isDigit
      if extra.isEmpty then readNumber.finish negative significand rest
      else
        (readFraction negative significand extra.length (rest.drop extra.length)).map
          fun (f, after) => (.double f, after)
  | [] => .error .malformed

theorem readNumber_minus (body : List Char) : readNumber ('-' :: body) = readNumberBody true body := by
  rfl

theorem readNumber_unsigned {c : Char} (notMinus : c ≠ '-') (body : List Char) :
    readNumber (c :: body) = readNumberBody false (c :: body) := by
  by_cases zero : c = '0'
  · subst zero
    rfl
  · simp [readNumber, readNumberBody, notMinus]

section Framing

variable {rest : List Char} (ends : ∀ c ∈ rest.head?, continuesNumber c = false)
include ends

theorem head_stops : ∀ c ∈ rest.head?,
    c.isDigit = false ∧ c ≠ '.' ∧ c ≠ 'e' ∧ c ≠ 'E' ∧ c ≠ '+' ∧ c ≠ '-' := by
  intro c first
  have stops := ends c first
  simp only [continuesNumber, Bool.or_eq_false_iff, beq_eq_false_iff_ne] at stops
  tauto

theorem head_not_digit : ∀ c ∈ rest.head?, c.isDigit = false :=
  fun c first => (head_stops ends c first).1

theorem dropWhile_digits_append (l : List Char) :
    (l ++ rest).dropWhile Char.isDigit = l.dropWhile Char.isDigit ++ rest := by
  rw [List.dropWhile_append]
  split
  · rename_i empty
    rw [List.isEmpty_iff.mp empty, List.nil_append]
    cases rest with
    | nil => rfl
    | cons c more => simp [head_not_digit ends c rfl]
  · rfl

theorem takeWhile_digits_append (l : List Char) :
    (l ++ rest).takeWhile Char.isDigit = l.takeWhile Char.isDigit := by
  rw [List.takeWhile_append]
  split
  · rename_i whole
    have restNone : rest.takeWhile Char.isDigit = [] := by
      cases rest with
      | nil => rfl
      | cons c more => simp [head_not_digit ends c rfl]
    rw [restNone, List.append_nil]
    exact ((List.takeWhile_prefix _).eq_of_length whole).symm
  · rfl

theorem takeDigits_append (ds : List Char) (significand count : Nat) :
    takeDigits (ds ++ rest) significand count =
      ((takeDigits ds significand count).1, (takeDigits ds significand count).2.1,
        (takeDigits ds significand count).2.2 ++ rest) := by
  induction ds generalizing significand count with
  | nil =>
    cases rest with
    | nil => rfl
    | cons c more => simp [takeDigits, head_not_digit ends c rfl]
  | cons c ds ih =>
    simp only [List.cons_append, takeDigits]
    split
    · exact ih _ _
    · rfl

theorem takeExponent_append (ds : List Char) (exponent : Int) :
    takeExponent (ds ++ rest) exponent =
      ((takeExponent ds exponent).1, (takeExponent ds exponent).2 ++ rest) := by
  induction ds generalizing exponent with
  | nil =>
    cases rest with
    | nil => rfl
    | cons c more => simp [takeExponent, head_not_digit ends c rfl]
  | cons c ds ih =>
    simp only [List.cons_append, takeExponent]
    split
    · split
      · rw [dropWhile_digits_append ends]
      · exact ih _
    · rfl

theorem readExponentPart_signed_append (negative : Bool) (significand : Nat) (exponent : Int)
    {sign : Char} (signed : sign = '+' ∨ sign = '-') (ds : List Char) :
    readExponentPart negative significand exponent ('e' :: sign :: (ds ++ rest)) =
      (readExponentPart negative significand exponent ('e' :: sign :: ds)).map
        fun p => (p.1, p.2 ++ rest) := by
  rcases ds with _ | ⟨d, ds⟩
  · cases rest with
    | nil => rw [List.append_nil, map_append_nil]
    | cons r rs =>
      rcases signed with rfl | rfl <;> simp [readExponentPart, head_not_digit ends r rfl, Except.map]
  · rcases signed with rfl | rfl
    all_goals
      simp [readExponentPart]
      rw [← List.cons_append, takeExponent_append ends]
      rcases takeExponent (d :: ds) 0 with ⟨_ | e, after⟩ <;> cases d.isDigit <;> simp
    all_goals split <;> rfl

theorem readExponentPart_append (negative : Bool) (significand : Nat) (exponent : Int)
    (cs : List Char) :
    readExponentPart negative significand exponent (cs ++ rest) =
      (readExponentPart negative significand exponent cs).map fun p => (p.1, p.2 ++ rest) := by
  rcases cs with _ | ⟨c, l⟩
  · cases rest with
    | nil => rw [List.append_nil, map_append_nil]
    | cons r rs => simp [readExponentPart, head_stops ends r rfl]
  · by_cases mark : c = 'e' ∨ c = 'E'
    · have lower : ∀ l, readExponentPart negative significand exponent (c :: l) =
          readExponentPart negative significand exponent ('e' :: l) := by
        intro l
        rcases mark with rfl | rfl <;> simp [readExponentPart]
      rw [List.cons_append, lower, lower]
      rcases l with _ | ⟨d, l⟩
      · cases rest with
        | nil => rw [List.append_nil, map_append_nil]
        | cons r rs => simp [readExponentPart, head_stops ends r rfl]
      · by_cases signed : d = '+' ∨ d = '-'
        · exact readExponentPart_signed_append ends _ _ _ signed l
        · have plus : ∀ l, readExponentPart negative significand exponent ('e' :: d :: l) =
              readExponentPart negative significand exponent ('e' :: '+' :: d :: l) := by
            intro l
            obtain ⟨notPlus, notMinus⟩ := not_or.mp signed
            simp [readExponentPart, notPlus, notMinus]
          rw [List.cons_append, plus, plus]
          exact readExponentPart_signed_append ends _ _ _ (.inl rfl) (d :: l)
    · simp [readExponentPart, mark]

theorem readFraction_append (negative : Bool) (significand : Nat) (exponent : Int)
    (cs : List Char) :
    readFraction negative significand exponent (cs ++ rest) =
      (readFraction negative significand exponent cs).map fun p => (p.1, p.2 ++ rest) := by
  rcases cs with _ | ⟨c, l⟩
  · cases rest with
    | nil => rw [List.append_nil, map_append_nil]
    | cons r rs =>
      simp only [readFraction, List.nil_append]
      simp [(head_stops ends r rfl).2.1]
      exact readExponentPart_append ends _ _ _ []
  · by_cases point : c = '.'
    · subst point
      rcases l with _ | ⟨d, l⟩
      · cases rest with
        | nil => rw [List.append_nil, map_append_nil]
        | cons r rs => simp [readFraction, head_not_digit ends r rfl]
      · by_cases digit : d.isDigit
        · simp only [readFraction, List.cons_append, digit]
          rw [← List.cons_append, takeDigits_append ends]
          simp only [Bool.not_true, Bool.false_eq_true, if_false]
          rw [dropWhile_digits_append ends, readExponentPart_append ends]
        · simp [readFraction, digit]
    · simp only [readFraction, List.cons_append]
      simp [point]
      exact readExponentPart_append ends _ _ _ (c :: l)

theorem finish_append (negative : Bool) (significand : Nat) (cs : List Char) :
    readNumber.finish negative significand (cs ++ rest) =
      (readNumber.finish negative significand cs).map fun p => (p.1, p.2 ++ rest) := by
  rcases cs with _ | ⟨c, l⟩
  · cases rest with
    | nil => rw [List.append_nil, map_append_nil]
    | cons r rs =>
      obtain ⟨-, notPoint, notLower, notUpper, -⟩ := head_stops ends r rfl
      simp [readNumber.finish, notPoint, notLower, notUpper]
  · simp only [readNumber.finish, List.cons_append]
    split
    · rw [← List.cons_append, readFraction_append ends]
      cases readFraction negative significand 0 (c :: l) <;> rfl
    · rfl

theorem readNumberBody_append (negative : Bool) (body : List Char) :
    readNumberBody negative (body ++ rest) = (readNumberBody negative body).map fun p => (p.1, p.2 ++ rest) := by
  rcases body with _ | ⟨d, body⟩
  · cases rest with
    | nil => rw [List.append_nil, map_append_nil]
    | cons r rs =>
      have notDigit := head_not_digit ends r rfl
      have notZero : r ≠ '0' := by
        rintro rfl
        cases notDigit
      simp [readNumberBody, notDigit]
  · by_cases zero : d = '0'
    · subst zero
      rcases body with _ | ⟨e, body⟩
      · cases rest with
        | nil => rw [List.append_nil, map_append_nil]
        | cons r rs =>
          simp [readNumberBody, head_not_digit ends r rfl]
          exact finish_append ends negative 0 []
      · by_cases digit : e.isDigit
        · simp [readNumberBody, digit]
        · simp [readNumberBody, digit]
          exact finish_append ends negative 0 (e :: body)
    · by_cases digit : d.isDigit
      · obtain ⟨significand, count, after, taken⟩ : ∃ s c a, takeDigits (d :: body) 0 0 = (s, c, a) :=
          ⟨_, _, _, rfl⟩
        have taken' : takeDigits (d :: (body ++ rest)) 0 0 = (significand, count, after ++ rest) := by
          rw [← List.cons_append, takeDigits_append ends, taken]
        have extra := takeWhile_digits_append ends after
        simp [readNumberBody, digit, taken, taken', extra]
        split
        · exact finish_append ends _ _ _
        · rw [List.drop_append_of_le_length (List.takeWhile_prefix _).length_le, readFraction_append ends]
          cases readFraction negative significand (after.takeWhile Char.isDigit).length
            (after.drop (after.takeWhile Char.isDigit).length) <;> rfl
      · simp [readNumberBody, digit]

/-- A number is read the same way whatever follows it, as long as what follows cannot continue it. -/
theorem readNumber_append (cs : List Char) :
    readNumber (cs ++ rest) = (readNumber cs).map fun p => (p.1, p.2 ++ rest) := by
  rcases cs with _ | ⟨c, body⟩
  · cases rest with
    | nil => rw [List.append_nil, map_append_nil]
    | cons r rs =>
      rw [List.nil_append, readNumber_unsigned (head_stops ends r rfl).2.2.2.2.2]
      exact readNumberBody_append ends false []
  · by_cases minus : c = '-'
    · subst minus
      rw [List.cons_append, readNumber_minus, readNumber_minus]
      exact readNumberBody_append ends true body
    · rw [List.cons_append, readNumber_unsigned minus, readNumber_unsigned minus, ← List.cons_append]
      exact readNumberBody_append ends false (c :: body)

end Framing

section Integers

theorem significandLimit_eq : significandLimit = 2 ^ 64 - 1 := rfl

theorem fitsDigit_iff {significand digit : Nat} (digit_lt : digit < 10) :
    fitsDigit significand digit = true ↔ significand * 10 + digit ≤ significandLimit := by
  unfold fitsDigit
  rw [significandLimit_eq]
  simp
  omega

theorem digitValue_lt {c : Char} (digit : c.isDigit = true) : Decimal.digitValue c < 10 := by
  simp only [Char.isDigit, Bool.and_eq_true, decide_eq_true_eq] at digit
  have high : c.toNat ≤ 57 := digit.2
  have low : 48 ≤ c.toNat := digit.1
  simp only [Decimal.digitValue, show '0'.toNat = 48 from rfl]
  omega

/-- Digits whose value stays within the significand are all taken. -/
theorem takeDigits_of_fits (ds : List Char) (digits : ∀ c ∈ ds, c.isDigit = true)
    (significand count : Nat)
    (fits : significand * 10 ^ ds.length + Decimal.digitsValue ds ≤ significandLimit) :
    takeDigits ds significand count =
      (significand * 10 ^ ds.length + Decimal.digitsValue ds, count + ds.length, []) := by
  induction ds generalizing significand count with
  | nil => simp [takeDigits, Decimal.digitsValue]
  | cons c ds ih =>
    have digit := digits c List.mem_cons_self
    have value : Decimal.digitsValue (c :: ds) =
        Decimal.digitValue c * 10 ^ ds.length + Decimal.digitsValue ds := by
      rw [Decimal.digitsValue, List.foldl_cons, Decimal.foldl_digits]
      simp
    have total : significand * 10 ^ (c :: ds).length + Decimal.digitsValue (c :: ds) =
        (significand * 10 + Decimal.digitValue c) * 10 ^ ds.length + Decimal.digitsValue ds := by
      rw [value, List.length_cons, pow_succ]
      ring
    rw [total] at fits ⊢
    have first : significand * 10 + Decimal.digitValue c ≤ significandLimit :=
      calc significand * 10 + Decimal.digitValue c
          ≤ (significand * 10 + Decimal.digitValue c) * 10 ^ ds.length :=
            Nat.le_mul_of_pos_right _ (Nat.pow_pos (by decide))
        _ ≤ _ := Nat.le_add_right _ _
        _ ≤ significandLimit := fits
    rw [takeDigits, if_pos (by simp [digit, (fitsDigit_iff (digitValue_lt digit)).mpr first]),
      ih (fun c' mem => digits c' (List.mem_cons_of_mem _ mem)) _ _ fits, List.length_cons,
      Nat.add_comm ds.length 1, Nat.add_assoc]

theorem toDigits_leading {n : Nat} (pos : 0 < n) :
    ∃ d ds, Nat.toDigits 10 n = d :: ds ∧ d ≠ '0' := by
  induction n using Nat.strong_induction_on with
  | _ n ih =>
    by_cases small : n < 10
    · have leading : ∀ k < 10, 0 < k → Nat.digitChar k ≠ '0' := by decide
      exact ⟨_, [], Nat.toDigits_of_lt_base small, leading n small pos⟩
    · obtain ⟨d, ds, split, leading⟩ := ih (n / 10) (by omega) (by omega)
      rw [Nat.toDigits_of_base_le (by decide) (by omega), split]
      exact ⟨d, _, rfl, leading⟩

/-- The digits of an integer that fits are read back as that integer. -/
theorem readNumberBody_toDigits (negative : Bool) {n : Nat} (fits : n ≤ significandLimit) :
    readNumberBody negative (Nat.toDigits 10 n) = .ok (integerNumber negative n, []) := by
  rcases Nat.eq_zero_or_pos n with rfl | pos
  · rfl
  · obtain ⟨d, ds, split, leading⟩ := toDigits_leading pos
    have digits : ∀ c ∈ d :: ds, c.isDigit = true := by
      rw [← split]
      exact fun c mem => Decimal.natDigits_isDigit n c (by rwa [Decimal.natDigits, String.toList_ofList])
    have value : Decimal.digitsValue (d :: ds) = n := by
      rw [← split, Editor.digitsValue_toDigits]
    have taken := takeDigits_of_fits (d :: ds) digits 0 0 (by simpa [value] using fits)
    rw [split]
    simp [readNumberBody, digits d List.mem_cons_self, taken, value]
    rfl

end Integers

/-- A number's text starts with a minus sign or a digit. -/
theorem readNumber_head {cs : List Char} {r : JsonNumber × List Char} (read : readNumber cs = .ok r) :
    ∃ c t, cs = c :: t ∧ (c = '-' ∨ c.isDigit = true) := by
  rcases cs with _ | ⟨c, t⟩
  · cases read
  · refine ⟨c, t, rfl, ?_⟩
    by_cases minus : c = '-'
    · exact .inl minus
    · right
      by_cases zero : c = '0'
      · subst zero
        rfl
      · rw [readNumber_unsigned minus] at read
        cases digit : c.isDigit
        · unfold readNumberBody at read
          split at read
          · exact absurd (List.cons.inj ‹_›).1 zero
          · rename_i same
            obtain ⟨rfl, rfl⟩ := List.cons.inj same
            simp [digit] at read
          · cases ‹c :: t = []›
        · rfl

section Strings

theorem hex4?_control : ∀ n < 32, hex4? '0' '0' (hexDigit (n / 16)) (hexDigit (n % 16)) = some n := by
  decide

/-- A character is read back from its escaped form. -/
theorem readStringBody_escapeChar (c : Char) (more acc : List Char) :
    readStringBody (escapeChar c ++ more) acc = readStringBody more (c :: acc) := by
  unfold escapeChar
  split
  · rfl
  · rfl
  · rfl
  · rfl
  · rfl
  · rfl
  · rfl
  · rename_i notQuote notBackslash _ _ _ _ _
    split
    · rename_i control
      have notLow : isLowSurrogate c.toNat = false := by
        simp only [isLowSurrogate, Bool.and_eq_false_iff, decide_eq_false_iff_not]
        omega
      have notHigh : isHighSurrogate c.toNat = false := by
        simp only [isHighSurrogate, Bool.and_eq_false_iff, decide_eq_false_iff_not]
        omega
      simp [readStringBody, hex4?_control c.toNat control, notLow, notHigh]
    · rename_i printable
      rw [List.singleton_append]
      nth_rewrite 1 [readStringBody.eq_def]
      split <;> simp_all

/-- A string's escaped characters are read back up to the closing quote. -/
theorem readStringBody_escaped (cs rest acc : List Char) :
    readStringBody (cs.flatMap escapeChar ++ '"' :: rest) acc =
      .ok (String.ofList (acc.reverse ++ cs), rest) := by
  induction cs generalizing acc with
  | nil => simp [readStringBody]
  | cons c cs ih =>
    rw [List.flatMap_cons, List.append_assoc, readStringBody_escapeChar, ih]
    simp

theorem quote_toList (s : String) :
    (quote s).toList = '"' :: (s.toList.flatMap escapeChar ++ ['"']) := by
  rw [quote, String.toList_ofList]

end Strings

end PipelineEditor.Json

namespace PipelineEditor

open Json

/-- A number the payload format holds whose text is read back as that same number: an integer
within the range of its kind, or a double whose text the reader turns into the same double. -/
def JsonNumber.ReadsBack : JsonNumber → Prop
  | .unsigned n => n < 2 ^ 64
  | .negative n => 0 < n ∧ n ≤ 2 ^ 63
  | .double f => readNumber (numberText (.double f)).toList = .ok (.double f, [])

theorem readNumber_toDigits (n : Nat) : readNumber (Nat.toDigits 10 n) = readNumberBody false (Nat.toDigits 10 n) := by
  obtain ⟨d, ds, split⟩ : ∃ d ds, Nat.toDigits 10 n = d :: ds := List.exists_cons_of_ne_nil (Nat.toDigits_ne_nil)
  have digit : d.isDigit = true :=
    Decimal.natDigits_isDigit n d (by rw [Decimal.natDigits, String.toList_ofList, split]; exact List.mem_cons_self)
  have notMinus : d ≠ '-' := by
    rintro rfl
    cases digit
  rw [split, readNumber_unsigned notMinus]

theorem JsonNumber.ReadsBack.read {n : JsonNumber} (reads : n.ReadsBack) :
    readNumber (numberText n).toList = .ok (n, []) := by
  cases n with
  | unsigned n =>
    rw [numberText, Decimal.natDigits, String.toList_ofList, readNumber_toDigits,
      readNumberBody_toDigits false (by rw [significandLimit_eq]; have : n < 2 ^ 64 := reads; omega)]
    rfl
  | negative n =>
    obtain ⟨pos, fits⟩ := reads
    simp only [numberText, String.toList_append, Decimal.natDigits, String.toList_ofList]
    rw [show "-".toList = ['-'] from rfl, List.singleton_append, readNumber_minus,
      readNumberBody_toDigits true (by rw [significandLimit_eq]; omega)]
    simp only [integerNumber, Bool.not_true, Bool.false_eq_true, if_false, Nat.pos_iff_ne_zero.mp pos]
    rw [if_pos (show n ≤ Nat.pow 2 63 from fits)]
  | double f => exact reads

/-- Whether the text of a double is read back as that double. -/
def JsonNumber.doubleReadsBack (f : Float) : Bool :=
  match readNumber (numberText (.double f)).toList with
  | .ok (.double g, []) => decide (g = f)
  | _ => false

theorem JsonNumber.doubleReadsBack_iff (f : Float) :
    doubleReadsBack f = true ↔ (JsonNumber.double f).ReadsBack := by
  unfold doubleReadsBack ReadsBack
  split <;> simp_all

instance : DecidablePred JsonNumber.ReadsBack
  | .unsigned n => inferInstanceAs (Decidable (n < 2 ^ 64))
  | .negative n => inferInstanceAs (Decidable (0 < n ∧ n ≤ 2 ^ 63))
  | .double f => decidable_of_iff _ (JsonNumber.doubleReadsBack_iff f)

example : (JsonNumber.double 12.5).ReadsBack := by decide +kernel

example : ¬ (JsonNumber.double 424.21000000000004).ReadsBack := by decide +kernel

namespace Json

mutual
/-- How deep containers nest in a value. -/
def nesting : Json → Nat
  | .array items => nestingItems items + 1
  | .object fields => nestingFields fields + 1
  | _ => 0

/-- How deep containers nest in the deepest item. -/
def nestingItems : List Json → Nat
  | [] => 0
  | v :: rest => max (nesting v) (nestingItems rest)

/-- How deep containers nest in the deepest member. -/
def nestingFields : List (String × Json) → Nat
  | [] => 0
  | (_, v) :: rest => max (nesting v) (nestingFields rest)
end

mutual
/-- The numbers of a value, in the order they are written. -/
def numbers : Json → List JsonNumber
  | .number n => [n]
  | .array items => numbersItems items
  | .object fields => numbersFields fields
  | _ => []

/-- The numbers of the items. -/
def numbersItems : List Json → List JsonNumber
  | [] => []
  | v :: rest => numbers v ++ numbersItems rest

/-- The numbers of the members. -/
def numbersFields : List (String × Json) → List JsonNumber
  | [] => []
  | (_, v) :: rest => numbers v ++ numbersFields rest
end

theorem nesting_le_of_mem_items {v : Json} {items : List Json} (mem : v ∈ items) :
    v.nesting ≤ nestingItems items := by
  induction items with
  | nil => cases mem
  | cons w items ih =>
    rcases List.mem_cons.mp mem with rfl | mem
    · exact le_max_left _ _
    · exact le_trans (ih mem) (le_max_right _ _)

theorem nesting_le_of_mem_fields {k : String} {v : Json} {fields : List (String × Json)}
    (mem : (k, v) ∈ fields) : v.nesting ≤ nestingFields fields := by
  induction fields with
  | nil => cases mem
  | cons p fields ih =>
    rcases List.mem_cons.mp mem with rfl | mem
    · exact le_max_left _ _
    · exact le_trans (ih mem) (le_max_right _ _)

theorem numbers_subset_items {v : Json} {items : List Json} (mem : v ∈ items) :
    v.numbers ⊆ numbersItems items := by
  induction items with
  | nil => cases mem
  | cons w items ih =>
    rcases List.mem_cons.mp mem with rfl | mem
    · exact List.subset_append_left _ _
    · exact fun n found => List.mem_append_right _ (ih mem found)

theorem numbers_subset_fields {k : String} {v : Json} {fields : List (String × Json)}
    (mem : (k, v) ∈ fields) : v.numbers ⊆ numbersFields fields := by
  induction fields with
  | nil => cases mem
  | cons p fields ih =>
    rcases List.mem_cons.mp mem with rfl | mem
    · exact List.subset_append_left _ _
    · exact fun n found => List.mem_append_right _ (ih mem found)

/-- A value whose compact text the reader turns back into it: its containers nest within the
limit and each of its numbers reads back. -/
def ReadsBack (j : Json) : Prop := j.nesting ≤ nestingLimit ∧ ∀ n ∈ j.numbers, n.ReadsBack

instance (j : Json) : Decidable j.ReadsBack := inferInstanceAs (Decidable (_ ∧ _))

/-- The compact text of `v`, followed by any text a number cannot run on into, is read as `v`
by the reader allowed `depth` more levels of nesting. -/
def ReadsAt (depth : Nat) (v : Json) : Prop :=
  ∀ rest : List Char, (∀ c ∈ rest.head?, continuesNumber c = false) →
    readValue depth ((compact v).toList ++ rest) = .ok (v, rest)

theorem skipSpace_cons {c : Char} (notSpace : isSpace c = false) (cs : List Char) :
    skipSpace (c :: cs) = c :: cs := by
  simp [skipSpace, notSpace]

theorem ne_of_isDigit {c d : Char} (digit : c.isDigit = true) (notDigit : d.isDigit = false) :
    c ≠ d := by
  rintro rfl
  rw [digit] at notDigit
  cases notDigit

/-- A number's text starts with none of the characters that open or close another token. -/
theorem numberStart {c : Char} (start : c = '-' ∨ c.isDigit = true) :
    isSpace c = false ∧ c ≠ 'n' ∧ c ≠ 't' ∧ c ≠ 'f' ∧ c ≠ '"' ∧ c ≠ '[' ∧ c ≠ '{' ∧ c ≠ ']' ∧
      c ≠ '}' := by
  rcases start with rfl | digit
  · decide
  · have space : isSpace c = false := by
      simp [isSpace, ne_of_isDigit digit (d := ' ') rfl, ne_of_isDigit digit (d := '\t') rfl,
        ne_of_isDigit digit (d := '\n') rfl, ne_of_isDigit digit (d := '\r') rfl]
    exact ⟨space, ne_of_isDigit digit rfl, ne_of_isDigit digit rfl, ne_of_isDigit digit rfl,
      ne_of_isDigit digit rfl, ne_of_isDigit digit rfl, ne_of_isDigit digit rfl,
      ne_of_isDigit digit rfl, ne_of_isDigit digit rfl⟩

theorem compact_head {v : Json} (numbers : ∀ n ∈ v.numbers, n.ReadsBack) :
    ∃ c t, (compact v).toList = c :: t ∧ isSpace c = false ∧ c ≠ ']' ∧ c ≠ '}' := by
  cases v with
  | null => exact ⟨'n', _, rfl, by decide⟩
  | bool b => cases b <;> exact ⟨_, _, rfl, by decide⟩
  | number n =>
    obtain ⟨c, t, text, start⟩ := readNumber_head (numbers n (List.mem_singleton_self n)).read
    obtain ⟨space, -, -, -, -, -, -, close, brace⟩ := numberStart start
    exact ⟨c, t, text, space, close, brace⟩
  | string s => exact ⟨'"', _, quote_toList s, by decide⟩
  | array items => exact ⟨'[', _, by rw [compact, String.toList_append, String.toList_append]; rfl, by decide⟩
  | object fields => exact ⟨'{', _, by rw [compact, String.toList_append, String.toList_append]; rfl, by decide⟩

theorem readsAt_number {n : JsonNumber} (reads : n.ReadsBack) (depth : Nat) :
    ReadsAt depth (.number n) := by
  intro rest ends
  obtain ⟨c, t, text, start⟩ := readNumber_head reads.read
  obtain ⟨space, null, true, false, quote, bracket, brace, -, -⟩ := numberStart start
  have read := readNumber_append ends (numberText n).toList
  rw [reads.read, text] at read
  rw [compact, text, List.cons_append, readValue, skipSpace_cons space]
  simp [null, true, false, quote, bracket, brace]
  rw [← List.cons_append, read]
  rfl

theorem readsAt_null (depth : Nat) : ReadsAt depth .null := by
  intro rest _
  rw [compact, show "null".toList = ['n', 'u', 'l', 'l'] from rfl, List.cons_append, readValue,
    skipSpace_cons rfl]
  rfl

theorem readsAt_bool (b : Bool) (depth : Nat) : ReadsAt depth (.bool b) := by
  intro rest _
  cases b
  · rw [compact, show "false".toList = ['f', 'a', 'l', 's', 'e'] from rfl, List.cons_append,
      readValue, skipSpace_cons rfl]
    rfl
  · rw [compact, show "true".toList = ['t', 'r', 'u', 'e'] from rfl, List.cons_append, readValue,
      skipSpace_cons rfl]
    rfl

theorem readsAt_string (s : String) (depth : Nat) : ReadsAt depth (.string s) := by
  intro rest _
  rw [compact, quote_toList, List.cons_append, readValue, skipSpace_cons rfl]
  simp [List.append_assoc, readStringBody_escaped]

theorem stops_close (rest : List Char) : ∀ c ∈ (']' :: rest).head?, continuesNumber c = false := by
  simp [continuesNumber]

theorem stops_comma (rest : List Char) : ∀ c ∈ (',' :: rest).head?, continuesNumber c = false := by
  simp [continuesNumber]

theorem stops_brace (rest : List Char) : ∀ c ∈ ('}' :: rest).head?, continuesNumber c = false := by
  simp [continuesNumber]

/-- The items of an array are read one by one up to the closing bracket. -/
theorem readItems_loop {depth : Nat} {items : List Json} (nonempty : items ≠ [])
    (reads : ∀ v ∈ items, ReadsAt depth v) (fuel : Nat) (enough : items.length ≤ fuel)
    (acc : List Json) (rest : List Char) :
    readItems.loop (readValue depth) fuel ((compactItems items).toList ++ ']' :: rest) acc =
      .ok (.array (acc.reverse ++ items), rest) := by
  induction items generalizing fuel acc with
  | nil => contradiction
  | cons v vs ih =>
    obtain ⟨fuel, rfl⟩ : ∃ f, fuel = f + 1 := ⟨fuel - 1, by simp at enough; omega⟩
    have first := reads v List.mem_cons_self
    cases vs with
    | nil =>
      rw [compactItems, readItems.loop, first _ (stops_close rest)]
      simp [bind, Except.bind, skipSpace_cons (c := ']') rfl]
    | cons w ws =>
      rw [compactItems.eq_3 v (w :: ws) (List.cons_ne_nil w ws), String.toList_append,
        String.toList_append]
      simp only [List.append_assoc, show ",".toList = [','] from rfl, List.cons_append, List.nil_append]
      rw [readItems.loop, first _ (stops_comma _)]
      simp only [bind, Except.bind, skipSpace_cons (c := ',') rfl]
      rw [ih (List.cons_ne_nil w ws) (fun u mem => reads u (List.mem_cons_of_mem v mem)) fuel
        (by simpa using enough)]
      simp

/-- The members of an object are read one by one up to the closing brace. -/
theorem readMembers_loop {depth : Nat} {fields : List (String × Json)} (nonempty : fields ≠ [])
    (reads : ∀ p ∈ fields, ReadsAt depth p.2) (fuel : Nat) (enough : fields.length ≤ fuel)
    (acc : List (String × Json)) (rest : List Char) :
    readMembers.loop (readValue depth) fuel ((compactFields fields).toList ++ '}' :: rest) acc =
      .ok (.object (acc.reverse ++ fields), rest) := by
  induction fields generalizing fuel acc with
  | nil => contradiction
  | cons p ps ih =>
    obtain ⟨k, v⟩ := p
    obtain ⟨fuel, rfl⟩ : ∃ f, fuel = f + 1 := ⟨fuel - 1, by simp at enough; omega⟩
    have first := reads (k, v) List.mem_cons_self
    cases ps with
    | nil =>
      rw [compactFields, String.toList_append, String.toList_append, quote_toList]
      simp only [List.append_assoc, show ":".toList = [':'] from rfl, List.cons_append, List.nil_append]
      rw [readMembers.loop, skipSpace_cons rfl]
      simp only [bind, Except.bind, readStringBody_escaped, skipSpace_cons (c := ':') rfl]
      rw [first _ (stops_brace rest)]
      simp [skipSpace_cons (c := '}') rfl]
    | cons q qs =>
      rw [compactFields.eq_3 k v (q :: qs) (List.cons_ne_nil q qs)]
      simp only [String.toList_append, quote_toList, List.append_assoc, show ":".toList = [':'] from rfl,
        show ",".toList = [','] from rfl, List.cons_append, List.nil_append]
      rw [readMembers.loop, skipSpace_cons rfl]
      simp only [bind, Except.bind, readStringBody_escaped, skipSpace_cons (c := ':') rfl]
      rw [first _ (stops_comma _)]
      simp only [skipSpace_cons (c := ',') rfl]
      rw [ih (List.cons_ne_nil q qs) (fun u mem => reads u (List.mem_cons_of_mem _ mem)) fuel
        (by simpa using enough)]
      simp

theorem length_le_compactItems (items : List Json) :
    items.length ≤ (compactItems items).toList.length + 1 := by
  induction items with
  | nil => simp
  | cons v vs ih =>
    cases vs with
    | nil => simp
    | cons w ws =>
      rw [compactItems.eq_3 v (w :: ws) (List.cons_ne_nil w ws)]
      simp only [String.toList_append, show ",".toList = [','] from rfl, List.length_append,
        List.length_cons] at ih ⊢
      omega

theorem length_le_compactFields (fields : List (String × Json)) :
    fields.length ≤ (compactFields fields).toList.length + 1 := by
  induction fields with
  | nil => simp
  | cons p ps ih =>
    obtain ⟨k, v⟩ := p
    cases ps with
    | nil => simp
    | cons q qs =>
      rw [compactFields.eq_3 k v (q :: qs) (List.cons_ne_nil q qs)]
      simp only [String.toList_append, show ",".toList = [','] from rfl, List.length_append,
        List.length_cons] at ih ⊢
      omega

theorem compactItems_cons (v : Json) (vs : List Json) :
    ∃ t, (compactItems (v :: vs)).toList = (compact v).toList ++ t := by
  cases vs with
  | nil => exact ⟨[], by rw [compactItems, List.append_nil]⟩
  | cons w ws =>
    rw [compactItems.eq_3 v (w :: ws) (List.cons_ne_nil w ws), String.toList_append, String.toList_append,
      List.append_assoc]
    exact ⟨_, rfl⟩

theorem readsAt_array {depth : Nat} {items : List Json} (reads : ∀ v ∈ items, ReadsAt depth v)
    (numbers : ∀ n ∈ numbersItems items, n.ReadsBack) : ReadsAt (depth + 1) (.array items) := by
  intro rest _
  rw [compact, String.toList_append, String.toList_append, show "[".toList = ['['] from rfl,
    show "]".toList = [']'] from rfl, List.append_assoc, List.singleton_append, List.cons_append,
    List.singleton_append, readValue, skipSpace_cons rfl]
  simp only [readItems]
  cases items with
  | nil => simp [compactItems, skipSpace_cons (c := ']') rfl]
  | cons v vs =>
    obtain ⟨c, t, text, space, notClose, -⟩ :=
      compact_head (v := v) fun n mem => numbers n (numbers_subset_items List.mem_cons_self mem)
    obtain ⟨after, split⟩ := compactItems_cons v vs
    have opening : (compactItems (v :: vs)).toList ++ ']' :: rest = c :: (t ++ after ++ ']' :: rest) := by
      rw [split, text]
      simp
    rw [opening, skipSpace_cons space]
    split
    · rename_i same
      exact absurd (List.cons.inj same).1 notClose
    rw [← opening]
    refine readItems_loop (List.cons_ne_nil v vs) reads _ ?_ [] rest
    have := length_le_compactItems (v :: vs)
    simp only [List.length_append, List.length_cons] at this ⊢
    omega

theorem compactFields_cons (k : String) (v : Json) (ps : List (String × Json)) :
    ∃ t, (compactFields ((k, v) :: ps)).toList = '"' :: t := by
  cases ps with
  | nil =>
    rw [compactFields, String.toList_append, String.toList_append, quote_toList]
    exact ⟨_, rfl⟩
  | cons q qs =>
    rw [compactFields.eq_3 k v (q :: qs) (List.cons_ne_nil q qs)]
    simp only [String.toList_append, quote_toList]
    exact ⟨_, rfl⟩

theorem readsAt_object {depth : Nat} {fields : List (String × Json)}
    (reads : ∀ p ∈ fields, ReadsAt depth p.2) : ReadsAt (depth + 1) (.object fields) := by
  intro rest _
  rw [compact, String.toList_append, String.toList_append, show "\x7b".toList = ['\x7b'] from rfl,
    show "\x7d".toList = ['\x7d'] from rfl, List.append_assoc, List.singleton_append, List.cons_append,
    List.singleton_append, readValue, skipSpace_cons rfl]
  simp only [readMembers]
  cases fields with
  | nil => simp [compactFields, skipSpace_cons (c := '\x7d') rfl]
  | cons p ps =>
    obtain ⟨k, v⟩ := p
    obtain ⟨after, split⟩ := compactFields_cons k v ps
    rw [split, List.cons_append, skipSpace_cons rfl]
    split
    · rename_i same
      exact absurd (List.cons.inj same).1 (by decide)
    rw [← List.cons_append, ← split]
    refine readMembers_loop (List.cons_ne_nil (k, v) ps) reads _ ?_ [] rest
    have := length_le_compactFields ((k, v) :: ps)
    simp only [List.length_append, List.length_cons] at this ⊢
    omega

/-- The compact text of a value whose containers nest at most `depth` deep and whose numbers read
back is read back as the value. -/
theorem readsAt_of_nesting (depth : Nat) :
    ∀ v : Json, v.nesting ≤ depth → (∀ n ∈ v.numbers, n.ReadsBack) → ReadsAt depth v := by
  induction depth with
  | zero =>
    intro v nested numbers
    cases v with
    | null => exact readsAt_null 0
    | bool b => exact readsAt_bool b 0
    | number n => exact readsAt_number (numbers n (List.mem_singleton_self n)) 0
    | string s => exact readsAt_string s 0
    | array items => simp [nesting] at nested
    | object fields => simp [nesting] at nested
  | succ depth ih =>
    intro v nested numbers
    cases v with
    | null => exact readsAt_null _
    | bool b => exact readsAt_bool b _
    | number n => exact readsAt_number (numbers n (List.mem_singleton_self n)) _
    | string s => exact readsAt_string s _
    | array items =>
      have inner : nestingItems items ≤ depth := by
        simp only [nesting] at nested
        omega
      refine readsAt_array (fun v mem => ih v ?_ ?_) numbers
      · exact le_trans (nesting_le_of_mem_items mem) inner
      · exact fun n found => numbers n (numbers_subset_items mem found)
    | object fields =>
      have inner : nestingFields fields ≤ depth := by
        simp only [nesting] at nested
        omega
      refine readsAt_object fun p mem => ih p.2 ?_ ?_
      · exact le_trans (nesting_le_of_mem_fields mem) inner
      · exact fun n found => numbers n (numbers_subset_fields mem found)

/-- The compact text of a value that reads back is parsed as the value. -/
theorem parse_compact {j : Json} (reads : j.ReadsBack) : parse (compact j) = .ok j := by
  have read := readsAt_of_nesting nestingLimit j reads.1 reads.2 [] (by simp)
  rw [List.append_nil] at read
  simp [parse, read, bind, Except.bind, skipSpace, pure, Except.pure]

end Json

end PipelineEditor
