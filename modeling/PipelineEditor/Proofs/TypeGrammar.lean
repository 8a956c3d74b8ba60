import Mathlib
import PipelineEditor.Catalog.ParamKind
import PipelineEditor.Logging.Directive

/-! Parameter type texts follow a grammar, each form given to exactly the texts of that form. -/

namespace PipelineEditor.ParamKind

section Characters

/-- Lower-casing moves only `A`–`Z`, each 32 code points up. -/
theorem toLower_val (c : Char) :
    c.toLower.val.toNat = if 65 ≤ c.val.toNat ∧ c.val.toNat ≤ 90 then c.val.toNat + 32 else c.val.toNat := by
  unfold Char.toLower
  split
  · rename_i upper
    simp only [UInt32.le_iff_toNat_le] at upper
    have codeA : ('A' : Char).val.toNat = 65 := rfl
    have codeZ : ('Z' : Char).val.toNat = 90 := rfl
    rw [if_pos (by omega)]
    show (c.val + ('a'.val - 'A'.val)).toNat = _
    rw [UInt32.toNat_add]
    have : ('a'.val - 'A'.val).toNat = 32 := rfl
    rw [this]
    omega
  · rename_i upper
    simp only [UInt32.le_iff_toNat_le] at upper
    have codeA : ('A' : Char).val.toNat = 65 := rfl
    have codeZ : ('Z' : Char).val.toNat = 90 := rfl
    rw [if_neg (by omega)]

theorem toLower_utf8Size (c : Char) : c.toLower.utf8Size = c.utf8Size := by
  have code := toLower_val c
  split at code
  · rename_i upper
    have code127 : (127 : UInt32).toNat = 127 := rfl
    rw [Char.utf8Size_eq_one_iff.mpr, Char.utf8Size_eq_one_iff.mpr] <;>
      rw [UInt32.le_iff_toNat_le, code127] <;> omega
  · rw [show c.toLower = c from Char.ext (UInt32.toNat_inj.mp code)]


theorem toLower_eq_iff {c d : Char} (notAlpha : d.isAlpha = false) : c.toLower = d ↔ c = d := by
  have code := toLower_val c
  simp only [Char.isAlpha, Char.isUpper, Char.isLower, Bool.or_eq_false_iff, decide_eq_false_iff_not,
    Bool.and_eq_false_imp, decide_eq_true_eq, UInt32.le_iff_toNat_le] at notAlpha
  have codeA : ('A' : Char).val.toNat = 65 := rfl
  have codeZ : ('Z' : Char).val.toNat = 90 := rfl
  have codea : ('a' : Char).val.toNat = 97 := rfl
  have codez : ('z' : Char).val.toNat = 122 := rfl
  rw [codeA, codeZ, codea, codez] at notAlpha
  rw [Char.ext_iff, Char.ext_iff, ← UInt32.toNat_inj, ← UInt32.toNat_inj, code]
  split <;> omega

end Characters

section Bytes

/-- The number of bytes a list of characters takes in UTF-8. -/
def byteLength (cs : List Char) : Nat := (cs.map Char.utf8Size).sum

@[simp] theorem byteLength_nil : byteLength [] = 0 := rfl

@[simp] theorem byteLength_cons (c : Char) (cs : List Char) :
    byteLength (c :: cs) = c.utf8Size + byteLength cs := by
  simp [byteLength]

@[simp] theorem byteLength_append (a b : List Char) : byteLength (a ++ b) = byteLength a + byteLength b := by
  simp [byteLength]

theorem utf8ByteSize_ofList (cs : List Char) : (String.ofList cs).utf8ByteSize = byteLength cs := by
  induction cs with
  | nil => rfl
  | cons c cs ih =>
    rw [show c :: cs = [c] ++ cs from rfl, String.ofList_append, String.utf8ByteSize_append, ih,
      ← String.singleton_eq_ofList, String.utf8ByteSize_singleton, byteLength_append]
    simp

theorem utf8ByteSize_eq_byteLength (s : String) : s.utf8ByteSize = byteLength s.toList := by
  rw [← utf8ByteSize_ofList, String.ofList_toList]

/-- The characters of bytes `start` to `start + length` of a text, when both ends fall between
characters. -/
def byteSlice? (cs : List Char) (start length : Nat) : Option (List Char) :=
  (LogFilter.dropBytes? cs start).bind fun rest => LogFilter.takeBytes? rest length

theorem dropBytes?_append (a b : List Char) : LogFilter.dropBytes? (a ++ b) (byteLength a) = some b := by
  induction a with
  | nil => cases b <;> rfl
  | cons c a ih =>
    have sizePos := c.utf8Size_pos
    obtain ⟨n, sizeIs⟩ : ∃ n, c.utf8Size + byteLength a = n + 1 := ⟨_, (Nat.succ_pred_eq_of_pos (by omega)).symm⟩
    rw [List.cons_append, byteLength_cons, sizeIs, LogFilter.dropBytes?, if_pos (by omega)]
    rw [show n + 1 - c.utf8Size = byteLength a by omega]
    exact ih

theorem takeBytes?_append (a b : List Char) : LogFilter.takeBytes? (a ++ b) (byteLength a) = some a := by
  induction a with
  | nil => cases b <;> rfl
  | cons c a ih =>
    have sizePos := c.utf8Size_pos
    obtain ⟨n, sizeIs⟩ : ∃ n, c.utf8Size + byteLength a = n + 1 := ⟨_, (Nat.succ_pred_eq_of_pos (by omega)).symm⟩
    rw [List.cons_append, byteLength_cons, sizeIs, LogFilter.takeBytes?, if_pos (by omega)]
    rw [show n + 1 - c.utf8Size = byteLength a by omega, ih]
    rfl

/-- The bytes of a middle part of a text are a cut between characters. -/
theorem byteSlice?_middle (a m z : List Char) :
    byteSlice? (a ++ m ++ z) (byteLength a) (byteLength m) = some m := by
  rw [byteSlice?, List.append_assoc, dropBytes?_append, Option.bind_some, takeBytes?_append]

end Bytes

section Pieces

theorem dropPrefix?_eq_some {pre cs rest : List Char} : dropPrefix? pre cs = some rest ↔ cs = pre ++ rest := by
  unfold dropPrefix?
  split
  · rename_i prefixTest
    obtain ⟨t, rfl⟩ := List.isPrefixOf_iff_prefix.mp prefixTest
    simp
  · rename_i prefixTest
    simp only [reduceCtorEq, false_iff]
    rintro rfl
    exact prefixTest (List.isPrefixOf_iff_prefix.mpr (List.prefix_append _ _))

theorem dropSuffix?_eq_some {suf cs rest : List Char} : dropSuffix? suf cs = some rest ↔ cs = rest ++ suf := by
  unfold dropSuffix?
  rw [Option.map_eq_some_iff]
  constructor
  · rintro ⟨r, dropped, rfl⟩
    rw [dropPrefix?_eq_some] at dropped
    rw [← List.reverse_reverse cs, dropped]
    simp
  · rintro rfl
    exact ⟨rest.reverse, by rw [dropPrefix?_eq_some]; simp, by simp⟩

theorem splitLast?_eq_some {sep cs head tail : List Char} (found : splitLast? sep cs = some (head, tail)) :
    cs = head ++ sep ++ tail := by
  unfold splitLast? at found
  dsimp only at found
  split at found
  · rename_i i lastIs
    simp only [Option.some.injEq, Prod.mk.injEq] at found
    obtain ⟨rfl, rfl⟩ := found
    have listed := List.mem_of_getLast? lastIs
    rw [List.mem_filter] at listed
    obtain ⟨t, prefixIs⟩ := List.isPrefixOf_iff_prefix.mp listed.2
    have restIs : cs.drop (i + sep.length) = t := by
      rw [← List.drop_drop, ← prefixIs, List.drop_left]
    rw [restIs, List.append_assoc, prefixIs, List.take_append_drop]
  · cases found


/-- The element read from the text after the last `" or "`. -/
theorem element_of_tail {tail e : List Char}
    (read : (((dropPrefix? "list of ".toList tail).orElse fun _ =>
        (dropPrefix? "list[".toList tail).bind (dropSuffix? "]".toList)).bind
      fun element => if element.isEmpty = true then none else some element) = some e) :
    e ≠ [] ∧ (tail = "list of ".toList ++ e ∨ tail = "list[".toList ++ e ++ [']']) := by
  rw [Option.bind_eq_some_iff] at read
  obtain ⟨element, stripped, final⟩ := read
  split at final
  · cases final
  · rename_i nonempty
    cases final
    refine ⟨fun read => nonempty (by simp [read]), ?_⟩
    rcases listOf : dropPrefix? "list of ".toList tail with _ | rest
    · rw [listOf, Option.orElse_none, Option.bind_eq_some_iff] at stripped
      obtain ⟨inner, opened, closed⟩ := stripped
      rw [dropPrefix?_eq_some] at opened
      rw [dropSuffix?_eq_some] at closed
      exact .inr (by rw [opened, closed]; simp)
    · rw [listOf, Option.orElse_some, Option.some.injEq] at stripped
      rw [dropPrefix?_eq_some, stripped] at listOf
      exact .inl listOf

/-- The lower-cased element of a list type stands at the end of the text after `list of `, or
before its closing bracket after `list[`. -/
theorem listElement?_form {lower e : List Char} (read : listElement? lower = some e) :
    e ≠ [] ∧ ((∃ pre, lower = pre ++ "list of ".toList ++ e) ∨
      ∃ pre, lower = pre ++ "list[".toList ++ e ++ [']']) := by
  unfold listElement? at read
  simp only [bind] at read
  obtain ⟨head, tail, rfl, tailForm⟩ : ∃ head tail, lower = head ++ tail ∧
      e ≠ [] ∧ (tail = "list of ".toList ++ e ∨ tail = "list[".toList ++ e ++ [']']) := by
    split at read
    · rename_i head tail splitAt
      split at read
      · cases read
      · exact ⟨head ++ " or ".toList, tail, splitLast?_eq_some splitAt, element_of_tail read⟩
    · exact ⟨[], lower, rfl, element_of_tail read⟩
  obtain ⟨nonempty, rfl | rfl⟩ := tailForm
  · exact ⟨nonempty, .inl ⟨head, by simp⟩⟩
  · exact ⟨nonempty, .inr ⟨head, by simp⟩⟩


theorem asciiLower_append (a b : List Char) : asciiLower (a ++ b) = asciiLower a ++ asciiLower b :=
  List.map_append

theorem length_asciiLower (cs : List Char) : (asciiLower cs).length = cs.length := List.length_map _

theorem byteLength_asciiLower (cs : List Char) : byteLength (asciiLower cs) = byteLength cs := by
  induction cs with
  | nil => rfl
  | cons c cs ih =>
    rw [show asciiLower (c :: cs) = c.toLower :: asciiLower cs from rfl, byteLength_cons, byteLength_cons,
      ih, toLower_utf8Size]

/-- A written text splits where its lower-cased form does. -/
theorem asciiLower_eq_append {cs l₁ l₂ : List Char} :
    asciiLower cs = l₁ ++ l₂ ↔ ∃ a b, cs = a ++ b ∧ asciiLower a = l₁ ∧ asciiLower b = l₂ :=
  List.map_eq_append_iff

/-- A character that is no letter is written as it is lower-cased. -/
theorem asciiLower_eq_singleton {cs : List Char} {d : Char} (notAlpha : d.isAlpha = false) :
    asciiLower cs = [d] ↔ cs = [d] := by
  constructor
  · intro lowered
    obtain ⟨c, rfl⟩ := List.length_eq_one_iff.mp (by rw [← length_asciiLower, lowered]; rfl)
    rw [(toLower_eq_iff notAlpha).mp (List.singleton_inj.mp lowered)]
  · rintro rfl
    exact congrArg ([·]) ((toLower_eq_iff notAlpha).mpr rfl)

/-- The part of a text between a prefix and a suffix, cut as the classifier cuts a list element:
take all but the last `z.length` characters, then keep the last `m.length` of those. -/
theorem take_drop_middle (a m z : List Char) :
    let before := (a ++ m ++ z).take ((a ++ m ++ z).length - z.length)
    before.drop (before.length - m.length) = m := by
  intro before
  have beforeIs : before = a ++ m := by
    simp only [before, List.length_append, List.append_assoc]
    rw [show a.length + (m.length + z.length) - z.length = (a ++ m).length by simp; omega,
      ← List.append_assoc, List.take_left]
  rw [beforeIs, List.length_append, Nat.add_sub_cancel, List.drop_left]

end Pieces

/-- The four words that name a kind on their own, with their kinds. -/
def wordKinds : List (List Char × ParamKind) :=
  [("str".toList, .str), ("bool".toList, .bool), ("int".toList, .int), ("float".toList, .float)]

/-- A lower-cased text that is one of the four words. -/
def IsWordKind (lower : List Char) : Prop := ∃ k, (lower, k) ∈ wordKinds

/-- A text wrapped in braces or in brackets, with what stands inside. -/
def Wrapped (cs inside : List Char) : Prop :=
  cs = '{' :: inside ++ ['}'] ∨ cs = '[' :: inside ++ [']']

/-- A choice of options: longer than two bytes and wrapped in braces or brackets. -/
def IsSelectText (raw : String) : Prop :=
  2 < raw.utf8ByteSize ∧ ∃ inside, Wrapped raw.toList inside

/-- A lower-cased tuple type: `tuple[`, something, `]`. -/
def IsTupleText (lower : List Char) : Prop :=
  ∃ inner, inner ≠ [] ∧ lower = "tuple[".toList ++ inner ++ [']']

/-- How far before the end the classifier's cut of a list element ends: one character when the
lower-cased text ends in `]`. -/
def closingShift (lower : List Char) : Nat := if lower.getLast? = some ']' then 1 else 0

/-- The written text the classifier cuts as the list element `e`: as many characters as `e` has,
ending `closingShift` characters before the end. -/
def writtenElement (raw : String) (e : List Char) : List Char :=
  let before := raw.toList.take (raw.toList.length - closingShift (asciiLower raw.toList))
  before.drop (before.length - e.length)

section Classify

variable {raw : String}

theorem not_isWordKind {lower : List Char} (notWord : ¬ IsWordKind lower) :
    lower ≠ "str".toList ∧ lower ≠ "bool".toList ∧ lower ≠ "int".toList ∧ lower ≠ "float".toList := by
  refine ⟨fun isWord => notWord ⟨.str, ?_⟩, fun isWord => notWord ⟨.bool, ?_⟩,
    fun isWord => notWord ⟨.int, ?_⟩, fun isWord => notWord ⟨.float, ?_⟩⟩ <;>
    simp [wordKinds, isWord]

/-- Each of the four words names its kind. -/
theorem classify_of_word {w : List Char} {k : ParamKind} (listedWord : (w, k) ∈ wordKinds)
    (lowered : asciiLower raw.toList = w) : classify raw = k := by
  simp only [wordKinds, List.mem_cons, Prod.mk.injEq, List.not_mem_nil, or_false] at listedWord
  unfold classify
  rcases listedWord with ⟨rfl, rfl⟩ | ⟨rfl, rfl⟩ | ⟨rfl, rfl⟩ | ⟨rfl, rfl⟩ <;> simp [lowered]

/-- A text that is none of the four words gets none of their kinds. -/
theorem classify_ne_word (notWord : ¬ IsWordKind (asciiLower raw.toList)) {w : List Char} {k : ParamKind}
    (listedWord : (w, k) ∈ wordKinds) : classify raw ≠ k := by
  obtain ⟨notStr, notBool, notInt, notFloat⟩ := not_isWordKind notWord
  simp only [wordKinds, List.mem_cons, Prod.mk.injEq, List.not_mem_nil, or_false] at listedWord
  unfold classify
  simp only [if_neg notStr, if_neg notBool, if_neg notInt, if_neg notFloat]
  split
  · rcases listedWord with ⟨-, rfl⟩ | ⟨-, rfl⟩ | ⟨-, rfl⟩ | ⟨-, rfl⟩ <;> simp
  · split
    · rcases listedWord with ⟨-, rfl⟩ | ⟨-, rfl⟩ | ⟨-, rfl⟩ | ⟨-, rfl⟩ <;> simp
    · split
      · rcases listedWord with ⟨-, rfl⟩ | ⟨-, rfl⟩ | ⟨-, rfl⟩ | ⟨-, rfl⟩ <;> simp
      · split
        · split <;> rcases listedWord with ⟨-, rfl⟩ | ⟨-, rfl⟩ | ⟨-, rfl⟩ | ⟨-, rfl⟩ <;> simp
        · rcases listedWord with ⟨-, rfl⟩ | ⟨-, rfl⟩ | ⟨-, rfl⟩ | ⟨-, rfl⟩ <;> simp

/-- A word kind is given exactly to its word. -/
theorem classify_eq_word_iff {w : List Char} {k : ParamKind} (listedWord : (w, k) ∈ wordKinds) :
    classify raw = k ↔ asciiLower raw.toList = w := by
  refine ⟨fun classified => ?_, classify_of_word listedWord⟩
  by_cases isWord : IsWordKind (asciiLower raw.toList)
  · obtain ⟨k', listed'⟩ := isWord
    rw [classify_of_word listed' rfl] at classified
    subst classified
    simp only [wordKinds, List.mem_cons, Prod.mk.injEq, List.not_mem_nil, or_false] at listed' listedWord
    rcases listedWord with ⟨rfl, rfl⟩ | ⟨rfl, rfl⟩ | ⟨rfl, rfl⟩ | ⟨rfl, rfl⟩ <;> simp_all
  · exact absurd classified (classify_ne_word isWord listedWord)

theorem classify_of_listElement? {e : List Char} (notWord : ¬ IsWordKind (asciiLower raw.toList))
    (elementIs : listElement? (asciiLower raw.toList) = some e) :
    classify raw = .list (String.ofList (writtenElement raw e)) := by
  obtain ⟨notStr, notBool, notInt, notFloat⟩ := not_isWordKind notWord
  unfold classify
  simp only [if_neg notStr, if_neg notBool, if_neg notInt, if_neg notFloat]
  rw [elementIs]
  rfl

/-- How the element of a list type is cut from the written text `raw`, where `e` is the
lower-cased element read from the lower-cased text and `el` the written element returned. -/
structure ElementCut (raw : String) (e el : List Char) : Prop where
  /-- The lower-cased element ends the lower-cased text after `list of `, or stands before its
  closing bracket after `list[`. -/
  form : (∃ pre, asciiLower raw.toList = pre ++ "list of ".toList ++ e) ∨
    ∃ pre, asciiLower raw.toList = pre ++ "list[".toList ++ e ++ [']']
  /-- In `list of E` with `E` not ending in a bracket, the element is `E` as written. -/
  words : ∀ pre, asciiLower raw.toList = pre ++ "list of ".toList ++ e → e.getLast? ≠ some ']' →
    ∃ before, raw.toList = before ++ el ∧ asciiLower el = e
  /-- In `list[E]`, the element is `E` as written. -/
  brackets : ∀ pre, asciiLower raw.toList = pre ++ "list[".toList ++ e ++ [']'] →
    ∃ before, raw.toList = before ++ el ++ [']'] ∧ asciiLower el = e
  /-- In `list of E]`, the cut comes one character early: the space before `E`, then `E` as
  written without its closing bracket. -/
  early : ∀ pre x, asciiLower raw.toList = pre ++ "list of ".toList ++ x ++ [']'] → e = x ++ [']'] →
    ∃ before written, raw.toList = before ++ ' ' :: written ++ [']'] ∧ asciiLower written = x ∧
      el = ' ' :: written
  /-- The byte range the element is cut from, as many bytes as `e` takes, starting that many bytes
  before the end of the text, one byte earlier when the text ends in `]`, starts and ends
  between characters. -/
  bytes : byteSlice? raw.toList
    (raw.utf8ByteSize - (String.ofList e).utf8ByteSize - closingShift (asciiLower raw.toList))
    (String.ofList e).utf8ByteSize = some el

/-- The written element is the middle part of the text, when the part after it is as long as the
shift and the part itself as long as `e`. -/
theorem writtenElement_of_parts {e a m z : List Char} (parts : raw.toList = a ++ m ++ z)
    (closingLength : z.length = closingShift (asciiLower raw.toList)) (elementLength : m.length = e.length) :
    writtenElement raw e = m := by
  simp only [writtenElement, ← closingLength, ← elementLength]
  rw [parts]
  exact take_drop_middle a m z

/-- The byte range of the cut, when the closing part takes as many bytes as the shift. -/
theorem bytes_of_parts {e a m z : List Char} (parts : raw.toList = a ++ m ++ z)
    (closingBytes : byteLength z = closingShift (asciiLower raw.toList)) (elementBytes : byteLength m = byteLength e) :
    byteSlice? raw.toList
      (raw.utf8ByteSize - (String.ofList e).utf8ByteSize - closingShift (asciiLower raw.toList))
      (String.ofList e).utf8ByteSize = some m := by
  rw [utf8ByteSize_ofList, utf8ByteSize_eq_byteLength, ← closingBytes, ← elementBytes, parts]
  rw [show byteLength (a ++ m ++ z) - byteLength m - byteLength z = byteLength a by
    simp only [byteLength_append]; omega]
  exact byteSlice?_middle a m z

theorem closingShift_of_getLast? {lower : List Char} (endsClose : lower.getLast? = some ']') :
    closingShift lower = 1 := by
  simp [closingShift, endsClose]

theorem closingShift_of_not_getLast? {lower : List Char} (notClose : lower.getLast? ≠ some ']') :
    closingShift lower = 0 := by
  simp [closingShift, notClose]

/-- In `list of E`, `E` not ending in a bracket, nothing is cut from the end: the element is `E`
as written. -/
theorem writtenElement_of_words {pre e : List Char} (nonempty : e ≠ [])
    (lowered : asciiLower raw.toList = pre ++ "list of ".toList ++ e) (notBracket : e.getLast? ≠ some ']') :
    closingShift (asciiLower raw.toList) = 0 ∧
      ∃ before, raw.toList = before ++ writtenElement raw e ∧ asciiLower (writtenElement raw e) = e := by
  have shift : closingShift (asciiLower raw.toList) = 0 := by
    apply closingShift_of_not_getLast?
    rwa [lowered, List.getLast?_append_of_ne_nil _ nonempty]
  obtain ⟨a, m, parts, -, elementLower⟩ := asciiLower_eq_append.mp lowered
  have cutIs : writtenElement raw e = m :=
    writtenElement_of_parts (z := []) (by rw [parts, List.append_nil]) (by rw [shift]; rfl)
      (by rw [← elementLower, length_asciiLower])
  rw [cutIs]
  exact ⟨shift, a, parts, elementLower⟩

/-- In `list[E]`, the closing bracket is left out: the element is `E` as written. -/
theorem writtenElement_of_brackets {pre e : List Char}
    (lowered : asciiLower raw.toList = pre ++ "list[".toList ++ e ++ [']']) :
    closingShift (asciiLower raw.toList) = 1 ∧
      ∃ before, raw.toList = before ++ writtenElement raw e ++ [']'] ∧ asciiLower (writtenElement raw e) = e := by
  have shift : closingShift (asciiLower raw.toList) = 1 :=
    closingShift_of_getLast? (by rw [lowered, List.getLast?_concat])
  obtain ⟨am, z, parts, amLower, closing⟩ := asciiLower_eq_append.mp lowered
  obtain ⟨a, m, rfl, -, elementLower⟩ := asciiLower_eq_append.mp amLower
  rw [asciiLower_eq_singleton rfl] at closing
  subst closing
  have cutIs : writtenElement raw e = m :=
    writtenElement_of_parts parts (by rw [shift]; rfl) (by rw [← elementLower, length_asciiLower])
  rw [cutIs]
  exact ⟨shift, a, parts, elementLower⟩

/-- In `list of E]`, the bracket is left out and the space before `E` is cut with it: the element
is ` E` as written, one character early. -/
theorem writtenElement_of_early {pre x e : List Char}
    (lowered : asciiLower raw.toList = pre ++ "list of ".toList ++ x ++ [']']) (eIs : e = x ++ [']']) :
    closingShift (asciiLower raw.toList) = 1 ∧ ∃ before written,
      raw.toList = before ++ ' ' :: written ++ [']'] ∧ asciiLower written = x ∧
        writtenElement raw e = ' ' :: written := by
  have shift : closingShift (asciiLower raw.toList) = 1 :=
    closingShift_of_getLast? (by rw [lowered, List.getLast?_concat])
  have spaced : asciiLower raw.toList = (pre ++ "list of".toList) ++ [' '] ++ x ++ [']'] := by
    rw [lowered]
    simp
  obtain ⟨asx, z, parts, asxLower, closing⟩ := asciiLower_eq_append.mp spaced
  obtain ⟨as, w, rfl, asLower, writtenLower⟩ := asciiLower_eq_append.mp asxLower
  obtain ⟨a, sp, rfl, -, space⟩ := asciiLower_eq_append.mp asLower
  rw [asciiLower_eq_singleton rfl] at closing space
  subst closing space
  have cutIs : writtenElement raw e = ' ' :: w :=
    writtenElement_of_parts (a := a) (m := ' ' :: w) (z := [']']) (by rw [parts]; simp) (by rw [shift]; rfl)
      (by rw [eIs, ← writtenLower]; simp [length_asciiLower])
  exact ⟨shift, a, w, by rw [parts]; simp, writtenLower, cutIs⟩

/-- The written element is cut from the bytes that `e` takes, ending before the closing bracket
when the text ends in one. -/
theorem writtenElement_bytes {e : List Char} (nonempty : e ≠ [])
    (form : (∃ pre, asciiLower raw.toList = pre ++ "list of ".toList ++ e) ∨
      ∃ pre, asciiLower raw.toList = pre ++ "list[".toList ++ e ++ [']']) :
    byteSlice? raw.toList
      (raw.utf8ByteSize - (String.ofList e).utf8ByteSize - closingShift (asciiLower raw.toList))
      (String.ofList e).utf8ByteSize = some (writtenElement raw e) := by
  rcases form with ⟨pre, lowered⟩ | ⟨pre, lowered⟩
  · by_cases endsClose : e.getLast? = some ']'
    · obtain ⟨x, rfl⟩ : ∃ x, e = x ++ [']'] :=
        ⟨e.dropLast, (List.dropLast_append_getLast? _ endsClose).symm⟩
      have earlyForm : asciiLower raw.toList = pre ++ "list of ".toList ++ x ++ [']'] := by
        rw [lowered]
        simp
      obtain ⟨shift, before, written, parts, writtenLower, cutIs⟩ := writtenElement_of_early earlyForm rfl
      rw [cutIs]
      exact bytes_of_parts (z := [']']) (by rw [parts]) (by rw [shift]; rfl)
        (by rw [← writtenLower]; simp only [byteLength_cons, byteLength_append, byteLength_asciiLower,
          byteLength_nil]; show 1 + _ = _ + (1 + 0); omega)
    · obtain ⟨shift, before, parts, elementLower⟩ := writtenElement_of_words nonempty lowered endsClose
      exact bytes_of_parts (z := []) (by rw [parts, List.append_nil]) (by rw [shift]; rfl)
        (by rw [← byteLength_asciiLower, elementLower])
  · obtain ⟨shift, before, parts, elementLower⟩ := writtenElement_of_brackets lowered
    exact bytes_of_parts parts (by rw [shift]; rfl) (by rw [← byteLength_asciiLower, elementLower])

/-- The written element of a list type is cut where its lower-cased form stands, and one
character early in `list of E]`. -/
theorem classify_cuts_element {e : List Char} (notWord : ¬ IsWordKind (asciiLower raw.toList))
    (elementIs : listElement? (asciiLower raw.toList) = some e) :
    ∃ el, classify raw = .list (String.ofList el) ∧ ElementCut raw e el := by
  obtain ⟨nonempty, form⟩ := listElement?_form elementIs
  refine ⟨writtenElement raw e, classify_of_listElement? notWord elementIs,
    ⟨form, fun pre lowered notBracket => ?_, fun pre lowered => ?_, fun pre x lowered eIs => ?_,
      writtenElement_bytes nonempty form⟩⟩
  · exact (writtenElement_of_words nonempty lowered notBracket).2
  · exact (writtenElement_of_brackets lowered).2
  · exact (writtenElement_of_early lowered eIs).2

/-- A text starts with `o` and ends with a different `c` exactly when it wraps something in them. -/
theorem head?_getLast?_iff {cs : List Char} {o c : Char} (distinct : o ≠ c) :
    (cs.head? = some o ∧ cs.getLast? = some c) ↔ ∃ inside, cs = o :: inside ++ [c] := by
  constructor
  · rintro ⟨headIs, lastIs⟩
    obtain ⟨t, rfl⟩ : ∃ t, cs = o :: t := by
      cases cs with
      | nil => cases headIs
      | cons d t => exact ⟨t, by rw [Option.some.inj headIs]⟩
    cases t using List.reverseRecOn with
    | nil => exact absurd (Option.some.injEq _ _ |>.mp lastIs) distinct
    | append_singleton inside d =>
      rw [← List.cons_append, List.getLast?_concat, Option.some.injEq] at lastIs
      exact ⟨inside, by rw [lastIs]; rfl⟩
  · rintro ⟨inside, rfl⟩
    exact ⟨rfl, show ((o :: inside) ++ [c]).getLast? = some c from List.getLast?_concat⟩

/-- The classifier's test for a choice of options. -/
theorem selectTest_iff :
    (decide (2 < raw.utf8ByteSize) &&
        (decide (raw.toList.head? = some '{') && decide (raw.toList.getLast? = some '}') ||
          decide (raw.toList.head? = some '[') && decide (raw.toList.getLast? = some ']'))) = true ↔
      IsSelectText raw := by
  simp only [Bool.and_eq_true, Bool.or_eq_true, decide_eq_true_eq, IsSelectText, Wrapped]
  rw [head?_getLast?_iff (by decide), head?_getLast?_iff (by decide)]
  constructor
  · rintro ⟨long, ⟨inside, wrapped⟩ | ⟨inside, wrapped⟩⟩
    · exact ⟨long, inside, .inl wrapped⟩
    · exact ⟨long, inside, .inr wrapped⟩
  · rintro ⟨long, inside, wrapped | wrapped⟩
    · exact ⟨long, .inl ⟨inside, wrapped⟩⟩
    · exact ⟨long, .inr ⟨inside, wrapped⟩⟩

theorem inside_of_wrapped {cs inside : List Char} (wrapped : Wrapped cs inside) : (cs.drop 1).dropLast = inside := by
  rcases wrapped with rfl | rfl <;> simp

theorem tupleTest_eq_some {lower inner : List Char} :
    (dropPrefix? "tuple[".toList lower).bind (dropSuffix? "]".toList) = some inner ↔
      lower = "tuple[".toList ++ inner ++ [']'] := by
  rw [Option.bind_eq_some_iff]
  constructor
  · rintro ⟨rest, opened, closed⟩
    rw [dropPrefix?_eq_some] at opened
    rw [dropSuffix?_eq_some] at closed
    rw [opened, closed, List.append_assoc]
    rfl
  · intro lowered
    exact ⟨inner ++ [']'], dropPrefix?_eq_some.mpr (by rw [lowered, List.append_assoc]),
      dropSuffix?_eq_some.mpr rfl⟩

/-- Dropping the written `tuple[` leaves what follows it. -/
theorem drop_tuple_opening {opening rest : List Char} (lowered : asciiLower opening = "tuple[".toList) :
    (opening ++ rest).drop 6 = rest := by
  have length : opening.length = 6 := by rw [← length_asciiLower, lowered]; rfl
  rw [← length, List.drop_left]

/-- A text whose lower-cased form is `tuple[`, `inner`, `]` is the written `tuple[`, the written
inner text and the bracket. -/
theorem tuple_parts {cs inner : List Char} (lowered : asciiLower cs = "tuple[".toList ++ inner ++ [']']) :
    ∃ opening written, cs = opening ++ written ++ [']'] ∧ asciiLower opening = "tuple[".toList ∧
      asciiLower written = inner ∧ (cs.drop 6).dropLast = written := by
  obtain ⟨ow, z, parts, owLower, closing⟩ := asciiLower_eq_append.mp lowered
  obtain ⟨opening, written, rfl, openingLower, writtenLower⟩ := asciiLower_eq_append.mp owLower
  rw [asciiLower_eq_singleton rfl] at closing
  subst closing
  refine ⟨opening, written, parts, openingLower, writtenLower, ?_⟩
  rw [parts, List.append_assoc, drop_tuple_opening openingLower, List.dropLast_concat]

section Later

variable (notWord : ¬ IsWordKind (asciiLower raw.toList)) (elementIs : listElement? (asciiLower raw.toList) = none)
include notWord elementIs

theorem classify_of_select (select : IsSelectText raw) :
    classify raw = .select (splitItems ((raw.toList.drop 1).dropLast)) := by
  obtain ⟨notStr, notBool, notInt, notFloat⟩ := not_isWordKind notWord
  unfold classify
  simp only [if_neg notStr, if_neg notBool, if_neg notInt, if_neg notFloat]
  rw [elementIs]
  exact if_pos (selectTest_iff.mpr select)

theorem classify_of_not_select (notSelect : ¬ IsSelectText raw) :
    classify raw =
      if asciiLower raw.toList = "any".toList then .any
      else match (dropPrefix? "tuple[".toList (asciiLower raw.toList)).bind (dropSuffix? "]".toList) with
        | some inner => if inner.isEmpty then .other else .tuple (splitItems ((raw.toList.drop 6).dropLast))
        | none => .other := by
  obtain ⟨notStr, notBool, notInt, notFloat⟩ := not_isWordKind notWord
  unfold classify
  simp only [if_neg notStr, if_neg notBool, if_neg notInt, if_neg notFloat]
  rw [elementIs]
  exact if_neg (mt selectTest_iff.mp notSelect)

/-- A choice of options is given exactly to a text longer than two bytes wrapped in braces or
brackets, with the items of what they wrap. -/
theorem classify_eq_select_iff (options : List String) :
    classify raw = .select options ↔
      2 < raw.utf8ByteSize ∧ ∃ inside, Wrapped raw.toList inside ∧ options = splitItems inside := by
  constructor
  · intro classified
    by_cases select : IsSelectText raw
    · obtain ⟨long, inside, wrapped⟩ := select
      rw [classify_of_select notWord elementIs ⟨long, inside, wrapped⟩, inside_of_wrapped wrapped] at classified
      exact ⟨long, inside, wrapped, (ParamKind.select.inj classified).symm⟩
    · rw [classify_of_not_select notWord elementIs select] at classified
      split at classified
      · cases classified
      · split at classified
        · split at classified <;> cases classified
        · cases classified
  · rintro ⟨long, inside, wrapped, rfl⟩
    rw [classify_of_select notWord elementIs ⟨long, inside, wrapped⟩, inside_of_wrapped wrapped]

/-- After the words, lists and choices, `any` is given exactly to the word `any`. -/
theorem classify_eq_any_iff (notSelect : ¬ IsSelectText raw) :
    classify raw = .any ↔ asciiLower raw.toList = "any".toList := by
  rw [classify_of_not_select notWord elementIs notSelect]
  split
  · simp_all
  · rename_i notAny
    refine iff_of_false ?_ notAny
    split
    · split <;> simp
    · simp

/-- After the words, lists, choices and `any`, a tuple is given exactly to `tuple[...]` with
something inside, its slots the items of what stands inside as written. -/
theorem classify_eq_tuple_iff (notSelect : ¬ IsSelectText raw) (notAny : asciiLower raw.toList ≠ "any".toList)
    (slots : List String) :
    classify raw = .tuple slots ↔ ∃ opening inner, raw.toList = opening ++ inner ++ [']'] ∧
      asciiLower opening = "tuple[".toList ∧ inner ≠ [] ∧ slots = splitItems inner := by
  rw [classify_of_not_select notWord elementIs notSelect, if_neg notAny]
  constructor
  · intro classified
    split at classified
    · rename_i lowerInner tupleRead
      split at classified
      · cases classified
      · rename_i nonempty
        obtain ⟨opening, inner, parts, openingLower, innerLower, dropped⟩ := tuple_parts (tupleTest_eq_some.mp tupleRead)
        refine ⟨opening, inner, parts, openingLower, fun classified => nonempty ?_, ?_⟩
        · rw [← innerLower, classified]
          rfl
        · rw [← dropped]
          exact (ParamKind.tuple.inj classified).symm
    · cases classified
  · rintro ⟨opening, inner, parts, openingLower, nonempty, rfl⟩
    have lowered : asciiLower raw.toList = "tuple[".toList ++ asciiLower inner ++ [']'] := by
      rw [parts, asciiLower_append, asciiLower_append, openingLower]
      rfl
    rw [tupleTest_eq_some.mpr lowered]
    simp only [List.isEmpty_iff, List.map_eq_nil_iff, asciiLower]
    rw [if_neg nonempty, parts, List.append_assoc, drop_tuple_opening openingLower, List.dropLast_concat]

/-- Everything else is another kind. -/
theorem classify_eq_other_iff :
    classify raw = .other ↔ ¬ IsSelectText raw ∧ asciiLower raw.toList ≠ "any".toList ∧
      ¬ IsTupleText (asciiLower raw.toList) := by
  by_cases select : IsSelectText raw
  · rw [classify_of_select notWord elementIs select]
    simp [select]
  · rw [classify_of_not_select notWord elementIs select]
    split
    · simp_all
    · rename_i notAny
      split
      · rename_i inner tupleRead
        have lowered := tupleTest_eq_some.mp tupleRead
        by_cases innerEmpty : inner = []
        · subst innerEmpty
          simp only [List.isEmpty_nil, if_true, true_iff]
          refine ⟨select, notAny, ?_⟩
          rintro ⟨inner', nonempty', lowered'⟩
          rw [lowered] at lowered'
          simp at lowered'
          exact nonempty' lowered'
        · rw [if_neg (by simpa using innerEmpty)]
          simp only [reduceCtorEq, false_iff, not_and, not_not]
          exact fun _ _ => ⟨inner, innerEmpty, lowered⟩
      · rename_i tupleRead
        simp only [true_iff]
        refine ⟨select, notAny, ?_⟩
        rintro ⟨inner, -, lowered⟩
        rw [tupleTest_eq_some.mpr lowered] at tupleRead
        cases tupleRead

end Later

/-- After the words, a list is given exactly to a text that declares a list element. -/
theorem classify_eq_list_iff (notWord : ¬ IsWordKind (asciiLower raw.toList)) :
    (∃ el, classify raw = .list el) ↔ (listElement? (asciiLower raw.toList)).isSome := by
  rcases elementIs : listElement? (asciiLower raw.toList) with _ | e
  · simp only [Option.isSome_none, Bool.false_eq_true, iff_false, not_exists]
    intro el classified
    by_cases select : IsSelectText raw
    · rw [classify_of_select notWord elementIs select] at classified
      cases classified
    · rw [classify_of_not_select notWord elementIs select] at classified
      split at classified
      · cases classified
      · split at classified
        · split at classified <;> cases classified
        · cases classified
  · exact iff_of_true ⟨_, classify_of_listElement? notWord elementIs⟩ rfl

/-- The options are cut from the second byte to the one before last, between characters. -/
theorem byteSlice?_wrapped {cs inside : List Char} (wrapped : Wrapped cs inside) :
    byteSlice? cs 1 (byteLength cs - 2) = some inside := by
  rcases wrapped with rfl | rfl <;>
  · rw [show byteLength _ - 2 = byteLength inside by simp; show 1 + (_ + 1) - 2 = _; omega]
    exact byteSlice?_middle [_] inside [_]

/-- The slots are cut from the byte after the written `tuple[`, between characters. -/
theorem byteSlice?_tuple {cs opening inner : List Char} (parts : cs = opening ++ inner ++ [']'])
    (openingLower : asciiLower opening = "tuple[".toList) :
    byteSlice? cs 6 (byteLength inner) = some inner := by
  have openingBytes : byteLength opening = 6 := by rw [← byteLength_asciiLower, openingLower]; rfl
  rw [parts, ← openingBytes]
  exact byteSlice?_middle opening inner [']']

end Classify

/-- The classifier recognizes exactly its grammar, each form tried in turn: the four words, a list
element after the last `" or "`, a choice wrapped in braces or brackets, `any`, a tuple, and
anything else. What it cuts out of the text keeps its written casing, and every byte range it cuts
starts and ends between characters, so it never fails on any text; the element of `list of E]` is
cut one character early. -/
theorem classify_follows_grammar (raw : String) :
    (classify raw = .str ↔ asciiLower raw.toList = "str".toList) ∧
    (classify raw = .bool ↔ asciiLower raw.toList = "bool".toList) ∧
    (classify raw = .int ↔ asciiLower raw.toList = "int".toList) ∧
    (classify raw = .float ↔ asciiLower raw.toList = "float".toList) ∧
    (¬ IsWordKind (asciiLower raw.toList) →
      ((∃ el, classify raw = .list el) ↔ (listElement? (asciiLower raw.toList)).isSome)) ∧
    (¬ IsWordKind (asciiLower raw.toList) → ∀ e, listElement? (asciiLower raw.toList) = some e →
      ∃ el, classify raw = .list (String.ofList el) ∧ ElementCut raw e el) ∧
    (¬ IsWordKind (asciiLower raw.toList) → listElement? (asciiLower raw.toList) = none →
      ∀ options, classify raw = .select options ↔
        2 < raw.utf8ByteSize ∧ ∃ inside, Wrapped raw.toList inside ∧ options = splitItems inside ∧
          byteSlice? raw.toList 1 (raw.utf8ByteSize - 2) = some inside) ∧
    (¬ IsWordKind (asciiLower raw.toList) → listElement? (asciiLower raw.toList) = none →
      ¬ IsSelectText raw → (classify raw = .any ↔ asciiLower raw.toList = "any".toList)) ∧
    (¬ IsWordKind (asciiLower raw.toList) → listElement? (asciiLower raw.toList) = none →
      ¬ IsSelectText raw → asciiLower raw.toList ≠ "any".toList →
      ∀ slots, classify raw = .tuple slots ↔ ∃ opening inner, raw.toList = opening ++ inner ++ [']'] ∧
        asciiLower opening = "tuple[".toList ∧ inner ≠ [] ∧ slots = splitItems inner ∧
        byteSlice? raw.toList 6 (String.ofList inner).utf8ByteSize = some inner) ∧
    (classify raw = .other ↔ ¬ IsWordKind (asciiLower raw.toList) ∧
      listElement? (asciiLower raw.toList) = none ∧ ¬ IsSelectText raw ∧
      asciiLower raw.toList ≠ "any".toList ∧ ¬ IsTupleText (asciiLower raw.toList)) := by
  set lower := asciiLower raw.toList
  have word : ∀ w k, (w, k) ∈ wordKinds → (classify raw = k ↔ lower = w) :=
    fun _ _ listedWord => classify_eq_word_iff listedWord
  refine ⟨word _ _ (by simp [wordKinds]), word _ _ (by simp [wordKinds]),
    word _ _ (by simp [wordKinds]), word _ _ (by simp [wordKinds]), classify_eq_list_iff,
    fun notWord e elementIs => classify_cuts_element notWord elementIs, fun notWord elementIs options => ?_,
    fun notWord elementIs notSelect => classify_eq_any_iff notWord elementIs notSelect, fun notWord elementIs notSelect notAny slots => ?_, ?_⟩
  · rw [classify_eq_select_iff notWord elementIs]
    constructor
    · rintro ⟨long, inside, wrapped, rfl⟩
      refine ⟨long, inside, wrapped, rfl, ?_⟩
      rw [utf8ByteSize_eq_byteLength]
      exact byteSlice?_wrapped wrapped
    · rintro ⟨long, inside, wrapped, rfl, -⟩
      exact ⟨long, inside, wrapped, rfl⟩
  · rw [classify_eq_tuple_iff notWord elementIs notSelect notAny]
    constructor
    · rintro ⟨opening, inner, parts, openingLower, nonempty, rfl⟩
      refine ⟨opening, inner, parts, openingLower, nonempty, rfl, ?_⟩
      rw [utf8ByteSize_ofList]
      exact byteSlice?_tuple parts openingLower
    · rintro ⟨opening, inner, parts, openingLower, nonempty, rfl, -⟩
      exact ⟨opening, inner, parts, openingLower, nonempty, rfl⟩
  · rcases em (IsWordKind lower) with ⟨k, listed⟩ | notWord
    · rw [classify_of_word listed rfl]
      refine iff_of_false ?_ fun other => other.1 ⟨k, listed⟩
      simp only [wordKinds, List.mem_cons, Prod.mk.injEq, List.not_mem_nil, or_false] at listed
      rcases listed with ⟨-, rfl⟩ | ⟨-, rfl⟩ | ⟨-, rfl⟩ | ⟨-, rfl⟩ <;> simp
    · rcases elementIs : listElement? lower with _ | e
      · rw [classify_eq_other_iff notWord elementIs]
        exact ⟨fun other => ⟨notWord, rfl, other⟩, fun other => other.2.2⟩
      · rw [classify_of_listElement? notWord elementIs]
        simp

/-- In `list of x]` the lower-cased element is `x]`, but the element the classifier returns is
` x`: the cut comes one character early. -/
theorem classify_cuts_bracketed_element_early :
    listElement? (asciiLower "list of x]".toList) = some "x]".toList ∧
      classify "list of x]" = .list " x" := by
  decide

end PipelineEditor.ParamKind
