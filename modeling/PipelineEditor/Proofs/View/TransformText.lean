import Mathlib
import PipelineEditor.View.Transform

/-! The texts reading accepts as a view transform, and that it reads a transform's own text back. -/

namespace PipelineEditor

namespace ViewTransform

open Decimal

section Split

variable (sep : Char → Bool)

/-- One character of `splitWhere`: a separator closes the current piece. -/
def splitStep (acc : List Char × List (List Char)) (c : Char) : List Char × List (List Char) :=
  if sep c then ([], acc.1.reverse :: acc.2) else (c :: acc.1, acc.2)

/-- Splitting the rest of a text after the closed pieces `done` and the started piece `cur`, both
held reversed, is the library's split with `cur` in front of its first piece. -/
theorem foldl_splitStep (cs cur : List Char) (done : List (List Char)) :
    ((cs.foldl (splitStep sep) (cur, done)).1.reverse :: (cs.foldl (splitStep sep) (cur, done)).2).reverse =
      done.reverse ++ List.splitOnPPrepend sep cs cur := by
  induction cs generalizing cur done with
  | nil => simp
  | cons c cs ih =>
    rw [List.foldl_cons]
    by_cases isSep : sep c = true
    · rw [List.splitOnPPrepend_cons_pos isSep]
      simp only [splitStep, isSep, if_true]
      rw [ih]
      simp
    · rw [List.splitOnPPrepend_cons_neg (Bool.eq_false_iff.mpr isSep)]
      simp only [splitStep, isSep, Bool.false_eq_true, if_false]
      exact ih (c :: cur) done

/-- `splitWhere` is the library's split at separators. -/
theorem splitWhere_eq_splitOnP (cs : List Char) : splitWhere sep cs = cs.splitOnP sep := by
  have folded := foldl_splitStep sep cs [] []
  rw [List.reverse_nil, List.nil_append, List.splitOnPPrepend_nil_right] at folded
  exact folded

/-- The non-empty pieces of a text split at separators. -/
def pieces (cs : List Char) : List (List Char) := (splitWhere sep cs).filter (!·.isEmpty)

theorem pieces_cons_of_sep {c : Char} (isSep : sep c = true) (cs : List Char) :
    pieces sep (c :: cs) = pieces sep cs := by
  simp [pieces, splitWhere_eq_splitOnP, List.splitOnP_cons_eq_if_modifyHead, isSep]

theorem pieces_append_of_forall_sep (x : List Char) :
    ∀ {s : List Char}, (∀ c ∈ s, sep c = true) → pieces sep (s ++ x) = pieces sep x
  | [], _ => rfl
  | c :: s, allSep => by
    rw [List.cons_append, pieces_cons_of_sep sep (allSep c List.mem_cons_self),
      pieces_append_of_forall_sep x fun d inS => allSep d (List.mem_cons_of_mem c inS)]

theorem pieces_of_forall_not_sep {p : List Char} (nonempty : p ≠ []) (noSep : ∀ c ∈ p, sep c = false) :
    pieces sep p = [p] := by
  simp [pieces, splitWhere_eq_splitOnP, List.splitOnP_eq_singleton noSep, nonempty]

theorem pieces_append_sep {p : List Char} (nonempty : p ≠ []) (noSep : ∀ c ∈ p, sep c = false)
    {c : Char} (isSep : sep c = true) (r : List Char) :
    pieces sep (p ++ c :: r) = p :: pieces sep r := by
  simp [pieces, splitWhere_eq_splitOnP, List.splitOnP_append_cons_of_forall_mem noSep c isSep, nonempty]

end Split

section Pieces

variable (sep : Char → Bool)

@[simp] theorem pieces_nil : pieces sep [] = [] := rfl

/-- Every text is blank of pieces, or has a first piece after some separators, followed by the
end or by a separator. -/
theorem first_piece_cases (cs : List Char) :
    (∀ c ∈ cs, sep c = true) ∨
      ∃ s p rest, (∀ c ∈ s, sep c = true) ∧ p ≠ [] ∧ (∀ c ∈ p, sep c = false) ∧
        cs = s ++ p ++ rest ∧ (rest = [] ∨ ∃ c r, sep c = true ∧ rest = c :: r) := by
  rcases dropped : cs.dropWhile sep with _ | ⟨d, x⟩
  · exact .inl (List.dropWhile_eq_nil_iff.mp dropped)
  · right
    have headNotSep : sep d = false := by
      have := List.head_dropWhile_not sep (l := cs) (by rw [dropped]; simp)
      simpa [dropped] using this
    refine ⟨cs.takeWhile sep, (d :: x).takeWhile (fun c => !sep c), (d :: x).dropWhile (fun c => !sep c),
      fun c inPrefix => List.mem_takeWhile_imp inPrefix, by simp [List.takeWhile_cons_of_pos, headNotSep],
      fun c inPrefix => by simpa using List.mem_takeWhile_imp inPrefix, ?_, ?_⟩
    · rw [List.append_assoc, List.takeWhile_append_dropWhile, ← dropped, List.takeWhile_append_dropWhile]
    · rcases restIs : (d :: x).dropWhile (fun c => !sep c) with _ | ⟨e, r⟩
      · exact .inl rfl
      · have headSep := List.head_dropWhile_not (fun c => !sep c) (l := d :: x) (by rw [restIs]; simp)
        simp only [restIs, List.head_cons, Bool.not_eq_false'] at headSep
        exact .inr ⟨e, r, by simpa using headSep, rfl⟩

theorem pieces_append_first {s p : List Char} (allSep : ∀ c ∈ s, sep c = true) (nonempty : p ≠ [])
    (noSep : ∀ c ∈ p, sep c = false) : pieces sep (s ++ p) = [p] := by
  rw [pieces_append_of_forall_sep sep p allSep, pieces_of_forall_not_sep sep nonempty noSep]

theorem pieces_append_first_sep {s p : List Char} (allSep : ∀ c ∈ s, sep c = true) (nonempty : p ≠ [])
    (noSep : ∀ c ∈ p, sep c = false) {c : Char} (isSep : sep c = true) (r : List Char) :
    pieces sep (s ++ p ++ c :: r) = p :: pieces sep r := by
  rw [List.append_assoc, pieces_append_of_forall_sep sep _ allSep, pieces_append_sep sep nonempty noSep isSep]

/-- A text has no pieces exactly when it is all separators. -/
theorem pieces_eq_nil_iff {cs : List Char} : pieces sep cs = [] ↔ ∀ c ∈ cs, sep c = true := by
  constructor
  · intro none
    rcases first_piece_cases sep cs with allSep | ⟨s, p, rest, leadSep, nonempty, noSep, rfl, after⟩
    · exact allSep
    · rcases after with rfl | ⟨c, r, isSep, rfl⟩
      · rw [List.append_nil, pieces_append_first sep leadSep nonempty noSep] at none
        cases none
      · rw [pieces_append_first_sep sep leadSep nonempty noSep isSep] at none
        cases none
  · intro none
    simpa using pieces_append_of_forall_sep sep [] none

/-- The first piece of a text, after the separators before it, and what follows it. -/
theorem pieces_eq_cons_iff {cs p : List Char} {ps : List (List Char)} :
    pieces sep cs = p :: ps ↔
      ∃ s rest, (∀ c ∈ s, sep c = true) ∧ p ≠ [] ∧ (∀ c ∈ p, sep c = false) ∧
        cs = s ++ p ++ rest ∧
        ((rest = [] ∧ ps = []) ∨ ∃ c r, sep c = true ∧ rest = c :: r ∧ pieces sep r = ps) := by
  constructor
  · intro first
    rcases first_piece_cases sep cs with allSep | ⟨s, q, rest, leadSep, nonempty, noSep, rfl, after⟩
    · rw [(pieces_eq_nil_iff sep).mpr allSep] at first
      cases first
    · rcases after with rfl | ⟨c, r, isSep, rfl⟩
      · rw [List.append_nil, pieces_append_first sep leadSep nonempty noSep, List.cons.injEq] at first
        obtain ⟨rfl, rfl⟩ := first
        exact ⟨s, [], leadSep, nonempty, noSep, by simp, .inl ⟨rfl, rfl⟩⟩
      · rw [pieces_append_first_sep sep leadSep nonempty noSep isSep, List.cons.injEq] at first
        obtain ⟨rfl, rfl⟩ := first
        exact ⟨s, c :: r, leadSep, nonempty, noSep, rfl, .inr ⟨c, r, isSep, rfl, rfl⟩⟩
  · rintro ⟨s, rest, leadSep, nonempty, noSep, rfl, (⟨rfl, rfl⟩ | ⟨c, r, isSep, rfl, rfl⟩)⟩
    · rw [List.append_nil, pieces_append_first sep leadSep nonempty noSep]
    · rw [pieces_append_first_sep sep leadSep nonempty noSep isSep]

/-- Exactly two pieces `a` and `b`: separators, `a`, at least one separator, `b`, separators. -/
def TwoPieces (cs a b : List Char) : Prop :=
  ∃ s₁ s₂ s₃, cs = s₁ ++ a ++ s₂ ++ b ++ s₃ ∧ s₂ ≠ [] ∧ (∀ c ∈ s₁ ++ s₂ ++ s₃, sep c = true) ∧
    a ≠ [] ∧ b ≠ [] ∧ ∀ c ∈ a ++ b, sep c = false

theorem pieces_eq_pair_iff {cs a b : List Char} : pieces sep cs = [a, b] ↔ TwoPieces sep cs a b := by
  constructor
  · intro pair
    obtain ⟨s₁, rest, leadSep, aNonempty, aNoSep, rfl, after⟩ := (pieces_eq_cons_iff sep).mp pair
    rcases after with ⟨-, noMore⟩ | ⟨c, r, isSep, rfl, restPieces⟩
    · cases noMore
    obtain ⟨s₂, s₃, midSep, bNonempty, bNoSep, rfl, after'⟩ := (pieces_eq_cons_iff sep).mp restPieces
    have trailSep : ∀ d ∈ s₃, sep d = true := by
      rcases after' with ⟨rfl, -⟩ | ⟨d, r', dSep, rfl, restNone⟩
      · simp
      · intro e inTail
        rcases List.mem_cons.mp inTail with rfl | inTail
        · exact dSep
        · exact (pieces_eq_nil_iff sep).mp restNone e inTail
    refine ⟨s₁, c :: s₂, s₃, by simp, List.cons_ne_nil _ _, ?_, aNonempty, bNonempty, ?_⟩
    · intro d listed
      simp only [List.mem_append, List.mem_cons] at listed
      rcases listed with (listed | rfl | listed) | listed
      · exact leadSep d listed
      · exact isSep
      · exact midSep d listed
      · exact trailSep d listed
    · intro d listed
      rcases List.mem_append.mp listed with listed | listed
      · exact aNoSep d listed
      · exact bNoSep d listed
  · rintro ⟨s₁, _ | ⟨c, s₂⟩, s₃, rfl, midNonempty, allSep, aNonempty, bNonempty, noSep⟩
    · exact absurd rfl midNonempty
    have sepAt : ∀ d, d ∈ s₁ ∨ d = c ∨ d ∈ s₂ ∨ d ∈ s₃ → sep d = true := fun d listed =>
      allSep d (by rcases listed with listed | listed | listed | listed <;> simp [listed])
    refine (pieces_eq_cons_iff sep).mpr ⟨s₁, c :: (s₂ ++ b ++ s₃), fun d listed => sepAt d (.inl listed), aNonempty,
      fun d listed => noSep d (List.mem_append_left _ listed), by simp, .inr ⟨c, _, sepAt c (by simp), rfl, ?_⟩⟩
    refine (pieces_eq_cons_iff sep).mpr ⟨s₂, s₃, fun d listed => sepAt d (by simp [listed]), bNonempty,
      fun d listed => noSep d (List.mem_append_right _ listed), rfl, ?_⟩
    rcases s₃ with _ | ⟨d, s₃⟩
    · exact .inl ⟨rfl, rfl⟩
    · exact .inr ⟨d, s₃, sepAt d (by simp), rfl,
        (pieces_eq_nil_iff sep).mpr fun e inTail => sepAt e (by simp [inTail])⟩

end Pieces


section Blanks

theorem dropBlanks_of_head {cs : List Char} (headNotBlank : ∀ c ∈ cs.head?, isBlank c = false) :
    dropBlanks cs = cs := by
  cases cs with
  | nil => rfl
  | cons c cs => exact List.dropWhile_cons_of_neg (by simp [headNotBlank c (by simp)])

/-- Trimming keeps a text whose ends are not blank. -/
theorem trimBlanks_eq_self {cs : List Char} (headNotBlank : ∀ c ∈ cs.head?, isBlank c = false)
    (lastNotBlank : ∀ c ∈ cs.getLast?, isBlank c = false) : trimBlanks cs = cs := by
  have revHead : ∀ c ∈ cs.reverse.head?, isBlank c = false := by
    rw [List.head?_reverse]
    exact lastNotBlank
  rw [trimBlanks, dropBlanks_of_head headNotBlank, dropBlanks_of_head revHead, List.reverse_reverse]

theorem trimBlanks_of_forall {cs : List Char} (noBlank : ∀ c ∈ cs, isBlank c = false) :
    trimBlanks cs = cs :=
  trimBlanks_eq_self (fun c listed => noBlank c (List.mem_of_mem_head? listed))
    (fun c listed => noBlank c (List.mem_of_mem_getLast? listed))

theorem trimBlanks_cons_of_isBlank {c : Char} (blank : isBlank c = true) (cs : List Char) :
    trimBlanks (c :: cs) = trimBlanks cs := by
  unfold trimBlanks dropBlanks
  rw [List.dropWhile_cons_of_pos blank]

end Blanks

section Reading

theorem stripPrefix?_eq_some_iff {pre cs rest : List Char} :
    stripPrefix? pre cs = some rest ↔ cs = pre ++ rest := by
  unfold stripPrefix?
  constructor
  · intro stripped
    split at stripped
    · rename_i isPrefix
      cases stripped
      exact (List.prefix_iff_eq_append.mp (List.isPrefixOf_iff_prefix.mp isPrefix)).symm
    · cases stripped
  · rintro rfl
    simp [List.isPrefixOf_iff_prefix]

theorem forall_ne_close {coords : List Char} (noClose : ')' ∉ coords) :
    ∀ c ∈ coords, (c != ')') = true := fun c listed => by
  have notClose : c ≠ ')' := fun isClose => noClose (isClose ▸ listed)
  simpa using notClose

/-- What follows the first closing bracket: the text splits there. -/
theorem afterClose?_eq_some_iff {body rest : List Char} :
    afterClose? body = some rest ↔ ∃ coords, body = coords ++ ')' :: rest ∧ ')' ∉ coords := by
  unfold afterClose?
  constructor
  · intro found
    split at found
    · rename_i d r dropped
      cases found
      have isClose : d = ')' := by
        have := List.head_dropWhile_not (· != ')') (l := body) (by rw [dropped]; simp)
        simpa [dropped] using this
      have dropped' : body.dropWhile (· != ')') = ')' :: rest := isClose ▸ dropped
      refine ⟨body.takeWhile (· != ')'), ?_, fun inCoords => ?_⟩
      · rw [← dropped', List.takeWhile_append_dropWhile]
      · simpa using List.mem_takeWhile_imp inCoords
    · cases found
  · rintro ⟨coords, rfl, noClose⟩
    rw [List.dropWhile_append_of_pos (forall_ne_close noClose), List.dropWhile_cons_of_neg (by simp)]

theorem takeWhile_close {coords rest : List Char} (noClose : ')' ∉ coords) :
    (coords ++ ')' :: rest).takeWhile (· != ')') = coords := by
  rw [List.takeWhile_append_of_pos (forall_ne_close noClose), List.takeWhile_cons_of_neg (by simp),
    List.append_nil]

/-- A text reads as the finite number `f`. -/
def ReadsFinite (cs : List Char) (f : Float) : Prop :=
  readNumber? (String.ofList cs) = some f ∧ f.isFinite = true

theorem readPart?_eq_some_iff {part : List Char} {f : Float} :
    readPart? part = some f ↔ ReadsFinite (trimBlanks part) f := by
  unfold readPart? ReadsFinite
  cases read : readNumber? (String.ofList (trimBlanks part)) with
  | none => simp
  | some g =>
    by_cases finite : g.isFinite = true
    · simp only [finite, if_true, Option.some.injEq]
      constructor
      · rintro rfl
        exact ⟨rfl, finite⟩
      · exact fun reads => reads.1
    · simp only [finite, Bool.false_eq_true, if_false, reduceCtorEq, Option.some.injEq, false_iff]
      rintro ⟨rfl, finite'⟩
      exact finite finite'

/-- The separators between the coordinates: commas and blank space. -/
def coordSep (c : Char) : Bool := c == ',' || isBlank c

theorem isBlank_of_coordSep {c : Char} (notSep : coordSep c = false) : isBlank c = false := by
  simp only [coordSep, Bool.or_eq_false_iff] at notSep
  exact notSep.2

/-- A piece between separators has no blank to trim. -/
theorem readPart?_piece {p : List Char} (noSep : ∀ c ∈ p, coordSep c = false) {f : Float} :
    readPart? p = some f ↔ ReadsFinite p f := by
  rw [readPart?_eq_some_iff, trimBlanks_of_forall fun c listed => isBlank_of_coordSep (noSep c listed)]

/-- The coordinates are read from the pieces of their text. -/
theorem filter_splitWhere_coordSep (coords : List Char) :
    (splitWhere (fun c => c == ',' || isBlank c) coords).filter (!·.isEmpty) = pieces coordSep coords :=
  rfl

theorem readCoords?_of_pieces {coords a b : List Char} (pair : pieces coordSep coords = [a, b]) :
    readCoords? coords = (readPart? a).bind fun x => (readPart? b).bind fun y => some (x, y) := by
  unfold readCoords?
  rw [filter_splitWhere_coordSep, pair]
  rfl

theorem readCoords?_eq_some_iff {coords : List Char} {x y : Float} :
    readCoords? coords = some (x, y) ↔
      ∃ a b, TwoPieces coordSep coords a b ∧ ReadsFinite a x ∧ ReadsFinite b y := by
  constructor
  · intro read
    unfold readCoords? at read
    rw [filter_splitWhere_coordSep] at read
    split at read
    · rename_i a b pair
      simp only [bind, Option.bind_eq_some_iff, pure, Option.some.injEq, Prod.mk.injEq] at read
      obtain ⟨x', xReads, y', yReads, rfl, rfl⟩ := read
      obtain ⟨s₁, s₂, s₃, coordsSplit, midNonempty, allSep, aNonempty, bNonempty, noSep⟩ := (pieces_eq_pair_iff coordSep).mp pair
      refine ⟨a, b, ⟨s₁, s₂, s₃, coordsSplit, midNonempty, allSep, aNonempty, bNonempty, noSep⟩, ?_, ?_⟩
      · exact (readPart?_piece fun c listed => noSep c (List.mem_append_left b listed)).mp xReads
      · exact (readPart?_piece fun c listed => noSep c (List.mem_append_right a listed)).mp yReads
    · cases read
  · rintro ⟨a, b, pair, xReads, yReads⟩
    rw [readCoords?_of_pieces ((pieces_eq_pair_iff coordSep).mpr pair)]
    obtain ⟨-, -, -, -, -, -, -, -, noSep⟩ := pair
    rw [(readPart?_piece fun c listed => noSep c (List.mem_append_left b listed)).mpr xReads,
      (readPart?_piece fun c listed => noSep c (List.mem_append_right a listed)).mpr yReads]
    rfl

theorem readScale?_scale (inner : List Char) :
    readScale? ("scale(".toList ++ inner ++ [')']) = readPart? inner := by
  have stripped : stripPrefix? "scale(".toList ("scale(".toList ++ inner ++ [')']) =
      some (inner ++ [')']) :=
    stripPrefix?_eq_some_iff.mpr (List.append_assoc _ _ _)
  have notEmpty : ("scale(".toList ++ inner ++ [')']).isEmpty = false := by simp
  unfold readScale?
  rw [if_neg (by rw [notEmpty]; decide)]
  simp only [bind, stripped, Option.bind_some, List.reverse_append, List.reverse_cons,
    List.reverse_nil, List.nil_append, List.singleton_append, List.reverse_reverse]

theorem readScale?_eq_some_iff {rest : List Char} {k : Float} :
    readScale? rest = some k ↔
      (rest = [] ∧ k = 1) ∨
        ∃ inner, rest = "scale(".toList ++ inner ++ [')'] ∧ ReadsFinite (trimBlanks inner) k := by
  constructor
  · intro read
    unfold readScale? at read
    split at read
    · rename_i empty
      cases read
      exact .inl ⟨List.isEmpty_iff.mp empty, rfl⟩
    · simp only [bind, Option.bind_eq_some_iff] at read
      obtain ⟨inner, stripped, readsK⟩ := read
      split at readsK
      · rename_i scale reversed
        have innerIs : inner = scale.reverse ++ [')'] := by
          rw [← List.reverse_reverse inner, reversed, List.reverse_cons]
        refine .inr ⟨scale.reverse, ?_, readPart?_eq_some_iff.mp readsK⟩
        rw [stripPrefix?_eq_some_iff.mp stripped, innerIs, List.append_assoc]
      · cases readsK
  · rintro (⟨rfl, rfl⟩ | ⟨inner, rfl, readsK⟩)
    · rfl
    · rw [readScale?_scale, readPart?_eq_some_iff]
      exact readsK

/-- Reading a text that starts with `translate(`, split at its first closing bracket. -/
theorem readParts?_of_split {cs coords rest : List Char}
    (trimmed : trimBlanks cs = "translate(".toList ++ coords ++ ')' :: rest) (noClose : ')' ∉ coords) :
    readParts? cs = (readCoords? coords).bind fun xy =>
      (readScale? (trimBlanks rest)).bind fun k => some ⟨xy.1, xy.2, k⟩ := by
  have stripped : stripPrefix? "translate(".toList (trimBlanks cs) = some (coords ++ ')' :: rest) :=
    stripPrefix?_eq_some_iff.mpr (by rw [trimmed, List.append_assoc])
  have after : afterClose? (coords ++ ')' :: rest) = some rest :=
    afterClose?_eq_some_iff.mpr ⟨coords, rfl, noClose⟩
  unfold readParts?
  simp only [bind, stripped, after, Option.bind_some, takeWhile_close noClose]
  rcases readCoords? coords with _ | ⟨x, y⟩ <;> rfl

/-- The texts that read as the transform `t`: after trimming, `translate(`, then up to the first
closing bracket two numbers apart by commas and blank space, then, trimmed, nothing for a scale of
1 or `scale(`, a number and `)`. Every number is finite. -/
def Written (cs : List Char) (t : ViewTransform) : Prop :=
  ∃ coords rest a b, trimBlanks cs = "translate(".toList ++ coords ++ ')' :: rest ∧ ')' ∉ coords ∧
    TwoPieces coordSep coords a b ∧ ReadsFinite a t.x ∧ ReadsFinite b t.y ∧
    ((trimBlanks rest = [] ∧ t.k = 1) ∨
      ∃ inner, trimBlanks rest = "scale(".toList ++ inner ++ [')'] ∧ ReadsFinite (trimBlanks inner) t.k)

theorem readParts?_eq_some_iff {cs : List Char} {t : ViewTransform} :
    readParts? cs = some t ↔ Written cs t := by
  constructor
  · intro read
    unfold readParts? at read
    simp only [bind, Option.bind_eq_some_iff, pure, Option.some.injEq] at read
    obtain ⟨body, stripped, rest, after, ⟨x, y⟩, coordsRead, k, scaleRead, rfl⟩ := read
    obtain ⟨coords, rfl, noClose⟩ := afterClose?_eq_some_iff.mp after
    rw [takeWhile_close noClose] at coordsRead
    obtain ⟨a, b, pair, xReads, yReads⟩ := readCoords?_eq_some_iff.mp coordsRead
    refine ⟨coords, rest, a, b, ?_, noClose, pair, xReads, yReads, readScale?_eq_some_iff.mp scaleRead⟩
    rw [stripPrefix?_eq_some_iff.mp stripped, List.append_assoc]
  · rintro ⟨coords, rest, a, b, trimmed, noClose, pair, xReads, yReads, scaleRead⟩
    rw [readParts?_of_split trimmed noClose, readCoords?_eq_some_iff.mpr ⟨a, b, pair, xReads, yReads⟩,
      readScale?_eq_some_iff.mpr scaleRead]
    rfl

theorem parse_eq_ok_iff {raw : String} {t : ViewTransform} :
    parse raw = .ok t ↔ Written raw.toList t := by
  rw [← readParts?_eq_some_iff]
  unfold parse
  split
  · rename_i t' readIs
    rw [readIs]
    simp
  · rename_i refused
    rw [refused]
    simp

/-- A refused text is refused with the whole text. -/
theorem parse_eq_error_iff {raw : String} {e : EditorError} :
    parse raw = .error e ↔ e = .invalidTransform raw ∧ ¬ ∃ t, Written raw.toList t := by
  simp only [← readParts?_eq_some_iff]
  unfold parse
  split
  · rename_i t' readIs
    simp [readIs]
  · rename_i refused
    simp [refused, eq_comm]

end Reading

section PlainText

/-- The characters of a number in plain layout: digits, the sign, the point, and the letters of
`NaN` and `inf`. -/
def PlainChar (c : Char) : Prop := c.isDigit = true ∨ c ∈ ['-', '.', 'N', 'a', 'i', 'n', 'f']

instance (c : Char) : Decidable (PlainChar c) :=
  inferInstanceAs (Decidable (c.isDigit = true ∨ c ∈ ['-', '.', 'N', 'a', 'i', 'n', 'f']))

theorem blankTable_not_digit : ∀ n ∈ blankTable, n < 48 ∨ 57 < n := by decide

theorem PlainChar.coordSep_eq_false_and_ne_close {c : Char} (outside : PlainChar c) :
    coordSep c = false ∧ c ≠ ')' := by
  rcases outside with digit | listed
  · simp only [Char.isDigit, Bool.and_eq_true, decide_eq_true_eq] at digit
    have low : 48 ≤ c.toNat := digit.1
    have high : c.toNat ≤ 57 := digit.2
    have notBlank : c.toNat ∉ blankTable := fun listed => by
      rcases blankTable_not_digit _ listed with outside | outside <;> omega
    -- a digit is none of the characters below `0`, as the comma and the bracket are
    have belowZero : ∀ d : Char, d.toNat < 48 → c ≠ d := fun d below same => by
      rw [same] at low
      omega
    simp [coordSep, isBlank, belowZero ',' (by decide), notBlank, belowZero ')' (by decide)]
  · simp only [List.mem_cons, List.not_mem_nil, or_false] at listed
    rcases listed with rfl | rfl | rfl | rfl | rfl | rfl | rfl <;> simp [coordSep, isBlank, blankTable]

/-- The digits of a value laid out without an exponent, with its point and its zeros. -/
theorem plain_body_chars {ds : String} (digits : ∀ c ∈ ds.toList, c.isDigit = true) (point : Int) :
    ∀ c ∈ (Layout.plain.body ds point).toList, PlainChar c := by
  have plainDigits : ∀ c ∈ ds.toList, PlainChar c := fun c listed => .inl (digits c listed)
  have plainZeros : ∀ n, ∀ c ∈ (zeros n).toList, PlainChar c := fun n c listed => .inl (zeros_isDigit n c listed)
  simp only [Layout.body, positional_plain, if_true]
  split_ifs
  · simp only [String.toList_append, List.forall_mem_append]
    exact ⟨⟨by simp [PlainChar], plainZeros _⟩, plainDigits⟩
  · simp only [String.toList_append, String.toList_ofList, List.forall_mem_append]
    exact ⟨⟨fun c listed => plainDigits c (List.mem_of_mem_take listed), by simp [PlainChar]⟩,
      fun c listed => plainDigits c (List.mem_of_mem_drop listed)⟩
  · simp only [String.toList_append, List.forall_mem_append]
    exact ⟨⟨plainDigits, plainZeros _⟩, by simp [Layout.plain]⟩

theorem plain_body_ne_nil {ds : String} (nonempty : ds.toList ≠ []) (point : Int) :
    (Layout.plain.body ds point).toList ≠ [] := by
  simp only [Layout.body, positional_plain, if_true]
  split_ifs <;> simp [String.toList_append, nonempty]

/-- Every number text in plain layout is non-empty and made of plain characters. -/
theorem plainText_chars (f : Float) :
    (plainText f).toList ≠ [] ∧ ∀ c ∈ (plainText f).toList, PlainChar c := by
  unfold plainText Layout.write
  split
  · exact ⟨by simp [Layout.plain], by simp [PlainChar, Layout.plain]⟩
  · rename_i negative _
    cases negative <;> exact ⟨by simp [Layout.plain], by simp [PlainChar, Layout.plain]⟩
  · rename_i b _
    have plainSign : ∀ c ∈ (if b.negative then "-" else "").toList, PlainChar c := by
      split <;> simp [PlainChar]
    simp only
    split
    · simp only [String.toList_append, List.forall_mem_append]
      exact ⟨by simp, ⟨plainSign, by simp [PlainChar]⟩, by simp [Layout.plain]⟩
    · have digits := natDigits_isDigit b.shortest.digits
      have nonempty : (natDigits b.shortest.digits).toList ≠ [] := by
        simp [natDigits, Nat.toDigits_ne_nil]
      simp only [String.toList_append, List.forall_mem_append]
      exact ⟨by simp [plain_body_ne_nil nonempty], plainSign, plain_body_chars digits _⟩

/-- The biased exponent of a double that is not finite has all its bits set. -/
theorem biased_of_isFinite_eq_false {f : Float} (notFinite : f.isFinite = false) :
    f.toBits.toNat / Nat.pow 2 52 % Nat.pow 2 11 = 2047 := by
  simp only [Float.isFinite, Float.Model.isFinite, Float.Model.unpack,
    Float.Model.UnpackedFloat.unpack] at notFinite
  split at notFinite
  · rename_i allOnes
    have := congrArg BitVec.toNat allOnes
    simp [Float.Model.UnpackedFloat.unpackExponent] at this
    simpa [Float.toBits, Nat.shiftRight_eq_div_pow] using this
  · split at notFinite
    · split at notFinite <;> simp [Float.Model.UnpackedFloat.isFinite] at notFinite
    · simp [Float.Model.UnpackedFloat.isFinite] at notFinite

theorem kind_of_isFinite_eq_false {f : Float} (notFinite : f.isFinite = false) :
    Kind.ofFloat f = .nan ∨ ∃ negative, Kind.ofFloat f = .infinite negative := by
  unfold Kind.ofFloat
  simp only [biased_of_isFinite_eq_false notFinite, if_true]
  split
  · exact .inr ⟨_, rfl⟩
  · exact .inl rfl

/-- A double that is not finite is written `NaN`, `inf` or `-inf`. -/
theorem plainText_of_isFinite_eq_false {f : Float} (notFinite : f.isFinite = false) :
    plainText f = "NaN" ∨ plainText f = "inf" ∨ plainText f = "-inf" := by
  unfold plainText Layout.write
  rcases kind_of_isFinite_eq_false notFinite with kind | ⟨negative, kind⟩
  · rw [kind]
    exact .inl rfl
  · rw [kind]
    cases negative
    · exact .inr (.inl rfl)
    · exact .inr (.inr rfl)

/-- None of these texts reads as a finite number. -/
theorem readPart?_plainText_of_isFinite_eq_false {f : Float} (notFinite : f.isFinite = false) :
    readPart? (plainText f).toList = none := by
  rcases plainText_of_isFinite_eq_false notFinite with written | written | written <;> rw [written] <;>
    exact Option.isNone_iff_eq_none.mp (by decide +kernel)

theorem readPart?_plainText {f : Float} (finite : f.isFinite = true)
    (reads : readNumber? (plainText f) = some f) : readPart? (plainText f).toList = some f := by
  rw [readPart?_piece fun c listed => ((plainText_chars f).2 c listed).coordSep_eq_false_and_ne_close.1]
  exact ⟨by rwa [String.ofList_toList], finite⟩

end PlainText

section RoundTrip

theorem text_toList (t : ViewTransform) :
    t.text.toList = "translate(".toList ++ ((plainText t.x).toList ++ ',' :: (plainText t.y).toList) ++
      ')' :: ' ' :: ("scale(".toList ++ (plainText t.k).toList ++ [')']) := by
  have comma : ",".toList = [','] := rfl
  have scale : ") scale(".toList = ')' :: ' ' :: "scale(".toList := rfl
  have close : ")".toList = [')'] := rfl
  unfold text
  simp only [String.toList_append]
  rw [comma, scale, close]
  simp only [List.append_assoc, List.cons_append, List.nil_append]

/-- Reading a transform's text reads its three number texts. -/
theorem readParts?_text (t : ViewTransform) :
    readParts? t.text.toList =
      (readPart? (plainText t.x).toList).bind fun x => (readPart? (plainText t.y).toList).bind fun y =>
        (readPart? (plainText t.k).toList).bind fun k => some ⟨x, y, k⟩ := by
  obtain ⟨xNonempty, xPlain⟩ := plainText_chars t.x
  obtain ⟨yNonempty, yPlain⟩ := plainText_chars t.y
  have noClose : ')' ∉ (plainText t.x).toList ++ ',' :: (plainText t.y).toList := by
    intro listed
    simp only [List.mem_append, List.mem_cons] at listed
    rcases listed with listed | listed | listed
    · exact (xPlain _ listed).coordSep_eq_false_and_ne_close.2 rfl
    · cases listed
    · exact (yPlain _ listed).coordSep_eq_false_and_ne_close.2 rfl
  have trimmed : trimBlanks t.text.toList = t.text.toList :=
    trimBlanks_eq_self (by simp [text_toList]; decide)
      (by simp [text_toList, List.getLast?_append, List.getLast?_cons]; decide)
  have pair : pieces coordSep ((plainText t.x).toList ++ ',' :: (plainText t.y).toList) =
      [(plainText t.x).toList, (plainText t.y).toList] := by
    rw [pieces_append_sep coordSep xNonempty (fun c listed => (xPlain c listed).coordSep_eq_false_and_ne_close.1) rfl,
      pieces_of_forall_not_sep coordSep yNonempty (fun c listed => (yPlain c listed).coordSep_eq_false_and_ne_close.1)]
  have scaleTrimmed : trimBlanks (' ' :: ("scale(".toList ++ (plainText t.k).toList ++ [')'])) =
      "scale(".toList ++ (plainText t.k).toList ++ [')'] := by
    rw [trimBlanks_cons_of_isBlank (by decide)]
    exact trimBlanks_eq_self (by simp; decide) (by simp [List.getLast?_append, List.getLast?_cons]; decide)
  rw [readParts?_of_split (trimmed.trans (text_toList t)) noClose, readCoords?_of_pieces pair, scaleTrimmed,
    readScale?_scale]
  simp only [Option.bind_assoc, Option.bind_some]

theorem parse_text_of_readsBack {t : ViewTransform} (finite : t.IsFinite)
    (xReads : readNumber? (plainText t.x) = some t.x) (yReads : readNumber? (plainText t.y) = some t.y)
    (kReads : readNumber? (plainText t.k) = some t.k) : parse t.text = .ok t := by
  unfold parse
  rw [readParts?_text, readPart?_plainText finite.1 xReads, readPart?_plainText finite.2.1 yReads,
    readPart?_plainText finite.2.2 kReads]
  rfl

theorem parse_text_of_not_isFinite {t : ViewTransform} (notFinite : ¬ t.IsFinite) :
    parse t.text = .error (.invalidTransform t.text) := by
  have refused : readParts? t.text.toList = none := by
    rw [readParts?_text]
    simp only [IsFinite, not_and_or, Bool.not_eq_true] at notFinite
    rcases notFinite with notFinite | notFinite | notFinite <;> simp [readPart?_plainText_of_isFinite_eq_false notFinite]
  unfold parse
  rw [refused]

/-- The text of a transform reads back as the transform, bit for bit, when its numbers are finite
and their texts read back as them; a transform with a number that is not finite has a text that
is refused; and reading accepts exactly the written texts, refusing every other with its whole. -/
theorem transform_text_round_trip :
    (∀ t : ViewTransform, t.IsFinite → readNumber? (plainText t.x) = some t.x →
        readNumber? (plainText t.y) = some t.y → readNumber? (plainText t.k) = some t.k →
        parse t.text = .ok t) ∧
      (∀ t : ViewTransform, ¬ t.IsFinite → parse t.text = .error (.invalidTransform t.text)) ∧
      (∀ raw t, parse raw = .ok t ↔ Written raw.toList t) ∧
      ∀ raw e, parse raw = .error e ↔ e = .invalidTransform raw ∧ ¬ ∃ t, Written raw.toList t :=
  ⟨fun _ finite xReads yReads kReads => parse_text_of_readsBack finite xReads yReads kReads,
    fun _ notFinite => parse_text_of_not_isFinite notFinite, fun _ _ => parse_eq_ok_iff, fun _ _ => parse_eq_error_iff⟩

/-- A pan with a fraction and a sign, a zoom below one; and a pan that is not a number. -/
theorem transform_text_samples :
    parse (⟨-12.5, 40, 0.75⟩ : ViewTransform).text = .ok ⟨-12.5, 40, 0.75⟩ ∧
      parse (⟨0 / 0, 40, 1⟩ : ViewTransform).text =
        .error (.invalidTransform (⟨0 / 0, 40, 1⟩ : ViewTransform).text) :=
  ⟨transform_text_round_trip.1 _ (by decide) rfl rfl rfl, transform_text_round_trip.2.1 _ (by decide)⟩

end RoundTrip

end ViewTransform

end PipelineEditor
