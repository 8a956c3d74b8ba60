import PipelineEditor.Url.Idna.Map
import PipelineEditor.Url.Idna.Punycode
import PipelineEditor.Text.Canonical
import PipelineEditor.Text.Mark
import PipelineEditor.Text.Direction
import PipelineEditor.Text.Joining

/-!
Domain names in ASCII (Unicode IDNA Compatibility Processing, nontransitional, with hyphens and
label lengths unchecked).

A domain name is brought to ASCII in these steps:
* every character is mapped by the table of `Idna.status`; a disallowed one is an error;
* the result is put in Normalization Form C and split into labels at each `.`;
* a label that starts with `xn--` must be ASCII and is read as Punycode; what it reads as must
  not be empty, must hold a character beyond ASCII, and must be valid;
* every label must be valid: in Normalization Form C, not starting with `xn--` once read, not
  starting with a combining mark, of characters that map to themselves, and with each zero-width
  joiner after a virama and each zero-width non-joiner after a virama or between a character
  that joins to its right and one that joins to its left, with transparent ones skipped;
* when a label holds a right-to-left character or an Arabic number, every label must read as
  right-to-left or left-to-right text by the rules for domain names;
* each label beyond ASCII is written as `xn--` and its Punycode.
-/

namespace PipelineEditor

namespace Idna

/-- The characters a domain name maps to; `none` when one is disallowed. -/
def mapChars : List Char → Option (List Char)
  | [] => some []
  | c :: rest => do
    let tail ← mapChars rest
    match status c.toNat with
    | .valid => some (c :: tail)
    | .mapped target => some (target.map Char.ofNat ++ tail)
    | .ignored => some tail
    | .disallowed => none

/-- Whether a character stays as it is in a domain name. -/
def isValidChar (c : Char) : Bool := status c.toNat == .valid

/-- The virama class of canonical combining. -/
def viramaClass : Nat := 9

/-- Whether the character before a position is a virama. -/
def afterVirama (before : List Char) : Bool :=
  match before with
  | c :: _ => Canonical.combiningClass c.toNat == viramaClass
  | [] => false

/-- Whether the first character that is not transparent joins as one of `types`. -/
def joinsAs (types : List JoiningType) (cs : List Char) : Bool :=
  match cs.dropWhile (fun c => JoiningType.of c == .transparent) with
  | c :: _ => types.contains (JoiningType.of c)
  | [] => false

/-- Whether every zero-width joiner and non-joiner of a label stands where it may; `before`
holds the characters passed, nearest first. -/
def joinersFit : List Char → List Char → Bool
  | [], _ => true
  | c :: rest, before =>
    let fits :=
      if c.toNat == 0x200D then afterVirama before
      else if c.toNat == 0x200C then
        afterVirama before || (joinsAs [.left, .dual] before && joinsAs [.right, .dual] rest)
      else true
    fits && joinersFit rest (c :: before)

/-- Whether a label holds a right-to-left character or an Arabic number. -/
def isRightToLeft (label : List Char) : Bool :=
  label.any fun c => [BidiClass.rightToLeft, .arabicLetter, .arabicNumber].contains (BidiClass.of c)

/-- The class of the last character that is not a non-spacing mark. -/
def lastClassBeforeMarks (label : List Char) : Option BidiClass :=
  (label.reverse.dropWhile (fun c => BidiClass.of c == .nonspacingMark)).head?.map BidiClass.of

/-- Whether a label reads as right-to-left or left-to-right text by the rules for domain names. -/
def bidiFits (label : List Char) : Bool :=
  match label with
  | [] => true
  | first :: rest =>
    let classes := rest.map BidiClass.of
    match BidiClass.of first with
    | .leftToRight =>
      classes.all (fun k => [BidiClass.leftToRight, .europeanNumber, .europeanSeparator, .commonSeparator,
        .europeanTerminator, .otherNeutral, .boundaryNeutral, .nonspacingMark].contains k) &&
      (match lastClassBeforeMarks label with
        | some k => k == .leftToRight || k == .europeanNumber
        | none => true)
    | .rightToLeft | .arabicLetter =>
      classes.all (fun k => [BidiClass.rightToLeft, .arabicLetter, .arabicNumber, .europeanNumber,
        .europeanSeparator, .commonSeparator, .europeanTerminator, .otherNeutral, .boundaryNeutral,
        .nonspacingMark].contains k) &&
      (match lastClassBeforeMarks label with
        | some k => [BidiClass.rightToLeft, .arabicLetter, .europeanNumber, .arabicNumber].contains k
        | none => false) &&
      !(classes.contains .europeanNumber && classes.contains .arabicNumber)
    | _ => false

/-- Whether a label meets the criteria of validity. -/
def isValidLabel (label : List Char) : Bool :=
  Canonical.normalize (String.ofList label) == String.ofList label &&
    !(label.take 4 == "xn--".toList) &&
    !(label.head?.any isMark) &&
    label.all isValidChar &&
    joinersFit label []

/-- A label as read: a label that starts with `xn--` read from Punycode; `none` on an error. -/
def readLabel (label : List Char) : Option (List Char) :=
  if label.take 4 == "xn--".toList then do
    if !label.all (fun c => c.toNat < 0x80) then none
    let decoded ← Punycode.decode? (label.drop 4)
    if decoded.isEmpty || decoded.all (fun c => c.toNat < 0x80) then none
    if isValidLabel decoded then some decoded else none
  else if isValidLabel label then some label else none

/-- A label in ASCII. -/
def asciiLabel (label : List Char) : String :=
  if label.all (fun c => c.toNat < 0x80) then String.ofList label
  else "xn--" ++ Punycode.encode label

/-- A domain name in ASCII; `none` when it is not one. -/
def toAscii (domain : String) : Option String := do
  let mapped ← mapChars domain.toList
  let normal := Canonical.normalize (String.ofList mapped)
  let labels ← (normal.splitOn ".").mapM fun label => readLabel label.toList
  if labels.any isRightToLeft && !labels.all bidiFits then none
  pure (".".intercalate (labels.map asciiLabel))

end Idna

end PipelineEditor
