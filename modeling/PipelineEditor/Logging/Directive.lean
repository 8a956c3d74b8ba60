import PipelineEditor.Text.Blank
import PipelineEditor.Text.Alphanumeric
import PipelineEditor.Text.Regex
import PipelineEditor.Decimal.Read

/-!
Directives of log filters.

A directive lets through the log lines of the targets that start with its target (all targets
when it has none), inside a span of its span name, carrying its fields, up to its level. Levels
rank from `off` (0) through `error`, `warn`, `info` and `debug` to `trace` (5).

A directive is read from its text trimmed of blanks, one character after the other:
* a first `[` opens a span; any other first character must be a letter, a number, `-`, `:` or
  `_`, and starts a level or target;
* in a level or target, `=` ends the target and starts the level, and `[` ends the target and
  opens a span; a level or target that reaches the end is a level when it reads as one, and
  otherwise a target that lets every level through;
* in a span, `]` ends its name, and `{` ends its name (no name when it is empty) and starts its
  fields; after the span only `=` and a level may follow;
* a field ends at `}` and must not be empty; what follows its first `=` is the value it asks for,
  which must be a boolean, an integer, a float or a well-formed regular expression; after the
  field only `]` may follow;
* a level is empty, which lets every level through, or reads as a level.

Offsets are counted in bytes of the trimmed text, but each part is cut from the text as given:
blanks in front of a directive shift its parts by their length, and a cut that falls inside a
character stops the program.
-/

namespace PipelineEditor

namespace LogFilter

/-- A field a directive names; `valued` when it also names a value to match. -/
structure FieldMatch where
  name : String
  valued : Bool
  deriving BEq, Inhabited, Repr

/-- What a directive says. -/
structure Directive where
  /-- The targets it speaks for: those starting with this text; `none` for all. -/
  target : Option String
  /-- The span it is limited to. -/
  span : Option String
  /-- The fields it asks for. -/
  fields : List FieldMatch
  /-- The most verbose level it lets through. -/
  level : Nat
  deriving BEq, Inhabited, Repr

/-- Why a directive cannot be read. -/
inductive DirectiveError where
  /-- The text is not a directive. -/
  | malformed
  /-- A part would be cut inside a character, which stops the program. -/
  | splitCharacter
  deriving BEq, Inhabited, Repr

/-- The number written by decimal digits after an optional `+`, if there is a digit. -/
def unsignedValue? (cs : List Char) : Option Nat :=
  let digits := match cs with
    | '+' :: rest => rest
    | _ => cs
  if !digits.isEmpty && digits.all Char.isDigit then
    some (digits.foldl (fun n c => n * 10 + (c.toNat - '0'.toNat)) 0)
  else none

/-- The number of values of a 64-bit word. -/
def wordSize : Nat := Nat.pow 2 64

/-- The level a text names: a number from 0 to 5 (after an optional `+`), a level name in any
ASCII case, or `error` for the empty text. -/
def level? (text : String) : Option Nat :=
  let cs := text.toList
  let byNumber := (unsignedValue? cs).bind fun n => if n < wordSize && n ≤ 5 then some n else none
  byNumber.or <|
    match String.ofList (cs.map Char.toLower) with
    | "" => some 1
    | "off" => some 0
    | "error" => some 1
    | "warn" => some 2
    | "info" => some 3
    | "debug" => some 4
    | "trace" => some 5
    | _ => none

/-- Whether a text is a 64-bit integer, signed or unsigned. -/
def isWord (text : String) : Bool :=
  match text.toList with
  | '-' :: digits =>
    !digits.isEmpty && digits.all Char.isDigit &&
      digits.foldl (fun n c => n * 10 + (c.toNat - '0'.toNat)) 0 ≤ wordSize / 2
  | cs => (unsignedValue? cs).any (· < wordSize)

/-- Whether a text is a value a field may ask for. -/
def isFieldValue (value : String) : Bool :=
  value == "true" || value == "false" || isWord value || (Decimal.readNumber? value).isSome ||
    Regex.isWellFormed value

/-- The field a non-empty field text names: its name before the first `=`, and the value after
it up to any second `=`. -/
def fieldMatch? (text : String) : Option FieldMatch :=
  match text.splitOn "=" with
  | name :: value :: _ => if isFieldValue value then some ⟨name, true⟩ else none
  | name :: [] => some ⟨name, false⟩
  | [] => some ⟨"", false⟩

/-- The characters after the first `n` bytes; `none` when byte `n` falls inside a character or
past the end. -/
def dropBytes? : List Char → Nat → Option (List Char)
  | cs, 0 => some cs
  | [], _ + 1 => none
  | c :: rest, n + 1 => if c.utf8Size ≤ n + 1 then dropBytes? rest (n + 1 - c.utf8Size) else none

/-- The characters of the first `n` bytes; `none` when byte `n` falls inside a character or past
the end. -/
def takeBytes? : List Char → Nat → Option (List Char)
  | _, 0 => some []
  | [], _ + 1 => none
  | c :: rest, n + 1 =>
    if c.utf8Size ≤ n + 1 then (takeBytes? rest (n + 1 - c.utf8Size)).map (c :: ·) else none

/-- Bytes `start` to `stop` of a text. -/
def cut (text : List Char) (start stop : Nat) : Except DirectiveError String :=
  match (dropBytes? text start).bind fun rest => takeBytes? rest (stop - start) with
  | some cs => .ok (String.ofList cs)
  | none => .error .splitCharacter

/-- The bytes of a text from `start` on. -/
def cutFrom (text : List Char) (start : Nat) : Except DirectiveError String :=
  match dropBytes? text start with
  | some cs => .ok (String.ofList cs)
  | none => .error .splitCharacter

/-- Where the reading of a directive stands; offsets are where the current part begins. -/
inductive Reading where
  | start
  | levelOrTarget (start : Nat)
  | span (start : Nat)
  | field (start : Nat)
  | afterField
  | afterSpan
  | level (start : Nat)
  deriving BEq, Inhabited, Repr

/-- A directive being read. -/
structure Progress where
  reading : Reading := .start
  target : Option String := none
  span : Option String := none
  fields : List FieldMatch := []
  deriving Inhabited

/-- Reads the character at byte `i` of the trimmed text; parts are cut from `text`. -/
def Progress.step (text : List Char) (p : Progress) (i : Nat) (c : Char) :
    Except DirectiveError Progress :=
  match p.reading, c with
  | .start, '[' => .ok { p with reading := .span (i + 1) }
  | .start, c =>
    if c == '-' || c == ':' || c == '_' || isAlphanumeric c then
      .ok { p with reading := .levelOrTarget i }
    else .error .malformed
  | .levelOrTarget start, '=' => do
    let target ← cut text start i
    pure { p with target := some target, reading := .level (i + 1) }
  | .levelOrTarget start, '[' => do
    let target ← cut text start i
    pure { p with target := some target, reading := .span (i + 1) }
  | .levelOrTarget _, _ => .ok p
  | .afterSpan, '=' => .ok { p with reading := .level (i + 1) }
  | .span start, ']' => do
    let name ← cut text start i
    pure { p with span := some name, reading := .afterSpan }
  | .span start, '{' => do
    let name ← cut text start i
    pure { p with span := if name.isEmpty then none else some name, reading := .field (i + 1) }
  | .span _, _ => .ok p
  | .field start, '}' => do
    let field ← cut text start i
    if field.isEmpty then throw .malformed
    match fieldMatch? field with
    | some m => pure { p with fields := p.fields ++ [m], reading := .afterField }
    | none => throw .malformed
  | .field _, _ => .ok p
  | .afterField, ']' => .ok { p with reading := .afterSpan }
  | .level _, _ => .ok p
  | _, _ => .error .malformed

/-- Reads the characters of the trimmed text from byte `i` on. -/
def Progress.readFrom (text : List Char) : Progress → Nat → List Char → Except DirectiveError Progress
  | p, _, [] => .ok p
  | p, i, c :: rest => do
    let p ← p.step text i c
    p.readFrom text (i + c.utf8Size) rest

/-- The directive read when the text ends. -/
def Progress.finish (text : List Char) (p : Progress) : Except DirectiveError Directive :=
  match p.reading with
  | .levelOrTarget start => do
    let word ← cutFrom text start
    match level? word with
    | some level => pure ⟨none, p.span, p.fields, level⟩
    | none => pure ⟨some word, p.span, p.fields, 5⟩
  | .level start => do
    let word ← cutFrom text start
    if word.isEmpty then pure ⟨p.target, p.span, p.fields, 5⟩
    else
      match level? word with
      | some level => pure ⟨p.target, p.span, p.fields, level⟩
      | none => throw .malformed
  | .afterSpan => .ok ⟨p.target, p.span, p.fields, 5⟩
  | _ => .error .malformed

/-- Reads a directive that holds no comma. -/
def Directive.read (text : String) : Except DirectiveError Directive := do
  let cs := text.toList
  let p ← ({} : Progress).readFrom cs 0 (trimBlanks cs)
  p.finish cs

/-- Whether a directive speaks for lines outside any span: it names no span and no field
value. -/
def Directive.isStatic (d : Directive) : Bool :=
  d.span.isNone && d.fields.all fun f => !f.valued

/-- Whether a directive speaks for a line of a target that carries the fields named. -/
def Directive.speaksFor (d : Directive) (target : String) (fields : List String) : Bool :=
  d.target.all (fun t => target.startsWith t) && d.fields.all fun f => fields.contains f.name

/-- How specific a directive is: first by the byte length of its target (one without a target
least), then by the number of its fields. -/
def Directive.specificity (d : Directive) : Nat × Nat :=
  ((d.target.map (·.utf8ByteSize + 1)).getD 0, d.fields.length)

/-- Whether `a` is at most as specific as `b`. -/
def atMostAsSpecific (a b : Nat × Nat) : Bool :=
  a.1 < b.1 || (a.1 == b.1 && a.2 ≤ b.2)

/-- Whether directives let through a line of a target, carrying the fields named, logged at a
level outside any span: of the directives that speak for it, the most specific one decides (of
two equally specific ones, the later), and a line that none speaks for is dropped. -/
def enables (directives : List Directive) (target : String) (fields : List String)
    (level : Nat) : Bool :=
  let speaking := directives.filter fun d => d.isStatic && d.speaksFor target fields
  let deciding := speaking.foldl (fun best d => match best with
    | some b => if atMostAsSpecific b.specificity d.specificity then some d else some b
    | none => some d) none
  match deciding with
  | some d => level ≤ d.level
  | none => false

end LogFilter

end PipelineEditor
