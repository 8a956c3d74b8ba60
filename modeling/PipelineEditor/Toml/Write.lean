import PipelineEditor.Toml.Value

/-!
Writing TOML documents.

A string is written in the first of these forms that can hold it:
* a basic string `"…"` with no escape, when the text has no control character, backslash,
  quote or line break;
* a literal string `'…'`, when it has no control character, apostrophe or line break;
* a multi-line basic string `"""…"""` with no escape, when it has no control character or
  backslash and no more than two quotes in a row;
* a multi-line literal string `'''…'''`, when it has no control character and no more than two
  apostrophes in a row;
* otherwise an escaped multi-line basic string when it has a line break, else an escaped basic
  string.

Tab is not a control character here, since every form may hold it raw. A multi-line string whose
text has a line break starts on a new line; the reader drops that first line break.

A document of sections is written one section after another, each as its header and its
key/value lines, with a blank line between two sections.
-/

namespace PipelineEditor

namespace Toml

/-- The longest run of one character in a text. -/
def longestRun (c : Char) (cs : List Char) : Nat :=
  (cs.foldl (fun (best, run) d => if d == c then (max best (run + 1), run + 1) else (best, 0))
    (0, 0)).1

/-- Whether a character cannot stand raw in a literal string: a control character other than tab
and line break, or delete. -/
def needsEscapeCode (c : Char) : Bool :=
  (c.toNat ≤ 0x1F && c != '\t' && c != '\n') || c.toNat == 0x7F

/-- What of a text decides the form it is written in. -/
structure StringTraits where
  /-- The longest run of apostrophes. -/
  apostrophes : Nat
  /-- The longest run of quotes. -/
  quotes : Nat
  /-- Whether it holds a character that only an escape can write. -/
  escapeCodes : Bool
  /-- Whether it holds a backslash. -/
  backslash : Bool
  /-- Whether it holds a line break. -/
  newline : Bool

/-- The traits of a text. -/
def StringTraits.of (cs : List Char) : StringTraits where
  apostrophes := longestRun '\'' cs
  quotes := longestRun '"' cs
  escapeCodes := cs.any needsEscapeCode
  backslash := cs.contains '\\'
  newline := cs.contains '\n'

/-- The forms of a string value. -/
inductive StringForm where
  /-- `"…"`, with escapes. -/
  | basic
  /-- `'…'`, as it is. -/
  | literal
  /-- `"""…"""`, with escapes; quotes only when more than two meet. -/
  | multiBasic
  /-- `'''…'''`, as it is. -/
  | multiLiteral
  deriving BEq, Inhabited

/-- The form a text with these traits is written in. -/
def StringTraits.form (t : StringTraits) : StringForm :=
  if !t.escapeCodes && !t.backslash && t.quotes == 0 && !t.newline then .basic
  else if !t.escapeCodes && t.apostrophes == 0 && !t.newline then .literal
  else if !t.escapeCodes && !t.backslash && t.quotes ≤ 2 then .multiBasic
  else if !t.escapeCodes && t.apostrophes ≤ 2 then .multiLiteral
  else if t.newline then .multiBasic
  else .basic

/-- The four hexadecimal digits of a code below 65536, in capitals. -/
def hex4 (n : Nat) : String :=
  let digit := fun (d : Nat) => if d < 10 then Char.ofNat (48 + d) else Char.ofNat (55 + d)
  String.ofList [digit (n / 4096 % 16), digit (n / 256 % 16), digit (n / 16 % 16), digit (n % 16)]

/-- A character other than a quote as it stands in a basic string; a line break stays raw in a
multi-line one. -/
def escapeChar (multiLine : Bool) (c : Char) : String :=
  match c with
  | '\x08' => "\\b"
  | '\t' => "\\t"
  | '\n' => if multiLine then "\n" else "\\n"
  | '\x0c' => "\\f"
  | '\r' => "\\r"
  | '\\' => "\\\\"
  | c => if c.toNat ≤ 0x1F || c.toNat == 0x7F then "\\u" ++ hex4 c.toNat else c.toString

/-- The body of a basic string: a quote is escaped when `allowed` unescaped quotes stand right
before it (`run` counts them), and the count starts again after an escaped one. -/
def escapeBody (multiLine : Bool) (allowed : Nat) : Nat → List Char → String
  | _, [] => ""
  | run, '"' :: rest =>
    if allowed < run + 1 then "\\\"" ++ escapeBody multiLine allowed 0 rest
    else "\"" ++ escapeBody multiLine allowed (run + 1) rest
  | _, c :: rest => escapeChar multiLine c ++ escapeBody multiLine allowed 0 rest

/-- A string as a value of a document. -/
def quote (text : String) : String :=
  let cs := text.toList
  let traits := StringTraits.of cs
  let opening := if traits.newline then "\n" else ""
  match traits.form with
  | .basic => "\"" ++ escapeBody false 0 0 cs ++ "\""
  | .literal => "'" ++ text ++ "'"
  | .multiBasic => "\"\"\"" ++ opening ++ escapeBody true 2 0 cs ++ "\"\"\""
  | .multiLiteral => "'''" ++ opening ++ text ++ "'''"

/-- Whether a key can be written bare. -/
def isBareKey (key : String) : Bool :=
  !key.isEmpty && key.all fun c => c.isAlphanum || c == '_' || c == '-'

/-- A key as it stands in a document. -/
def keyText (key : String) : String :=
  if isBareKey key then key else "\"" ++ escapeBody false 0 0 key.toList ++ "\""

/-- A section of a document: a header and the string values under it. -/
structure Section where
  name : String
  entries : List (String × String)
  deriving Inhabited

/-- The lines of a section. -/
def Section.text (s : Section) : String :=
  "[" ++ keyText s.name ++ "]\n" ++
    String.join (s.entries.map fun (key, value) => keyText key ++ " = " ++ quote value ++ "\n")

/-- A document of sections, with a blank line between two sections. -/
def writeSections (sections : List Section) : String :=
  "\n".intercalate (sections.map Section.text)

end Toml

end PipelineEditor
