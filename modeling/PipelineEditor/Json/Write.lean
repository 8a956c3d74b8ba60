import PipelineEditor.Json.Basic
import PipelineEditor.Decimal.Layout

/-!
Writing payload text.

Strings escape the quote, the backslash and the characters below U+0020 (with the short forms
`\b \f \n \r \t` where they exist, `\u00xx` in lower-case hexadecimal otherwise). Numbers are
written in `Decimal.Layout.json`. `compact` puts no space anywhere; `pretty` puts each item and
member on a line of its own, indented by two spaces a level, with `": "` after a key.
-/

namespace PipelineEditor.Json

/-- The hexadecimal digit of a value below 16, in lower case. -/
def hexDigit (n : Nat) : Char :=
  if n < 10 then Char.ofNat ('0'.toNat + n) else Char.ofNat ('a'.toNat + n - 10)

/-- The escaped form of one character inside a string. -/
def escapeChar (c : Char) : List Char :=
  match c with
  | '"' => ['\\', '"']
  | '\\' => ['\\', '\\']
  | '\x08' => ['\\', 'b']
  | '\x0c' => ['\\', 'f']
  | '\n' => ['\\', 'n']
  | '\r' => ['\\', 'r']
  | '\t' => ['\\', 't']
  | c =>
    if c.toNat < 0x20 then ['\\', 'u', '0', '0', hexDigit (c.toNat / 16), hexDigit (c.toNat % 16)]
    else [c]

/-- A string as a quoted payload token. -/
def quote (s : String) : String :=
  String.ofList ('"' :: (s.toList.flatMap escapeChar ++ ['"']))

/-- A number as a payload token; a double that is not finite has none and is written `null`. -/
def numberText : JsonNumber → String
  | .unsigned n => Decimal.natDigits n
  | .negative n => "-" ++ Decimal.natDigits n
  | .double f => Decimal.Layout.json.write f

mutual
/-- The payload text of a value, without any blank space. -/
def compact : Json → String
  | .null => "null"
  | .bool true => "true"
  | .bool false => "false"
  | .number n => numberText n
  | .string s => quote s
  | .array items => "[" ++ compactItems items ++ "]"
  | .object fields => "\x7b" ++ compactFields fields ++ "\x7d"

/-- The items of an array, separated by commas. -/
def compactItems : List Json → String
  | [] => ""
  | [v] => compact v
  | v :: rest => compact v ++ "," ++ compactItems rest

/-- The members of an object, separated by commas. -/
def compactFields : List (String × Json) → String
  | [] => ""
  | [(k, v)] => quote k ++ ":" ++ compact v
  | (k, v) :: rest => quote k ++ ":" ++ compact v ++ "," ++ compactFields rest
end

/-- The indentation of a nesting level. -/
def indent (level : Nat) : String := String.ofList (List.replicate (2 * level) ' ')

mutual
/-- The payload text of a value at a nesting level, one item or member a line. -/
def prettyAt (level : Nat) : Json → String
  | .array [] => "[]"
  | .object [] => "\x7b\x7d"
  | .array items => "[\n" ++ prettyItems (level + 1) items ++ "\n" ++ indent level ++ "]"
  | .object fields => "\x7b\n" ++ prettyFields (level + 1) fields ++ "\n" ++ indent level ++ "\x7d"
  | v => compact v

/-- The items of an array, one a line. -/
def prettyItems (level : Nat) : List Json → String
  | [] => ""
  | [v] => indent level ++ prettyAt level v
  | v :: rest => indent level ++ prettyAt level v ++ ",\n" ++ prettyItems level rest

/-- The members of an object, one a line. -/
def prettyFields (level : Nat) : List (String × Json) → String
  | [] => ""
  | [(k, v)] => indent level ++ quote k ++ ": " ++ prettyAt level v
  | (k, v) :: rest =>
    indent level ++ quote k ++ ": " ++ prettyAt level v ++ ",\n" ++ prettyFields level rest
end

/-- The payload text of a value laid out over lines. -/
def pretty (v : Json) : String := prettyAt 0 v

end PipelineEditor.Json
