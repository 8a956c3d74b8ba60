import PipelineEditor.Text.Blank
import PipelineEditor.Json.Basic

/-!
Parameter kinds: what the type text written on a catalog parameter declares.

The type text is matched, without regard to ASCII case, against these forms in turn:
`str`, `bool`, `int` and `float` exactly; a list, when the text after the last `" or "` (with
something before it) is `list of E` or `list[E]` with a non-empty `E`; a choice of options, when
the text is longer than two bytes and wrapped in `{}` or `[]`; `any` exactly; a tuple, when the
text is `tuple[...]` with something inside; anything else is another kind.

The element of a list is cut from the text as written, at the place where the lower-cased
element ends, one character earlier when the text ends in `]`: so `list of x]` has the element
` x`. Options and tuple slots are the comma-separated items, each trimmed of blank space and then
of quote characters at both ends, empty items dropped.
-/

namespace PipelineEditor

/-- The kinds of parameter type. -/
inductive ParamKind where
  | str
  | bool
  | int
  | float
  | list (element : String)
  | select (options : List String)
  | any
  | tuple (slots : List String)
  | other
  deriving DecidableEq, Repr, Inhabited

namespace ParamKind

/-- Lower-cases ASCII letters only. -/
def asciiLower (cs : List Char) : List Char := cs.map Char.toLower

/-- The text after the last occurrence of `sep` and the text before it. -/
def splitLast? (sep cs : List Char) : Option (List Char × List Char) :=
  let n := sep.length
  let starts := (List.range (cs.length + 1)).filter fun i => sep.isPrefixOf (cs.drop i)
  match starts.getLast? with
  | some i => some (cs.take i, cs.drop (i + n))
  | none => none

/-- Whether a list starts with another, and the rest after it. -/
def dropPrefix? (pre cs : List Char) : Option (List Char) :=
  if pre.isPrefixOf cs then some (cs.drop pre.length) else none

/-- Whether a list ends with another, and the part before it. -/
def dropSuffix? (suf cs : List Char) : Option (List Char) :=
  (dropPrefix? suf.reverse cs.reverse).map List.reverse

/-- The lower-cased element of a list type, if the text declares one. -/
def listElement? (lower : List Char) : Option (List Char) := do
  let tail ← match splitLast? " or ".toList lower with
    | some (head, tail) => if head.isEmpty then none else some tail
    | none => some lower
  let element ← (dropPrefix? "list of ".toList tail).orElse fun _ =>
    (dropPrefix? "list[".toList tail).bind (dropSuffix? "]".toList)
  if element.isEmpty then none else some element

/-- Whether a character is a quote that item trimming removes. -/
def isQuote (c : Char) : Bool := c = '\'' || c = '"'

/-- Trims quote characters from both ends. -/
def trimQuotes (cs : List Char) : List Char :=
  ((cs.dropWhile isQuote).reverse.dropWhile isQuote).reverse

/-- Splits a list of characters at each comma. -/
def splitCommas (cs : List Char) : List (List Char) :=
  let (last, pieces) := cs.foldl
    (fun (current, pieces) c => if c = ',' then ([], current.reverse :: pieces) else (c :: current, pieces))
    ([], [])
  (last.reverse :: pieces).reverse

/-- The comma-separated items: trimmed of blank space, then of quotes, empty ones dropped. -/
def splitItems (cs : List Char) : List String :=
  ((splitCommas cs).map fun item => trimQuotes (trimBlanks item)).filter (!·.isEmpty)
    |>.map String.ofList

/-- What a parameter type text declares. -/
def classify (raw : String) : ParamKind :=
  let cs := raw.toList
  let lower := asciiLower cs
  if lower = "str".toList then .str
  else if lower = "bool".toList then .bool
  else if lower = "int".toList then .int
  else if lower = "float".toList then .float
  else match listElement? lower with
    | some element =>
      let shift := if lower.getLast? = some ']' then 1 else 0
      let before := cs.take (cs.length - shift)
      .list (String.ofList (before.drop (before.length - element.length)))
    | none =>
      if 2 < raw.utf8ByteSize &&
          ((cs.head? = some '{' && cs.getLast? = some '}') ||
            (cs.head? = some '[' && cs.getLast? = some ']')) then
        .select (splitItems (cs.drop 1).dropLast)
      else if lower = "any".toList then .any
      else match (dropPrefix? "tuple[".toList lower).bind (dropSuffix? "]".toList) with
        | some inner =>
          if inner.isEmpty then .other else .tuple (splitItems ((cs.drop 6).dropLast))
        | none => .other

/-- The value a parameter of this kind starts with: the declared default for texts, truth
values, numbers, lists and choices; `null` for the rest. -/
def initialValue (kind : ParamKind) (declared : Json) : Json :=
  match kind with
  | .str | .bool | .int | .float | .list _ | .select _ => declared
  | .any | .tuple _ | .other => .null

/-- Whether the kind is `any`, whose parameters carry a chosen concrete type. -/
def isAny : ParamKind → Bool
  | .any => true
  | _ => false

/-- The name of the kind. -/
def name : ParamKind → String
  | .str => "Str"
  | .bool => "Bool"
  | .int => "Int"
  | .float => "Float"
  | .list _ => "List"
  | .select _ => "Select"
  | .any => "Any"
  | .tuple _ => "Tuple"
  | .other => "Other"

end ParamKind

end PipelineEditor
