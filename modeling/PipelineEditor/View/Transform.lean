import PipelineEditor.Text.Blank
import PipelineEditor.Decimal.Read
import PipelineEditor.Decimal.Layout
import PipelineEditor.Error
import PipelineEditor.Json.Basic

/-!
The view transform: how far the canvas is panned and how much it is zoomed.

Its text is `translate(x,y) scale(k)`, the numbers in `Decimal.Layout.plain`. Reading is lenient:
blank space around the whole, the two coordinates separated by commas or blank space in any
number (empty parts are skipped), the scale part optional (then `k` is 1), and each number in
the usual number text but finite. The payload form of a transform is its text.
-/

namespace PipelineEditor

/-- The pan `(x, y)` and zoom `k` of the canvas. -/
structure ViewTransform where
  x : Float
  y : Float
  k : Float
  deriving Inhabited

namespace ViewTransform

/-- No pan, no zoom. -/
def identity : ViewTransform := ⟨0, 0, 1⟩

/-- Whether the pan and the zoom are finite numbers. -/
def IsFinite (t : ViewTransform) : Prop :=
  t.x.isFinite = true ∧ t.y.isFinite = true ∧ t.k.isFinite = true

instance (t : ViewTransform) : Decidable t.IsFinite :=
  inferInstanceAs (Decidable (t.x.isFinite = true ∧ t.y.isFinite = true ∧ t.k.isFinite = true))

instance : BEq ViewTransform := ⟨fun a b => a.x == b.x && a.y == b.y && a.k == b.k⟩

/-- The text `translate(x,y) scale(k)`. -/
def text (t : ViewTransform) : String :=
  "translate(" ++ Decimal.plainText t.x ++ "," ++ Decimal.plainText t.y ++ ") scale(" ++
    Decimal.plainText t.k ++ ")"

/-- A finite number read from a part of the text, after trimming it. -/
def readPart? (part : List Char) : Option Float :=
  match Decimal.readNumber? (String.ofList (trimBlanks part)) with
  | some f => if f.isFinite then some f else none
  | none => none

/-- Splits a list of characters wherever `sep` holds, keeping the empty pieces. -/
def splitWhere (sep : Char → Bool) (cs : List Char) : List (List Char) :=
  let (last, pieces) := cs.foldl
    (fun (current, pieces) c => if sep c then ([], current.reverse :: pieces) else (c :: current, pieces))
    ([], [])
  (last.reverse :: pieces).reverse

/-- Whether a list starts with another, and the rest after it. -/
def stripPrefix? (pre cs : List Char) : Option (List Char) :=
  if pre.isPrefixOf cs then some (cs.drop pre.length) else none

/-- What follows the first closing bracket, if there is one. -/
def afterClose? (body : List Char) : Option (List Char) :=
  match body.dropWhile (· != ')') with
  | _ :: rest => some rest
  | [] => none

/-- Reads the two coordinates, separated by commas or blank space. -/
def readCoords? (coords : List Char) : Option (Float × Float) :=
  match (splitWhere (fun c => c == ',' || isBlank c) coords).filter (!·.isEmpty) with
  | [a, b] => do pure (← readPart? a, ← readPart? b)
  | _ => none

/-- Reads the scale part; without one the scale is 1. -/
def readScale? (rest : List Char) : Option Float :=
  if rest.isEmpty then some 1
  else do
    let inner ← stripPrefix? "scale(".toList rest
    match inner.reverse with
    | ')' :: scale => readPart? scale.reverse
    | _ => none

/-- Reads the coordinates and the scale part. -/
def readParts? (cs : List Char) : Option ViewTransform := do
  let body ← stripPrefix? "translate(".toList (trimBlanks cs)
  let rest ← afterClose? body
  let (x, y) ← readCoords? (body.takeWhile (· != ')'))
  let k ← readScale? (trimBlanks rest)
  pure ⟨x, y, k⟩

/-- Reads a transform from its text. -/
def parse (raw : String) : Except EditorError ViewTransform :=
  match readParts? raw.toList with
  | some t => .ok t
  | none => .error (.invalidTransform raw)

/-- The payload form: the text. -/
def toJson (t : ViewTransform) : Json := .string t.text

/-- Reads a transform from its payload form. -/
def ofJson? : Json → Option ViewTransform
  | .string s => (parse s).toOption
  | _ => none

end ViewTransform

end PipelineEditor
