import PipelineEditor.Json.Decode

/-!
Nodes: a named instance of a catalog package placed on the canvas.

A node's payload form is `{"name", "package", "x", "y", "selected"}`: the position is written
flat into the node's own object, and `selected` may be left out (it is then false).
-/

namespace PipelineEditor

/-- A point of the canvas. -/
structure Position where
  x : Float
  y : Float
  deriving Inhabited

namespace Position

/-- The origin of the canvas. -/
def origin : Position := ⟨0, 0⟩

/-- Whether both coordinates are finite. -/
def isFinite (p : Position) : Bool := p.x.isFinite && p.y.isFinite

/-- The point moved by `dx` and `dy`. -/
def offset (p : Position) (dx dy : Float) : Position := ⟨p.x + dx, p.y + dy⟩

/-- Coordinates compared as numbers (`0.0` equals `-0.0`, a NaN equals nothing). -/
instance : BEq Position := ⟨fun a b => a.x == b.x && a.y == b.y⟩

end Position

/-- A node of the pipeline. -/
structure Node where
  name : String
  package : String
  position : Position
  selected : Bool := false
  deriving Inhabited

/-- A reference to a node: its name and package. -/
structure NodeRef where
  name : String
  package : String
  deriving DecidableEq, Repr, Inhabited

namespace Node

instance : BEq Node :=
  ⟨fun a b => a.name == b.name && a.package == b.package && a.position == b.position &&
    a.selected == b.selected⟩

/-- The reference to this node. -/
def ref (n : Node) : NodeRef := ⟨n.name, n.package⟩

/-- The payload form of a node. -/
def toJson (n : Node) : Json :=
  Json.mkObject [("name", .string n.name), ("package", .string n.package),
    ("x", Json.float n.position.x), ("y", Json.float n.position.y),
    ("selected", .bool n.selected)]

/-- The field names of a node's payload form. -/
def fieldNames : List String := ["name", "package", "selected", "x", "y"]

/-- Reads a node from its payload form. -/
def ofJson? (j : Json) : Option Node := do
  let fields ← Json.recordFields fieldNames true j
  let name ← fields.required "name" Json.asString
  let package ← fields.required "package" Json.asString
  let selected ← fields.withDefault "selected" Json.asBool false
  let x ← fields.required "x" Json.asFloat
  let y ← fields.required "y" Json.asFloat
  pure ⟨name, package, ⟨x, y⟩, selected⟩

end Node

end PipelineEditor
