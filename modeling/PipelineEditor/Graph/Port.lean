import PipelineEditor.Json.Decode

/-!
Ports: the named inputs and outputs of a node, and the types written on them.

A port type is a tag. Two tags fit together when they are equal, or when either is exactly
`custom`; `any` is an ordinary tag that fits only `any` (and `custom`).
-/

namespace PipelineEditor

/-- Which side of a node a port is on. -/
inductive Direction where
  | input
  | output
  deriving DecidableEq, Repr, Inhabited

namespace Direction

/-- The other side. -/
def opposite : Direction → Direction
  | .input => .output
  | .output => .input

/-- The word for the side. -/
def name : Direction → String
  | .input => "input"
  | .output => "output"

/-- Reads a side from its word. -/
def ofName? : String → Option Direction
  | "input" => some .input
  | "output" => some .output
  | _ => none

@[simp] theorem opposite_opposite (d : Direction) : d.opposite.opposite = d := by
  cases d <;> rfl

end Direction

/-- The type tag written on a port. -/
structure PortType where
  tag : String
  deriving DecidableEq, Repr, Inhabited

namespace PortType

/-- The tag that fits every port. -/
def customTag : String := "custom"

/-- The tag of ports that take values of any type. -/
def anyTag : String := "any"

/-- The three kinds of tag. -/
inductive Kind where
  | custom
  | any
  | named
  deriving DecidableEq, Repr

/-- The kind of a tag: `custom` and `any` exactly, or a name. -/
def kind (t : PortType) : Kind :=
  if t.tag = customTag then .custom else if t.tag = anyTag then .any else .named

/-- Whether two port types may be joined by an edge. -/
def compatible (a b : PortType) : Bool :=
  a.tag == b.tag || a.tag == customTag || b.tag == customTag

theorem compatible_comm (a b : PortType) : a.compatible b = b.compatible a := by
  unfold compatible
  have swap : (b.tag == a.tag) = (a.tag == b.tag) := by
    rw [Bool.eq_iff_iff, beq_iff_eq, beq_iff_eq]
    exact ⟨Eq.symm, Eq.symm⟩
  rw [swap]
  cases (a.tag == b.tag) <;> cases (a.tag == customTag) <;> cases (b.tag == customTag) <;> rfl

end PortType

/-- A port of a node on one side. -/
structure PortRef where
  node : String
  port : String
  direction : Direction
  deriving DecidableEq, Repr, Inhabited

namespace PortRef

/-- The payload form `{"node", "port", "direction"}`. -/
def toJson (p : PortRef) : Json :=
  Json.mkObject [("node", .string p.node), ("port", .string p.port),
    ("direction", .string p.direction.name)]

end PortRef

end PipelineEditor
