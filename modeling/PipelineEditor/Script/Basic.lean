import PipelineEditor.Catalog.Structure
import PipelineEditor.Json.Decode

/-!
Decompiled scripts: a pipeline as a script decompiler describes it.

A script lists node calls (a node name, the class called, a position and parameter settings),
custom code blocks (user functions with their port and parameter names), and links from an
output variable of one node to an input variable of another. In the payload form the three
lists may be left out (they are then empty), as may a node's parameter settings and a block's
name lists; a parameter setting may carry a type tag.
-/

namespace PipelineEditor

namespace Script

/-- A parameter setting of a node call, with an optional type tag. -/
structure Param where
  key : String
  value : Json
  type : Option String := none
  deriving Inhabited

/-- A node call: the node's name, the class it instantiates, its position and its settings. -/
structure NodeCall where
  node : String
  clazz : String
  pos : List Float
  params : List Param := []
  deriving Inhabited

/-- A custom code block: a user function and the names of its ports and parameters. -/
structure CustomBlock where
  functionName : String
  clazz : String
  code : String
  inputs : List String := []
  outputs : List String := []
  params : List String := []
  deriving Inhabited

/-- A link from an output variable of one node to an input variable of another. -/
structure Link where
  fromNode : String
  fromVar : String
  toNode : String
  toVar : String
  deriving Inhabited

end Script

/-- A decompiled pipeline script. -/
structure DecompiledScript where
  nodes : List Script.NodeCall := []
  custom : List Script.CustomBlock := []
  edges : List Script.Link := []
  deriving Inhabited

namespace Script

/-- Reads a parameter setting. -/
def Param.ofJson? (j : Json) : Option Param := do
  let fields ← Json.recordFields ["key", "value", "type"] false j
  pure {
    key := ← fields.required "key" Json.asString
    value := ← fields.required "value" Json.asValue
    type := ← fields.optional "type" Json.asString }

/-- Reads a node call. -/
def NodeCall.ofJson? (j : Json) : Option NodeCall := do
  let fields ← Json.recordFields ["node", "clazz", "pos", "params"] false j
  pure {
    node := ← fields.required "node" Json.asString
    clazz := ← fields.required "clazz" Json.asString
    pos := ← fields.required "pos" (Json.asList Json.asFloat)
    params := ← fields.withDefault "params" (Json.asList Param.ofJson?) [] }

/-- Reads a custom code block. -/
def CustomBlock.ofJson? (j : Json) : Option CustomBlock := do
  let fields ← Json.recordFields
    ["function_name", "clazz", "code", "inputs", "outputs", "params"] false j
  pure {
    functionName := ← fields.required "function_name" Json.asString
    clazz := ← fields.required "clazz" Json.asString
    code := ← fields.required "code" Json.asString
    inputs := ← fields.withDefault "inputs" (Json.asList Json.asString) []
    outputs := ← fields.withDefault "outputs" (Json.asList Json.asString) []
    params := ← fields.withDefault "params" (Json.asList Json.asString) [] }

/-- Reads a link. -/
def Link.ofJson? (j : Json) : Option Link := do
  let fields ← Json.recordFields ["from_node", "from_var", "to_node", "to_var"] false j
  pure ⟨← fields.required "from_node" Json.asString, ← fields.required "from_var" Json.asString,
    ← fields.required "to_node" Json.asString, ← fields.required "to_var" Json.asString⟩

/-- The payload form of a parameter setting. -/
def Param.toJson (p : Param) : Json :=
  Json.mkObject [("key", .string p.key), ("value", p.value), ("type", Json.opt .string p.type)]

/-- The payload form of a node call. -/
def NodeCall.toJson (n : NodeCall) : Json :=
  Json.mkObject [("node", .string n.node), ("clazz", .string n.clazz),
    ("pos", .array (n.pos.map Json.float)), ("params", .array (n.params.map Param.toJson))]

/-- The payload form of a custom code block. -/
def CustomBlock.toJson (b : CustomBlock) : Json :=
  Json.mkObject [("function_name", .string b.functionName), ("clazz", .string b.clazz),
    ("code", .string b.code), ("inputs", .array (b.inputs.map .string)),
    ("outputs", .array (b.outputs.map .string)), ("params", .array (b.params.map .string))]

/-- The payload form of a link. -/
def Link.toJson (l : Link) : Json :=
  Json.mkObject [("from_node", .string l.fromNode), ("from_var", .string l.fromVar),
    ("to_node", .string l.toNode), ("to_var", .string l.toVar)]

/-- The library tag of the entries made for custom blocks. -/
def customLibrary : String := "Base"

/-- The kind tag of the entries made for custom blocks. -/
def customKind : String := "Custom"

/-- The description of the entries made for custom blocks. -/
def customDescription : String := "A Custom Node."

/-- The catalog entry of a custom block under a package: every port typed `custom`, every
parameter typed `any` with no default. -/
def CustomBlock.toStructure (b : CustomBlock) (package : String) : NodeStructure :=
  let ports := fun (names : List String) =>
    Table.ofList (names.map fun n => (n, PortType.mk PortType.customTag))
  { package, clazz := b.clazz, input := ports b.inputs, output := ports b.outputs,
    parameter := b.params.map fun n => { name := n, type := PortType.anyTag },
    methods := none, tags := ⟨customLibrary, customKind⟩, description := customDescription,
    custom := some ⟨b.functionName, b.code⟩ }

end Script

namespace DecompiledScript

/-- Reads a script from its payload form. -/
def ofJson? (j : Json) : Option DecompiledScript := do
  let fields ← Json.recordFields ["nodes", "custom", "edges"] false j
  pure {
    nodes := ← fields.withDefault "nodes" (Json.asList Script.NodeCall.ofJson?) []
    custom := ← fields.withDefault "custom" (Json.asList Script.CustomBlock.ofJson?) []
    edges := ← fields.withDefault "edges" (Json.asList Script.Link.ofJson?) [] }

/-- The payload form of a script. -/
def toJson (s : DecompiledScript) : Json :=
  Json.mkObject [("nodes", .array (s.nodes.map Script.NodeCall.toJson)),
    ("custom", .array (s.custom.map Script.CustomBlock.toJson)),
    ("edges", .array (s.edges.map Script.Link.toJson))]

end DecompiledScript

end PipelineEditor
