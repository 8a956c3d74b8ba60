import PipelineEditor.Graph.Port
import PipelineEditor.Catalog.ParamKind
import PipelineEditor.Json.Decode

/-!
Catalog entries: what a package of nodes declares.

An entry names its package and class, its input and output ports with their types, its
parameters, optional methods, two tags and a description; an entry that carries user code (a
function name and its code, both texts) is a custom entry. In the payload form, sections that are
`null` or absent are empty, and the user code is written flat into the entry's object, present
only when both of its fields are texts.
-/

namespace PipelineEditor

/-- A parameter a package declares. -/
structure NodeParameter where
  name : String
  type : String
  isMandatory : Bool := false
  description : String := ""
  defaultValue : Json := .null
  deriving Inhabited

/-- The library and the kind of node a package belongs to. -/
structure NodeTags where
  library : String := ""
  kind : String := ""
  deriving Inhabited, DecidableEq

/-- The user code of a custom package. -/
structure CustomCode where
  functionName : String
  code : String
  deriving Inhabited, DecidableEq

/-- A catalog entry. -/
structure NodeStructure where
  package : String
  clazz : String
  input : Table PortType := Table.empty
  output : Table PortType := Table.empty
  parameter : List NodeParameter := []
  methods : Option (List String) := none
  tags : NodeTags := {}
  description : String := ""
  custom : Option CustomCode := none
  deriving Inhabited

/-- The package whose parameter list the catalog keeps empty. -/
def customNodePackage : String := "rain.nodes.custom.custom.CustomNode"

namespace NodeParameter

instance : BEq NodeParameter :=
  ⟨fun a b => a.name == b.name && a.type == b.type && a.isMandatory == b.isMandatory &&
    a.description == b.description && a.defaultValue == b.defaultValue⟩

/-- What the parameter's type text declares. -/
def kind (p : NodeParameter) : ParamKind := ParamKind.classify p.type

/-- The payload form of a parameter. -/
def toJson (p : NodeParameter) : Json :=
  Json.mkObject [("name", .string p.name), ("type", .string p.type),
    ("is_mandatory", .bool p.isMandatory), ("description", .string p.description),
    ("default_value", p.defaultValue)]

/-- Reads a parameter from its payload form. -/
def ofJson? (j : Json) : Option NodeParameter := do
  let fields ← Json.recordFields ["name", "type", "is_mandatory", "description", "default_value"]
    false j
  pure {
    name := ← fields.required "name" Json.asString
    type := ← fields.required "type" Json.asString
    isMandatory := ← fields.withDefault "is_mandatory" Json.asBool false
    description := ← fields.nullDefault "description" Json.asString ""
    defaultValue := ← fields.withDefault "default_value" Json.asValue .null }

end NodeParameter

namespace NodeTags

/-- The payload form of the tags. -/
def toJson (t : NodeTags) : Json :=
  Json.mkObject [("library", .string t.library), ("type", .string t.kind)]

/-- Reads tags from their payload form. -/
def ofJson? (j : Json) : Option NodeTags := do
  let fields ← Json.recordFields ["library", "type"] false j
  pure {
    library := ← fields.nullDefault "library" Json.asString ""
    kind := ← fields.nullDefault "type" Json.asString "" }

end NodeTags

namespace NodeStructure

/-- The type of a port on one side. -/
def portType? (s : NodeStructure) (port : String) : Direction → Option PortType
  | .input => s.input.get? port
  | .output => s.output.get? port

/-- The ports on one side, by name. -/
def ports (s : NodeStructure) : Direction → Table PortType
  | .input => s.input
  | .output => s.output

/-- The first declared parameter of a name. -/
def parameter? (s : NodeStructure) (name : String) : Option NodeParameter :=
  s.parameter.find? fun p => p.name == name

/-- Whether the entry carries user code. -/
def isCustom (s : NodeStructure) : Bool := s.custom.isSome

/-- The text new node names start from: the class, or the last dot-separated part of the
package when the class is empty. -/
def baseName (s : NodeStructure) : String :=
  if s.clazz.isEmpty then String.ofList (s.package.toList.reverse.takeWhile (· != '.')).reverse
  else s.clazz

/-- A base name is spelled with characters of the class or of the package. -/
theorem mem_baseName {s : NodeStructure} {c : Char} (h : c ∈ s.baseName.toList) :
    c ∈ s.clazz.toList ∨ c ∈ s.package.toList := by
  unfold baseName at h
  split at h
  · rw [String.toList_ofList, List.mem_reverse] at h
    exact .inr (List.mem_reverse.mp ((List.takeWhile_sublist _).subset h))
  · exact .inl h

instance : BEq NodeStructure :=
  ⟨fun a b => a.package == b.package && a.clazz == b.clazz && a.input == b.input &&
    a.output == b.output && a.parameter == b.parameter && a.methods == b.methods &&
    a.tags == b.tags && a.description == b.description && a.custom == b.custom⟩

/-- A port table in payload form. -/
def portsJson (ports : Table PortType) : Json :=
  .object (ports.entries.map fun (name, t) => (name, .string t.tag))

/-- The payload form of an entry. -/
def toJson (s : NodeStructure) : Json :=
  Json.mkObject <|
    [("package", .string s.package), ("clazz", .string s.clazz), ("input", portsJson s.input),
      ("output", portsJson s.output), ("parameter", .array (s.parameter.map NodeParameter.toJson)),
      ("methods", Json.opt (fun ms => .array (ms.map .string)) s.methods),
      ("tags", s.tags.toJson), ("description", .string s.description)] ++
    match s.custom with
    | some c => [("function_name", .string c.functionName), ("code", .string c.code)]
    | none => []

/-- The field names of an entry's payload form, apart from the user code. -/
def fieldNames : List String :=
  ["package", "clazz", "input", "output", "parameter", "methods", "tags", "description"]

/-- Reads the user code from the members an entry does not name: both fields must be texts. -/
def customOfMembers? (members : List (String × Json)) : Option CustomCode := do
  let fields ← Json.objectFields ["function_name", "code"] members
  pure ⟨← fields.required "function_name" Json.asString, ← fields.required "code" Json.asString⟩

/-- A port type from its payload form. -/
def portTypeOfJson? (j : Json) : Option PortType := (Json.asString j).map PortType.mk

/-- Reads an entry from its payload form. -/
def ofJson? (j : Json) : Option NodeStructure := do
  let fields ← Json.recordFields fieldNames true j
  pure {
    package := ← fields.required "package" Json.asString
    clazz := ← fields.required "clazz" Json.asString
    input := ← fields.nullDefault "input" (Json.asTable portTypeOfJson?) Table.empty
    output := ← fields.nullDefault "output" (Json.asTable portTypeOfJson?) Table.empty
    parameter := ← fields.nullDefault "parameter" (Json.asList NodeParameter.ofJson?) []
    methods := ← fields.optional "methods" (Json.asList Json.asString)
    tags := ← fields.nullDefault "tags" NodeTags.ofJson? {}
    description := ← fields.nullDefault "description" Json.asString ""
    custom := customOfMembers? (Json.remainingMembers fieldNames j) }

end NodeStructure

end PipelineEditor
