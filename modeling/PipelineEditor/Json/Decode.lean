import PipelineEditor.Json.Basic
import PipelineEditor.Table

/-!
Reading typed records out of payload values.

The payload format's rules for records: a record is an object whose fields are found by name,
unknown names ignored and a known name written twice refused; a record without a flattened part
may also be written as the array of its fields in declaration order, where missing trailing
fields count as absent and extra items are refused. A field is required, has a default when
absent, or also takes its default when it is `null`. A map is an object whose later duplicate
key wins; a list is an array; a pair is an array of exactly two items. A free-form value is kept
in canonical form: object members sorted by key, the later of two duplicates kept.
-/

namespace PipelineEditor.Json

mutual
/-- The canonical form of a free-form value: every object's members sorted by key, the later of
two members with one key kept. -/
def canonical : Json → Json
  | .array items => .array (canonicalItems items)
  | .object fields => .object (canonicalFields fields [])
  | v => v

/-- The canonical form of each item. -/
def canonicalItems : List Json → List Json
  | [] => []
  | v :: rest => canonical v :: canonicalItems rest

/-- Inserts each member, in canonical form, into a sorted member list. -/
def canonicalFields : List (String × Json) → List (String × Json) → List (String × Json)
  | [], acc => acc
  | (k, v) :: rest, acc => canonicalFields rest (insertField k (canonical v) acc)
end

/-- Where the fields of a record are found: by name, `none` when absent. -/
abbrev Fields := String → Option Json

/-- The fields of a record written as an object: refused when a known name appears twice. -/
def objectFields (known : List String) (members : List (String × Json)) : Option Fields :=
  if known.any fun name => (members.filter fun m => m.1 = name).length > 1 then none
  else some fun name => if known.contains name then members.lookup name else none

/-- The fields of a record written as an array, in declaration order. -/
def arrayFields (known : List String) (items : List Json) : Option Fields :=
  if known.length < items.length then none
  else some fun name => (known.idxOf? name).bind fun i => items[i]?

/-- The fields of a record with the given field names; `flattened` records have a part taken
from the remaining members and can only be written as objects. -/
def recordFields (known : List String) (flattened : Bool) : Json → Option Fields
  | .object members => objectFields known members
  | .array items => if flattened then none else arrayFields known items
  | _ => none

/-- The members of an object whose names are not among the given ones. -/
def remainingMembers (known : List String) : Json → List (String × Json)
  | .object members => members.filter fun m => !known.contains m.1
  | _ => []

/-- A text. -/
def asString : Json → Option String
  | .string s => some s
  | _ => none

/-- A truth value. -/
def asBool : Json → Option Bool
  | .bool b => some b
  | _ => none

/-- Any number, as a double. -/
def asFloat : Json → Option Float
  | .number (.unsigned n) => some (Float.ofNat n)
  | .number (.negative n) => some (-(Float.ofNat n))
  | .number (.double f) => some f
  | _ => none

/-- A list of items read one by one. -/
def asList {α : Type} (item : Json → Option α) : Json → Option (List α)
  | .array items => items.mapM item
  | _ => none

/-- A map from texts; of two members with one key the later wins. -/
def asTable {α : Type} (item : Json → Option α) : Json → Option (Table α)
  | .object members =>
    (members.mapM fun m => (item m.2).map fun v => (m.1, v)).map Table.ofList
  | _ => none

/-- A pair written as an array of exactly two items. -/
def asPair {α β : Type} (first : Json → Option α) (second : Json → Option β) :
    Json → Option (α × β)
  | .array [a, b] => do pure (← first a, ← second b)
  | _ => none

/-- A free-form value, in canonical form. -/
def asValue (j : Json) : Option Json := some (canonical j)

/-- A required field. -/
def Fields.required {α : Type} (fields : Fields) (name : String) (read : Json → Option α) :
    Option α :=
  (fields name).bind read

/-- A field that takes a default when absent. -/
def Fields.withDefault {α : Type} (fields : Fields) (name : String) (read : Json → Option α)
    (default : α) : Option α :=
  match fields name with
  | none => some default
  | some j => read j

/-- A field that takes a default when absent or `null`. -/
def Fields.nullDefault {α : Type} (fields : Fields) (name : String) (read : Json → Option α)
    (default : α) : Option α :=
  match fields name with
  | none => some default
  | some .null => some default
  | some j => read j

/-- An optional field: absent or `null` is `none`. -/
def Fields.optional {α : Type} (fields : Fields) (name : String) (read : Json → Option α) :
    Option (Option α) :=
  match fields name with
  | none => some none
  | some .null => some none
  | some j => (read j).map some

end PipelineEditor.Json
