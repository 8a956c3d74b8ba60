/-!
Payload values.

A payload is JSON. Its numbers keep the distinction the payload format makes: an integer that fits
in 64 unsigned bits, a negative integer that fits in 64 signed bits, or a double. An object is
its list of members: values the library builds hold each key once in ascending key order, and
values read from text hold the members as written until they are brought to canonical form.
-/

namespace PipelineEditor

/-- A payload number. -/
inductive JsonNumber where
  /-- A non-negative integer below `2^64`. -/
  | unsigned (n : Nat)
  /-- The negative integer `-n`, for `0 < n ≤ 2^63`. -/
  | negative (n : Nat)
  /-- Any other number, and every number written with a point or an exponent. -/
  | double (f : Float)
  deriving BEq, Inhabited

/-- A payload value. -/
inductive Json where
  | null
  | bool (b : Bool)
  | number (n : JsonNumber)
  | string (s : String)
  | array (items : List Json)
  | object (fields : List (String × Json))
  deriving Inhabited

namespace Json

mutual
/-- Structural equality, numbers compared as numbers of the same kind (a double `0.0` equals
`-0.0`, an integer never equals a double). -/
def beq : Json → Json → Bool
  | .null, .null => true
  | .bool a, .bool b => a == b
  | .number a, .number b => a == b
  | .string a, .string b => a == b
  | .array as, .array bs => beqItems as bs
  | .object as, .object bs => beqFields as bs
  | _, _ => false

/-- Equality of two lists of values, item by item. -/
def beqItems : List Json → List Json → Bool
  | [], [] => true
  | a :: as, b :: bs => beq a b && beqItems as bs
  | _, _ => false

/-- Equality of two member lists, member by member. -/
def beqFields : List (String × Json) → List (String × Json) → Bool
  | [], [] => true
  | (k, a) :: as, (l, b) :: bs => k == l && beq a b && beqFields as bs
  | _, _ => false
end

instance : BEq Json := ⟨beq⟩

/-- Inserts a member into a member list in ascending key order; an existing member of that key
is replaced. -/
def insertField (key : String) (value : Json) : List (String × Json) → List (String × Json)
  | [] => [(key, value)]
  | (k, v) :: rest =>
    if key < k then (key, value) :: (k, v) :: rest
    else if key = k then (key, value) :: rest
    else (k, v) :: insertField key value rest

/-- An object from members in any order; of two members with one key the later wins. -/
def mkObject (members : List (String × Json)) : Json :=
  .object (members.foldl (fun acc (k, v) => insertField k v acc) [])

/-- The member of an object with the given key. -/
def field? : Json → String → Option Json
  | .object fields, key => fields.lookup key
  | _, _ => none

/-- A text value. -/
def str (s : String) : Json := .string s

/-- A natural-number value. -/
def nat (n : Nat) : Json := .number (.unsigned n)

/-- A double value. -/
def float (f : Float) : Json := .number (.double f)

/-- An optional value, `null` when absent. -/
def opt {α : Type} (f : α → Json) : Option α → Json
  | some a => f a
  | none => .null

/-- Whether the value is `null`. -/
def isNull : Json → Bool
  | .null => true
  | _ => false

end Json

end PipelineEditor
