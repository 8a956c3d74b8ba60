/-!
Percent-encoding of URL parts.

A character of a URL part is kept when it is ASCII and outside the part's encode set, and is
otherwise written as its UTF-8 bytes, each `%` and two capital hexadecimal digits. Every set holds
the C0 controls and DEL; the fragment set adds the space, `"`, `<`, `>` and the backquote; the
path set adds `#`, `?`, `{` and `}` to that; the query set holds the controls, the space, `"`,
`#`, `<` and `>`, and the query of a special scheme also `'`; the userinfo set adds
`/ : ; = @ [ \ ] ^ |` to the path set. A `%` is never encoded.
-/

namespace PipelineEditor

namespace Url

/-- Which characters of a URL part are percent-encoded. -/
inductive EncodeSet where
  /-- Only controls: unstructured paths and hosts of other schemes. -/
  | controls
  /-- Fragments. -/
  | fragment
  /-- Paths. -/
  | path
  /-- Queries of other schemes. -/
  | query
  /-- Queries of special schemes. -/
  | specialQuery
  /-- User names and passwords. -/
  | userinfo
  deriving BEq, Inhabited

/-- Whether an ASCII character is encoded in a set. -/
def EncodeSet.contains (set : EncodeSet) (c : Char) : Bool :=
  let control := c.toNat < 0x20 || c.toNat == 0x7F
  let fragment := control || " \"<>`".contains c
  let path := fragment || "#?{}".contains c
  let query := control || " \"#<>".contains c
  match set with
  | .controls => control
  | .fragment => fragment
  | .path => path
  | .query => query
  | .specialQuery => query || c == '\''
  | .userinfo => path || "/:;=@[\\]^|".contains c

/-- A capital hexadecimal digit. -/
def hexDigit (n : Nat) : Char :=
  if n < 10 then Char.ofNat (48 + n) else Char.ofNat (55 + n)

/-- A byte as `%` and two capital hexadecimal digits. -/
def byteEscape (b : UInt8) : String :=
  String.ofList ['%', hexDigit (b.toNat / 16), hexDigit (b.toNat % 16)]

/-- A character as it stands in a URL part. -/
def encodeChar (set : EncodeSet) (c : Char) : String :=
  if c.toNat < 0x80 && !set.contains c then c.toString
  else String.join (c.toString.toUTF8.toList.map byteEscape)

/-- A text as it stands in a URL part. -/
def encode (set : EncodeSet) (text : String) : String :=
  String.join (text.toList.map (encodeChar set))

/-- The value of a hexadecimal digit. -/
def hexValue? (c : Char) : Option Nat :=
  if '0' ≤ c && c ≤ '9' then some (c.toNat - '0'.toNat)
  else if 'a' ≤ c && c ≤ 'f' then some (c.toNat - 'a'.toNat + 10)
  else if 'A' ≤ c && c ≤ 'F' then some (c.toNat - 'A'.toNat + 10)
  else none

/-- The bytes of a text with its `%XX` escapes decoded; a `%` without two hexadecimal digits
stays. -/
def decodeBytes : List Char → List UInt8
  | '%' :: a :: b :: rest =>
    match hexValue? a, hexValue? b with
    | some x, some y => (x * 16 + y).toUInt8 :: decodeBytes rest
    | _, _ => '%'.toNat.toUInt8 :: decodeBytes (a :: b :: rest)
  | c :: rest => c.toString.toUTF8.toList ++ decodeBytes rest
  | [] => []

/-- A text with its `%XX` escapes decoded, if the bytes are UTF-8. -/
def decode? (text : String) : Option String :=
  String.fromUTF8? (ByteArray.mk (decodeBytes text.toList).toArray)

end Url

end PipelineEditor
