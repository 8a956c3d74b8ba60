import PipelineEditor.Url.Encode
import PipelineEditor.Url.Idna.Basic

/-!
Hosts of URLs.

The host of a special scheme is percent-decoded and brought to ASCII by the processing of
internationalized domain names (`Idna.toAscii`); it must not hold a forbidden character. When its last label is a number it is an IPv4 address: one to four parts, each
decimal, octal after a `0`, or hexadecimal after `0x`, the last filling the bytes the others
leave. A host in brackets is an IPv6 address, written back in its shortest form. The host of any
other scheme is kept as written, controls percent-encoded.
-/

namespace PipelineEditor

namespace Url

/-- The host of a URL. -/
inductive Host where
  /-- A domain name, in ASCII. -/
  | domain (name : String)
  /-- An IPv4 address, as a 32-bit number. -/
  | ipv4 (address : Nat)
  /-- An IPv6 address, as eight 16-bit pieces. -/
  | ipv6 (pieces : List Nat)
  /-- The host of a scheme that is not special, as written. -/
  | plain (text : String)
  deriving BEq, Inhabited, Repr

/-- Why a host is not one. -/
inductive HostError where
  | emptyHost
  | invalidDomainCharacter
  | invalidIpv4
  | invalidIpv6
  | invalidDomain
  deriving BEq, Inhabited, Repr

/-! ### IPv4 -/

/-- The value of digits in a base, if each is a digit of it. -/
def digitsValue? (base : Nat) (cs : List Char) : Option Nat :=
  cs.foldlM (fun acc c => match hexValue? c with
    | some d => if d < base then some (acc * base + d) else none
    | none => none) 0

/-- A part of an IPv4 address: decimal, octal after `0`, hexadecimal after `0x`. -/
def ipv4Number? (part : String) : Option Nat :=
  match part.toList with
  | [] => none
  | '0' :: 'x' :: rest | '0' :: 'X' :: rest => digitsValue? 16 rest
  | '0' :: rest@(_ :: _) => digitsValue? 8 rest
  | cs => digitsValue? 10 cs

/-- The labels of a host, without the empty label a final dot leaves. -/
def labels (host : String) : List String :=
  let parts := host.splitOn "."
  if parts.length > 1 && parts.getLast? == some "" then parts.dropLast else parts

/-- Whether a host ends in a number, and so must be an IPv4 address. -/
def endsInNumber (host : String) : Bool :=
  let parts := host.splitOn "."
  let parts := if parts.getLast? == some "" then
      (if parts.length == 1 then [] else parts.dropLast)
    else parts
  match parts.getLast? with
  | none => false
  | some last => (!last.isEmpty && last.all Char.isDigit) || (ipv4Number? last).isSome

/-- Reads an IPv4 address. -/
def parseIpv4 (host : String) : Except HostError Nat := do
  let parts := labels host
  if parts.length > 4 then throw .invalidIpv4
  let some numbers := parts.mapM ipv4Number? | throw .invalidIpv4
  let some last := numbers.getLast? | throw .invalidIpv4
  let earlier := numbers.dropLast
  if earlier.any (· > 255) then throw .invalidIpv4
  if last ≥ Nat.pow 256 (5 - numbers.length) then throw .invalidIpv4
  pure (earlier.zipIdx.foldl (fun acc (n, i) => acc + n * Nat.pow 256 (3 - i)) last)

/-- An IPv4 address in dotted decimal. -/
def ipv4Text (address : Nat) : String :=
  ".".intercalate ([3, 2, 1, 0].map fun i => toString (address / Nat.pow 256 i % 256))

/-! ### IPv6 -/

/-- A decimal part of an IPv4 address inside an IPv6 one: no leading zero, at most 255. -/
def embeddedPart? (part : String) : Option Nat :=
  match part.toList with
  | [] => none
  | ['0'] => some 0
  | '0' :: _ => none
  | cs => if cs.all Char.isDigit then
      let n := digitsValue? 10 cs
      n.bind fun v => if v ≤ 255 then some v else none
    else none

/-- The pieces of a run of IPv6 groups separated by single colons; the last group may be an
IPv4 address, which gives two pieces, when `last` is set. -/
def ipv6Pieces? (text : String) (last : Bool) : Option (List Nat) :=
  if text.isEmpty then some []
  else
    let groups := text.splitOn ":"
    let pieceOf := fun (g : String) =>
      if g.isEmpty || g.length > 4 then none else digitsValue? 16 g.toList
    match groups.getLast? with
    | none => some []
    | some final =>
      if last && final.contains '.' then do
        let front ← groups.dropLast.mapM pieceOf
        let parts := final.splitOn "."
        if parts.length != 4 then none
        let bytes ← parts.mapM embeddedPart?
        match bytes with
        | [a, b, c, d] => some (front ++ [a * 256 + b, c * 256 + d])
        | _ => none
      else groups.mapM pieceOf

/-- Reads an IPv6 address, without its brackets. -/
def parseIpv6 (text : String) : Except HostError (List Nat) :=
  match text.splitOn "::" with
  | [whole] =>
    match ipv6Pieces? whole true with
    | some pieces => if pieces.length == 8 then .ok pieces else .error .invalidIpv6
    | none => .error .invalidIpv6
  | [front, back] =>
    match ipv6Pieces? front false, ipv6Pieces? back true with
    | some a, some b =>
      if a.length + b.length ≤ 7 then .ok (a ++ List.replicate (8 - a.length - b.length) 0 ++ b)
      else .error .invalidIpv6
    | _, _ => .error .invalidIpv6
  | _ => .error .invalidIpv6

/-- A number in lower-case hexadecimal without leading zeros. -/
def hexText (n : Nat) : String :=
  String.ofList ((Nat.toDigits 16 n))

/-- The start and length of the first longest run of at least two zero pieces. -/
def longestZeroRun (pieces : List Nat) : Option (Nat × Nat) :=
  let step := fun (acc : Option (Nat × Nat) × Option (Nat × Nat)) (p : Nat × Nat) =>
    let (best, current) := acc
    let (piece, i) := p
    if piece == 0 then
      let current := match current with
        | some (start, len) => some (start, len + 1)
        | none => some (i, 1)
      let best := match best, current with
        | some (_, bestLen), some (_, len) => if len > bestLen then current else best
        | none, some (_, len) => if len ≥ 2 then current else none
        | b, none => b
      (best, current)
    else (best, none)
  let (best, _) := pieces.zipIdx.foldl step (none, none)
  best.bind fun (start, len) => if len ≥ 2 then some (start, len) else none

/-- An IPv6 address in its shortest form, without brackets. -/
def ipv6Text (pieces : List Nat) : String :=
  match longestZeroRun pieces with
  | none => ":".intercalate (pieces.map hexText)
  | some (start, len) =>
    ":".intercalate ((pieces.take start).map hexText) ++ "::" ++
      ":".intercalate ((pieces.drop (start + len)).map hexText)

/-! ### Domains -/

/-- The characters that no domain may hold. -/
def isForbiddenDomainChar (c : Char) : Bool :=
  c.toNat ≤ 0x20 || c.toNat == 0x7F || "#%/:<>?@[\\]^|".contains c

/-- The characters that no host of any scheme may hold. -/
def isForbiddenHostChar (c : Char) : Bool :=
  c.toNat == 0 || c == '\t' || c == '\n' || c == '\r' || " #/:<>?@[\\]^|".contains c

/-! ### Reading and writing hosts -/

/-- Reads the host of a special scheme. -/
def parseSpecialHost (text : String) : Except HostError Host := do
  if text.startsWith "[" then
    if text.endsWith "]" then
      return .ipv6 (← parseIpv6 (String.ofList (text.toList.drop 1).dropLast))
    else throw .invalidIpv6
  let some decoded := decode? text | throw .invalidDomain
  let some ascii := Idna.toAscii decoded | throw .invalidDomain
  if ascii.isEmpty then throw .emptyHost
  if ascii.any isForbiddenDomainChar then throw .invalidDomainCharacter
  if endsInNumber ascii then return .ipv4 (← parseIpv4 ascii)
  return .domain ascii

/-- Reads the host of a scheme that is not special. -/
def parsePlainHost (text : String) : Except HostError Host := do
  if text.startsWith "[" then
    if text.endsWith "]" then
      return .ipv6 (← parseIpv6 (String.ofList (text.toList.drop 1).dropLast))
    else throw .invalidIpv6
  if text.any isForbiddenHostChar then throw .invalidDomainCharacter
  return .plain (encode .controls text)

/-- A host as written in a URL. -/
def Host.text : Host → String
  | .domain name => name
  | .ipv4 address => ipv4Text address
  | .ipv6 pieces => "[" ++ ipv6Text pieces ++ "]"
  | .plain text => text

end Url

end PipelineEditor
