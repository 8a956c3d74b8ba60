import PipelineEditor.Json.Basic
import PipelineEditor.Decimal.Read

/-!
Reading payload text.

The grammar is JSON's. Containers nest at most 127 deep; a string may hold any character from
U+0020 up and the escapes `\" \\ \/ \b \f \n \r \t \uXXXX`, where a surrogate escape must be a
high one followed by a low one. A number keeps at most 64 bits of significand digits: an integer
that fits stays an integer, anything else becomes a double through `Decimal.scaleDecimal`, and a
number beyond the doubles is refused. Object members are kept as written, in order and with any
repeated key, since a record refuses a repeated field while a map keeps the later member.
-/

namespace PipelineEditor.Json

/-- Why a payload text could not be read. -/
inductive ReadError where
  /-- The text breaks the grammar. -/
  | malformed
  /-- Containers nest deeper than the limit. -/
  | tooDeep
  /-- A number lies beyond the doubles. -/
  | outOfRange
  /-- Something other than blank space follows the value. -/
  | trailing
  deriving BEq, Repr

/-- Blank space between tokens: space, tab, line feed and carriage return. -/
def isSpace (c : Char) : Bool := c = ' ' || c = '\t' || c = '\n' || c = '\r'

/-- Drops the blank space at the front. -/
def skipSpace (cs : List Char) : List Char := cs.dropWhile isSpace

/-- The value of a hexadecimal digit. -/
def hexValue? (c : Char) : Option Nat :=
  if '0' ≤ c ∧ c ≤ '9' then some (c.toNat - '0'.toNat)
  else if 'a' ≤ c ∧ c ≤ 'f' then some (c.toNat - 'a'.toNat + 10)
  else if 'A' ≤ c ∧ c ≤ 'F' then some (c.toNat - 'A'.toNat + 10)
  else none

/-- The number written by four hexadecimal digits. -/
def hex4? (a b c d : Char) : Option Nat := do
  let a ← hexValue? a
  let b ← hexValue? b
  let c ← hexValue? c
  let d ← hexValue? d
  pure (((a * 16 + b) * 16 + c) * 16 + d)

/-- The character a one-letter escape stands for. -/
def escaped? : Char → Option Char
  | '"' => some '"'
  | '\\' => some '\\'
  | '/' => some '/'
  | 'b' => some '\x08'
  | 'f' => some '\x0c'
  | 'n' => some '\n'
  | 'r' => some '\r'
  | 't' => some '\t'
  | _ => none

/-- Whether a code unit is a high (leading) surrogate. -/
def isHighSurrogate (n : Nat) : Bool := 0xD800 ≤ n && n ≤ 0xDBFF

/-- Whether a code unit is a low (trailing) surrogate. -/
def isLowSurrogate (n : Nat) : Bool := 0xDC00 ≤ n && n ≤ 0xDFFF

/-- The code point of a surrogate pair. -/
def surrogatePair (high low : Nat) : Nat := (high - 0xD800) * 0x400 + (low - 0xDC00) + 0x10000

/-- Reads the rest of a string after its opening quote; `acc` holds the characters read so far,
last first. -/
def readStringBody : List Char → List Char → Except ReadError (String × List Char)
  | [], _ => .error .malformed
  | '"' :: rest, acc => .ok (String.ofList acc.reverse, rest)
  | '\\' :: 'u' :: a :: b :: c :: d :: rest, acc =>
    match hex4? a b c d with
    | none => .error .malformed
    | some n =>
      if isLowSurrogate n then .error .malformed
      else if isHighSurrogate n then
        match rest with
        | '\\' :: 'u' :: e :: f :: g :: h :: more =>
          match hex4? e f g h with
          | some m =>
            if isLowSurrogate m then readStringBody more (Char.ofNat (surrogatePair n m) :: acc)
            else .error .malformed
          | none => .error .malformed
        | _ => .error .malformed
      else readStringBody rest (Char.ofNat n :: acc)
  | '\\' :: e :: rest, acc =>
    match escaped? e with
    | some c => readStringBody rest (c :: acc)
    | none => .error .malformed
  | c :: rest, acc =>
    if c.toNat < 0x20 then .error .malformed else readStringBody rest (c :: acc)

/-- The largest significand a payload number keeps. -/
def significandLimit : Nat := Nat.pow 2 64 - 1

/-- Whether one more digit still fits in the significand. -/
def fitsDigit (significand digit : Nat) : Bool :=
  significand < significandLimit / 10 ||
    (significand == significandLimit / 10 && digit ≤ significandLimit % 10)

/-- Takes digits into the significand while they fit: the new significand, how many digits were
taken, and the rest. -/
def takeDigits : List Char → Nat → Nat → Nat × Nat × List Char
  | c :: rest, significand, count =>
    if c.isDigit && fitsDigit significand (Decimal.digitValue c) then
      takeDigits rest (significand * 10 + Decimal.digitValue c) (count + 1)
    else (significand, count, c :: rest)
  | [], significand, count => (significand, count, [])

/-- The largest exponent a payload number may carry. -/
def exponentLimit : Int := Int.pow 2 31 - 1

/-- Clamps an exponent to the 32-bit range. -/
def clampExponent (e : Int) : Int := max (-(Int.pow 2 31)) (min exponentLimit e)

/-- Reads exponent digits: `some` the exponent, or `none` when it grows beyond the limit. -/
def takeExponent : List Char → Int → Option Int × List Char
  | c :: rest, e =>
    if c.isDigit then
      let d : Int := Decimal.digitValue c
      if e > exponentLimit / 10 || (e == exponentLimit / 10 && d > exponentLimit % 10) then
        (none, (rest.dropWhile Char.isDigit))
      else takeExponent rest (e * 10 + d)
    else (some e, c :: rest)
  | [], e => (some e, [])

/-- The double of a number with a point, an exponent or too many digits. -/
def scaled (negative : Bool) (significand : Nat) (exponent : Int) : Except ReadError Float :=
  match Decimal.scaleDecimal significand exponent with
  | some f => .ok (if negative then -f else f)
  | none => .error .outOfRange

/-- Reads an optional exponent part after the significand digits. -/
def readExponentPart (negative : Bool) (significand : Nat) (exponent : Int) :
    List Char → Except ReadError (Float × List Char)
  | c :: rest =>
    if c = 'e' ∨ c = 'E' then
      let (positive, digits) := match rest with
        | '+' :: more => (true, more)
        | '-' :: more => (false, more)
        | more => (true, more)
      match digits with
      | d :: _ =>
        if !d.isDigit then .error .malformed
        else
          match takeExponent digits 0 with
          | (some e, after) =>
            let total := clampExponent (if positive then exponent + e else exponent - e)
            (scaled negative significand total).map (·, after)
          | (none, after) =>
            if significand ≠ 0 ∧ positive then .error .outOfRange
            else .ok (if negative then -0 else 0, after)
      | [] => .error .malformed
    else (scaled negative significand exponent).map (·, c :: rest)
  | [] => (scaled negative significand exponent).map (·, [])

/-- Reads an optional fraction and exponent after the integer digits. -/
def readFraction (negative : Bool) (significand : Nat) (exponent : Int) :
    List Char → Except ReadError (Float × List Char)
  | '.' :: rest =>
    match rest with
    | d :: _ =>
      if !d.isDigit then .error .malformed
      else
        let (significand, count, after) := takeDigits rest significand 0
        readExponentPart negative significand (exponent - count) (after.dropWhile Char.isDigit)
    | [] => .error .malformed
  | rest => readExponentPart negative significand exponent rest

/-- An integer without point or exponent, as the payload keeps it. -/
def integerNumber (negative : Bool) (significand : Nat) : JsonNumber :=
  if !negative then .unsigned significand
  else if significand = 0 then .double (-0)
  else if significand ≤ Nat.pow 2 63 then .negative significand
  else .double (-(Float.ofNat significand))

/-- Reads a number. -/
def readNumber (cs : List Char) : Except ReadError (JsonNumber × List Char) :=
  let (negative, body) := match cs with
    | '-' :: rest => (true, rest)
    | rest => (false, rest)
  match body with
  | '0' :: rest =>
    match rest with
    | d :: _ =>
      if d.isDigit then .error .malformed
      else finish negative 0 rest
    | [] => finish negative 0 rest
  | d :: _ =>
    if !d.isDigit then .error .malformed
    else
      let (significand, _, rest) := takeDigits body 0 0
      let extra := rest.takeWhile Char.isDigit
      if extra.isEmpty then finish negative significand rest
      else
        (readFraction negative significand extra.length (rest.drop extra.length)).map
          fun (f, after) => (.double f, after)
  | [] => .error .malformed
where
  finish (negative : Bool) (significand : Nat) (rest : List Char) :
      Except ReadError (JsonNumber × List Char) :=
    match rest with
    | c :: _ =>
      if c = '.' ∨ c = 'e' ∨ c = 'E' then
        (readFraction negative significand 0 rest).map fun (f, after) => (.double f, after)
      else .ok (integerNumber negative significand, rest)
    | [] => .ok (integerNumber negative significand, [])

/-- Reads the items of an array after its opening bracket, with `item` reading one value. -/
def readItems (item : List Char → Except ReadError (Json × List Char)) (cs : List Char) :
    Except ReadError (Json × List Char) :=
  match skipSpace cs with
  | ']' :: rest => .ok (.array [], rest)
  | _ => loop (cs.length + 1) cs []
where
  loop : Nat → List Char → List Json → Except ReadError (Json × List Char)
    | 0, _, _ => .error .malformed
    | fuel + 1, cs, acc => do
      let (v, rest) ← item cs
      match skipSpace rest with
      | ',' :: more => loop fuel more (v :: acc)
      | ']' :: more => .ok (.array (v :: acc).reverse, more)
      | _ => .error .malformed

/-- Reads the members of an object after its opening brace, with `item` reading one value;
the members are kept in the order written, a key written twice included. -/
def readMembers (item : List Char → Except ReadError (Json × List Char)) (cs : List Char) :
    Except ReadError (Json × List Char) :=
  match skipSpace cs with
  | '}' :: rest => .ok (.object [], rest)
  | _ => loop (cs.length + 1) cs []
where
  loop : Nat → List Char → List (String × Json) → Except ReadError (Json × List Char)
    | 0, _, _ => .error .malformed
    | fuel + 1, cs, acc =>
      match skipSpace cs with
      | '"' :: rest => do
        let (key, rest) ← readStringBody rest []
        match skipSpace rest with
        | ':' :: rest => do
          let (v, rest) ← item rest
          let acc := (key, v) :: acc
          match skipSpace rest with
          | ',' :: more => loop fuel more acc
          | '}' :: more => .ok (.object acc.reverse, more)
          | _ => .error .malformed
        | _ => .error .malformed
      | _ => .error .malformed

/-- Reads one value, with containers allowed to nest `depth` more levels. -/
def readValue : Nat → List Char → Except ReadError (Json × List Char)
  | depth, cs =>
    match skipSpace cs with
    | 'n' :: 'u' :: 'l' :: 'l' :: rest => .ok (.null, rest)
    | 't' :: 'r' :: 'u' :: 'e' :: rest => .ok (.bool true, rest)
    | 'f' :: 'a' :: 'l' :: 's' :: 'e' :: rest => .ok (.bool false, rest)
    | '"' :: rest => (readStringBody rest []).map fun (s, r) => (.string s, r)
    | '[' :: rest =>
      match depth with
      | 0 => .error .tooDeep
      | d + 1 => readItems (readValue d) rest
    | '{' :: rest =>
      match depth with
      | 0 => .error .tooDeep
      | d + 1 => readMembers (readValue d) rest
    | other => (readNumber other).map fun (n, r) => (.number n, r)

/-- How many containers may nest in a payload. -/
def nestingLimit : Nat := 127

/-- Reads a whole payload text: one value, with only blank space after it. -/
def parse (s : String) : Except ReadError Json := do
  let (v, rest) ← readValue nestingLimit s.toList
  if (skipSpace rest).isEmpty then pure v else throw .trailing

end PipelineEditor.Json
