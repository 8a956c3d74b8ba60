/-!
Reading decimal numbers.

Two readers with different rules. `readNumber?` reads the number texts of transforms and
positions: an optional sign, then `inf`, `infinity` or `nan` in any case, or digits with an
optional point and exponent, rounded to the nearest double. `scaleDecimal` is how payload numbers
become doubles: the significand, kept to 64 bits, is converted once and then multiplied or divided
by one correctly rounded power of ten, which is fast but not always the nearest double.
-/

namespace PipelineEditor.Decimal

/-- The value of a decimal digit. -/
def digitValue (c : Char) : Nat := c.toNat - '0'.toNat

/-- The digits at the front of a list of characters, and the rest. -/
def spanDigits (cs : List Char) : List Char × List Char :=
  (cs.takeWhile Char.isDigit, cs.dropWhile Char.isDigit)

/-- The number written by a list of decimal digits. -/
def digitsValue (ds : List Char) : Nat :=
  ds.foldl (fun acc c => acc * 10 + digitValue c) 0

/-- The double nearest to `mantissa * 10^exponent`; values far outside the range of doubles go
to zero or to infinity without building their powers of ten. -/
def nearestDouble (mantissa : Nat) (exponent : Int) : Float :=
  if mantissa = 0 then 0
  else
    let size : Int := (Nat.toDigits 10 mantissa).length
    if 310 < size + exponent then Float.ofScientific 1 false 400
    else if size + exponent < -330 then 0
    else if exponent < 0 then Float.ofScientific mantissa true exponent.natAbs
    else Float.ofScientific mantissa false exponent.toNat

/-- The exponent part `e±ddd` of a number text, without the `e`. -/
def readExponent? : List Char → Option Int
  | '+' :: rest => readDigits rest |>.map Int.ofNat
  | '-' :: rest => readDigits rest |>.map fun n => -(n : Int)
  | rest => readDigits rest |>.map Int.ofNat
where
  readDigits (cs : List Char) : Option Nat :=
    if !cs.isEmpty && cs.all Char.isDigit then some (digitsValue cs) else none

/-- An unsigned finite number text: digits, an optional point with digits, an optional
exponent; at least one digit before or after the point. -/
def readUnsigned? (cs : List Char) : Option Float :=
  let (whole, rest) := spanDigits cs
  let (fraction, rest) := match rest with
    | '.' :: more => spanDigits more
    | _ => ([], rest)
  if whole.isEmpty && fraction.isEmpty then none
  else
    let exponent? : Option Int := match rest with
      | [] => some 0
      | c :: more => if c = 'e' ∨ c = 'E' then readExponent? more else none
    exponent?.map fun exponent =>
      nearestDouble (digitsValue (whole ++ fraction)) (exponent - fraction.length)

/-- Lower-cases ASCII letters only. -/
def asciiLower (cs : List Char) : List Char := cs.map Char.toLower

/-- Reads a number text: an optional sign, then `inf`, `infinity` or `nan` in any case, or a
decimal with optional point and exponent, rounded to the nearest double. -/
def readNumber? (s : String) : Option Float :=
  let (negative, body) := match s.toList with
    | '-' :: rest => (true, rest)
    | '+' :: rest => (false, rest)
    | cs => (false, cs)
  let lower := asciiLower body
  let magnitude? :=
    if lower = "inf".toList ∨ lower = "infinity".toList then some (Float.ofScientific 1 false 400)
    else if lower = "nan".toList then some (0 / 0 : Float)
    else readUnsigned? body
  magnitude?.map fun m => if negative then -m else m

/-- The correctly rounded power `10^e`, for `e ≤ 308`. -/
def powerOfTen (e : Nat) : Float := Float.ofScientific 1 false e

/-- Scales a payload significand by a power of ten: the significand is converted once, then
multiplied or divided by one power of ten; a divisor beyond `10^308` is applied in steps of
`10^308`. A product that overflows, or a positive exponent beyond 308 with a non-zero
significand, has no value. -/
def scaleDecimal (significand : Nat) (exponent : Int) : Option Float :=
  go 4 (Float.ofNat significand) exponent
where
  go : Nat → Float → Int → Option Float
    | 0, f, _ => some f
    | fuel + 1, f, e =>
      if e.natAbs ≤ 308 then
        if 0 ≤ e then
          let product := f * powerOfTen e.toNat
          if product.isInf then none else some product
        else some (f / powerOfTen e.natAbs)
      else if f == 0 then some f
      else if 0 ≤ e then none
      else go fuel (f / powerOfTen 308) (e + 308)

end PipelineEditor.Decimal
