import PipelineEditor.Decimal.Shortest

/-!
Writing a double as text: the shortest digits of `Decimal.Shortest`, laid out by a `Layout`.

`Layout.plain` is the form of numbers inside messages and transform texts: always positional,
no `.0`, `inf` and `NaN`. `Layout.json` is the form of numbers in payloads: positional between
`1e-5` and `1e16` with a fraction always shown, an exponent outside that range.
-/

namespace PipelineEditor.Decimal

/-- The decisions of one number format. The value is written as `0.ddd × 10^point`. -/
structure Layout where
  /-- The least point position written without an exponent, if there is one. -/
  lowestPoint : Option Int
  /-- The largest point position written without an exponent, if there is one. -/
  highestPoint : Option Int
  /-- Written after an integral value in positional form. -/
  integralSuffix : String
  infinity : String
  /-- Whether a negative infinity carries a minus sign. -/
  signedInfinity : Bool
  nan : String

/-- Numbers in messages and transform texts: always positional, `-0` keeps its sign. -/
def Layout.plain : Layout := ⟨none, none, "", "inf", true, "NaN"⟩

/-- Numbers in payloads: positional for `-5 < point ≤ 16` with a fraction always shown, else
`d.ddde±x`. Non-finite values have no payload form and are written as `null`. -/
def Layout.json : Layout := ⟨some (-4), some 16, ".0", "null", false, "null"⟩

/-- `n` zero characters. -/
def zeros (n : Nat) : String := String.ofList (List.replicate n '0')

/-- The decimal digits of a natural number. -/
def natDigits (n : Nat) : String := String.ofList (Nat.toDigits 10 n)

theorem natDigits_isDigit (n : Nat) : ∀ c ∈ (natDigits n).toList, c.isDigit = true := by
  intro c hc
  rw [natDigits, String.toList_ofList] at hc
  exact Nat.isDigit_of_mem_toDigits (by decide) (by decide) hc

theorem zeros_isDigit (n : Nat) : ∀ c ∈ (zeros n).toList, c.isDigit = true := by
  intro c hc
  rw [zeros, String.toList_ofList] at hc
  rw [List.eq_of_mem_replicate hc]
  rfl

/-- The text of a signed integer exponent: a minus sign when negative, no plus sign. -/
def intText (i : Int) : String :=
  if i < 0 then "-" ++ natDigits i.natAbs else natDigits i.natAbs

/-- Whether a point position is written without an exponent. -/
def Layout.positional (l : Layout) (point : Int) : Bool :=
  (l.lowestPoint.all fun low => decide (low ≤ point)) &&
    (l.highestPoint.all fun high => decide (point ≤ high))

theorem positional_plain (point : Int) : Layout.plain.positional point = true := rfl

/-- The digits `ds` of a value `0.ds × 10^point`, without a sign. -/
def Layout.body (l : Layout) (ds : String) (point : Int) : String :=
  let n : Int := ds.length
  if l.positional point then
    if point ≤ 0 then "0." ++ zeros (-point).toNat ++ ds
    else if point < n then
      String.ofList (ds.toList.take point.toNat) ++ "." ++ String.ofList (ds.toList.drop point.toNat)
    else ds ++ zeros (point - n).toNat ++ l.integralSuffix
  else
    let mantissa :=
      if ds.length = 1 then ds
      else String.ofList (ds.toList.take 1) ++ "." ++ String.ofList (ds.toList.drop 1)
    mantissa ++ "e" ++ intText (point - 1)

/-- Writes a double in this layout. -/
def Layout.write (l : Layout) (f : Float) : String :=
  match Kind.ofFloat f with
  | .nan => l.nan
  | .infinite negative => (if negative && l.signedInfinity then "-" else "") ++ l.infinity
  | .finite b =>
    let sign := if b.negative then "-" else ""
    if b.significand = 0 then sign ++ "0" ++ l.integralSuffix
    else
      let s := b.shortest
      let ds := natDigits s.digits
      sign ++ l.body ds (s.exponent + ds.length)

/-- A double as it appears in messages and transform texts. -/
def plainText (f : Float) : String := Layout.plain.write f

end PipelineEditor.Decimal
