/-!
The shortest decimal of a double.

A finite double is `m * 2^q`. Every real strictly inside the halfway points to its two neighbours
reads back as that double, and so do the halfway points themselves when `m` is even (ties go to the
even significand). `Binary.shortest` looks on the decimal grids with 1, 2, ... 17 significant
digits for a point of that interval, in exact natural-number arithmetic: the first grid that has
one wins, of two candidates the nearer, and of two equally near the larger.
-/

namespace PipelineEditor.Decimal

/-- A finite double taken apart: its value is `(-1)^negative * significand * 2^exponent`. -/
structure Binary where
  negative : Bool
  significand : Nat
  exponent : Int
  /-- The next double below is half as far away as the next one above (a power of two). -/
  lowerCloser : Bool
  deriving Repr

/-- The three kinds of double. -/
inductive Kind where
  | finite (b : Binary)
  | infinite (negative : Bool)
  | nan

/-- Takes the bits of a double apart. -/
def Kind.ofFloat (f : Float) : Kind :=
  let bits := f.toBits.toNat
  let fraction : Nat := bits % Nat.pow 2 52
  let biased : Nat := (bits / Nat.pow 2 52) % Nat.pow 2 11
  let negative := decide (bits / Nat.pow 2 63 = 1)
  if biased = 2047 then
    if fraction = 0 then .infinite negative else .nan
  else if biased = 0 then
    .finite ⟨negative, fraction, -1074, false⟩
  else
    .finite ⟨negative, fraction + Nat.pow 2 52, (biased : Int) - 1075, decide (fraction = 0 ∧ 1 < biased)⟩

/-- A decimal number `digits * 10^exponent`. -/
structure Scientific where
  digits : Nat
  exponent : Int
  deriving Repr, BEq

/-- `a * 2^p` compared with `b * 10^t`, exactly. -/
def compareScaled (a : Nat) (p : Int) (b : Nat) (t : Int) : Ordering :=
  let lhs := a * Nat.pow 2 p.toNat * Nat.pow 10 (-t).toNat
  let rhs := b * Nat.pow 10 t.toNat * Nat.pow 2 (-p).toNat
  compare lhs rhs

/-- The largest `e` with `10^e ≤ a * 2^p`, for a positive `a`, from an estimate off by at most
`fuel`. -/
def floorLog10From (a : Nat) (p : Int) : Nat → Int → Int
  | 0, e => e
  | fuel + 1, e =>
    if compareScaled a p 1 e == .lt then floorLog10From a p fuel (e - 1)
    else if compareScaled a p 1 (e + 1) != .lt then floorLog10From a p fuel (e + 1)
    else e

/-- The largest `e` with `10^e ≤ a * 2^p`, for a positive `a`. -/
def floorLog10 (a : Nat) (p : Int) : Int :=
  let bits : Int := (a.log2 : Int) + p
  floorLog10From a p 4 ((bits * 30103) / 100000)

/-- Removes trailing zero digits, raising the exponent to match. -/
def Scientific.normalize : Nat → Scientific → Scientific
  | 0, s => s
  | fuel + 1, s =>
    if s.digits ≠ 0 ∧ s.digits % 10 = 0 then
      Scientific.normalize fuel ⟨s.digits / 10, s.exponent + 1⟩
    else s

/-- The interval of reals that read back as the double `m * 2^q`, in units of `2^(q-2)`:
its ends and whether they belong to it. -/
structure RoundingInterval where
  low : Nat
  high : Nat
  unit : Int
  closed : Bool

/-- The reals that read back as a finite double. -/
def Binary.interval (b : Binary) : RoundingInterval :=
  ⟨4 * b.significand - (if b.lowerCloser then 1 else 2), 4 * b.significand + 2, b.exponent - 2,
    b.significand % 2 == 0⟩

/-- Whether `d * 10^k` reads back as the double. -/
def RoundingInterval.contains (r : RoundingInterval) (d : Nat) (k : Int) : Bool :=
  let aboveLow := compareScaled r.low r.unit d k
  let belowHigh := compareScaled r.high r.unit d k
  (aboveLow == .lt || (r.closed && aboveLow == .eq)) &&
    (belowHigh == .gt || (r.closed && belowHigh == .eq))

/-- The point of the grid with `n` significant digits next below the double, its exponent, and
whether it is the double itself. -/
def Binary.gridBelow (b : Binary) (e10 : Int) (n : Nat) : Nat × Int × Bool :=
  let k := e10 - n + 1
  let q := b.exponent - 2
  let num := 4 * b.significand * Nat.pow 2 q.toNat * Nat.pow 10 (-k).toNat
  let den := Nat.pow 10 k.toNat * Nat.pow 2 (-q).toNat
  (num / den, k, num % den == 0)

/-- Of the two grid points `lower * 10^k` and `(lower + 1) * 10^k` around the double, the nearer;
of two equally near, the larger. -/
def Binary.nearer (b : Binary) (lower : Nat) (k : Int) : Scientific :=
  -- twice the value against the midpoint of the two points
  if compareScaled (8 * b.significand) (b.exponent - 2) (2 * lower + 1) k == .lt then
    ⟨lower, k⟩
  else ⟨lower + 1, k⟩

/-- The point of the grid with `n` significant digits that reads back as the double, if there
is one. -/
def Binary.candidate (b : Binary) (e10 : Int) (n : Nat) : Option Scientific :=
  let (lower, k, exact) := b.gridBelow e10 n
  if exact then some ⟨lower, k⟩
  else
    let r := b.interval
    match r.contains lower k, r.contains (lower + 1) k with
    | true, true => some (b.nearer lower k)
    | true, false => some ⟨lower, k⟩
    | false, true => some ⟨lower + 1, k⟩
    | false, false => none

/-- The first grid, from `n` significant digits up, that meets the interval; after `fuel` more
grids, the nearest point of the last one. -/
def Binary.search (b : Binary) (e10 : Int) : Nat → Nat → Scientific
  | 0, n =>
    let (lower, k, _) := b.gridBelow e10 n
    (b.candidate e10 n).getD (b.nearer lower k)
  | fuel + 1, n =>
    match b.candidate e10 n with
    | some s => s
    | none => b.search e10 fuel (n + 1)

/-- The shortest decimal that reads back as a positive finite double, the nearest of those, and
of two equally near the larger; zero is `0 * 10^0`. -/
def Binary.shortest (b : Binary) : Scientific :=
  if b.significand = 0 then ⟨0, 0⟩
  else (b.search (floorLog10 b.significand b.exponent) 16 1).normalize 17

end PipelineEditor.Decimal
