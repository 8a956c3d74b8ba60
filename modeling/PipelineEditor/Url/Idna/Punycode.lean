/-!
Punycode: labels of Unicode characters written in the letters, digits and hyphen of ASCII.

A label is written as its ASCII characters, a hyphen when there are any, and then, for each other
code point in ascending order, the distance to its next place as a variable-length number in
base 36, with a bias that adapts to the distances written so far. Reading reverses this and
fails on a character that is no digit, on a number that ends early, on arithmetic that leaves
32 bits, and on a code point that is no character.

Every loop ends by a measure: the bias loop divides the distance, a number's digits divide what
is left to write, writing takes the wide code points one value at a time, and reading consumes at
least one digit per code point (`decodeNumber_shorter`).
-/

namespace PipelineEditor

namespace Punycode

/-- The base of the numbers. -/
def base : Nat := 36
/-- The least threshold of a digit. -/
def tMin : Nat := 1
/-- The greatest threshold of a digit. -/
def tMax : Nat := 26
/-- The bias a label starts with. -/
def initialBias : Nat := 72
/-- The first code point beyond ASCII. -/
def initialN : Nat := 128
/-- The bound of 32-bit arithmetic. -/
def wordLimit : Nat := Nat.pow 2 32

/-- The digit of a value below 36. -/
def digit (d : Nat) : Char :=
  if d < 26 then Char.ofNat ('a'.toNat + d) else Char.ofNat ('0'.toNat + d - 26)

/-- The value of a digit, in either case. -/
def digitValue? (c : Char) : Option Nat :=
  if '0' ≤ c && c ≤ '9' then some (c.toNat - '0'.toNat + 26)
  else if 'A' ≤ c && c ≤ 'Z' then some (c.toNat - 'A'.toNat)
  else if 'a' ≤ c && c ≤ 'z' then some (c.toNat - 'a'.toNat)
  else none

/-- Divides a distance by 35 until it is at most 455, adding 36 to `k` for each division. -/
def shrink (delta k : Nat) : Nat × Nat :=
  if 455 < delta then shrink (delta / 35) (k + base) else (delta, k)
termination_by delta
decreasing_by omega

/-- The bias after a distance is written. -/
def adaptBias (delta numPoints : Nat) (first : Bool) : Nat :=
  let delta := if first then delta / 700 else delta / 2
  let (delta, k) := shrink (delta + delta / numPoints) 0
  k + base * delta / (delta + 38)

/-- The threshold of the digit at position `k` for a bias. -/
def threshold (k bias : Nat) : Nat :=
  if k ≤ bias then tMin else if k ≥ bias + tMax then tMax else k - bias

/-- A threshold is at least the least one. -/
theorem threshold_pos (k bias : Nat) : 1 ≤ threshold k bias := by
  unfold threshold tMin tMax
  split
  · omega
  · split <;> omega

/-- A threshold is below the base. -/
theorem threshold_lt_base (k bias : Nat) : threshold k bias < base := by
  unfold threshold tMin tMax base
  split
  · omega
  · split <;> omega

/-- The digits of `q` as a variable-length number whose first digit stands at position `k`. -/
def encodeNumber (bias k q : Nat) : List Char :=
  let t := threshold k bias
  if q < t then [digit q]
  else digit (t + (q - t) % (base - t)) :: encodeNumber bias (k + base) ((q - t) / (base - t))
termination_by q
decreasing_by
  have positive := threshold_pos k bias
  exact Nat.lt_of_le_of_lt (Nat.div_le_self _ _) (by omega)

/-- What writing a label has reached: the distance so far, the bias, how many code points are
placed, and the digits written. -/
structure Encoding where
  delta : Nat
  bias : Nat
  handled : Nat
  out : List Char

/-- Passes one code point of the label while the code points equal to `m` are written: a smaller
one adds to the distance, and an equal one writes the distance and starts a new one. -/
def Encoding.pass (basicCount m : Nat) (e : Encoding) (c : Nat) : Encoding :=
  if c < m then { e with delta := e.delta + 1 }
  else if c == m then
    { delta := 0
      bias := adaptBias e.delta (e.handled + 1) (e.handled == basicCount)
      handled := e.handled + 1
      out := e.out ++ encodeNumber e.bias base e.delta }
  else e

/-- Writes the code points `ms`, ascending, of a label whose code points are `points`; `n` is
the code point written last, plus one. -/
def Encoding.writeAll (points : List Nat) (basicCount : Nat) :
    List Nat → Nat → Encoding → Encoding
  | [], _, e => e
  | m :: ms, n, e =>
    let e := points.foldl (Encoding.pass basicCount m)
      { e with delta := e.delta + (m - n) * (e.handled + 1) }
    Encoding.writeAll points basicCount ms (m + 1) { e with delta := e.delta + 1 }

/-- The code points beyond ASCII of a label, ascending and each once. -/
def wideCodes (label : List Char) : List Nat :=
  (((label.map Char.toNat).filter (initialN ≤ ·)).mergeSort).eraseDups

/-- The Punycode of a label, without a prefix. -/
def encode (label : List Char) : String :=
  let basic := label.filter fun c => c.toNat < initialN
  let start : Encoding :=
    { delta := 0, bias := initialBias, handled := basic.length
      out := if basic.isEmpty then [] else basic ++ ['-'] }
  String.ofList
    (Encoding.writeAll (label.map Char.toNat) basic.length (wideCodes label) initialN start).out

/-- Reads a variable-length number that adds to `i` with weight `w` at position `k`; the new
`i` and the rest, or `none` past 32 bits or at an early end. -/
def decodeNumber (bias : Nat) : List Char → Nat → Nat → Nat → Option (Nat × List Char)
  | [], _, _, _ => none
  | c :: rest, i, w, k =>
    match digitValue? c with
    | none => none
    | some d =>
      if d * w > wordLimit - 1 - i then none
      else
        let t := threshold k bias
        if d < t then some (i + d * w, rest)
        else if w * (base - t) > wordLimit - 1 then none
        else decodeNumber bias rest (i + d * w) (w * (base - t)) (k + base)

/-- Reading a number consumes at least one digit. -/
theorem decodeNumber_shorter (bias : Nat) :
    ∀ (cs : List Char) (i w k j : Nat) (rest : List Char),
      decodeNumber bias cs i w k = some (j, rest) → rest.length < cs.length
  | [], _, _, _, _, _, read => by simp [decodeNumber] at read
  | c :: cs, i, w, k, j, rest, read => by
    unfold decodeNumber at read
    split at read
    · simp at read
    · split at read
      · simp at read
      · dsimp only at read
        split at read
        · obtain ⟨-, rfl⟩ := Prod.mk.inj (Option.some.inj read)
          simp
        · split at read
          · simp at read
          · have shorter := decodeNumber_shorter bias cs _ _ _ j rest read
            simp only [List.length_cons]
            omega

set_option linter.unusedVariables false in
/-- Inserts the code points given by the numbers of `digits` into `out`; `n` is the code point
inserted last and `i` the place after it. -/
def decodeLoop (digits out : List Char) (n i bias : Nat) : Option (List Char) :=
  match digits with
  | [] => some out
  | c :: cs =>
    match read : decodeNumber bias (c :: cs) i 1 base with
    | none => none
    | some (j, rest) =>
      let length := out.length + 1
      if j / length > wordLimit - 1 - n then none
      else
        let n := n + j / length
        let place := j % length
        if n.isValidChar then
          decodeLoop rest (out.take place ++ Char.ofNat n :: out.drop place) n (place + 1)
            (adaptBias (j - i) length (i == 0))
        else none
termination_by digits.length
decreasing_by exact decodeNumber_shorter bias (c :: cs) i 1 base j rest read

/-- Reads the Punycode of a label: the characters before the last hyphen, which must be ASCII,
and the code points the digits after it insert. -/
def decode? (text : List Char) : Option (List Char) :=
  let (basic, digits) := match text.reverse.findIdx? (· == '-') with
    | some i => (text.take (text.length - 1 - i), text.drop (text.length - i))
    | none => ([], text)
  if basic.all (fun c => c.toNat < 0x80) then decodeLoop digits basic initialN 0 initialBias
  else none

end Punycode

end PipelineEditor
