/-!
Tables of code points written as text.

A table is a text of entries separated by blanks; an entry is fields separated by `:`, and a field
is hexadecimal numbers separated by `.`. Tables are sorted by their first number, so a code point
is found by binary search for the last entry that starts at or before it.
-/

namespace PipelineEditor

namespace CodeTable

/-- The value of a hexadecimal digit. -/
def hexDigit (c : Char) : Nat :=
  if c.isDigit then c.toNat - '0'.toNat
  else if 'A' ≤ c && c ≤ 'F' then c.toNat - 'A'.toNat + 10
  else c.toNat - 'a'.toNat + 10

/-- The numbers of a field. -/
def field (cs : List Char) : List Nat :=
  ((String.ofList cs).splitOn ".").map fun part => part.toList.foldl (fun n c => n * 16 + hexDigit c) 0

/-- The entries of a table text, each as its fields. -/
def read (text : String) : Array (List (List Nat)) :=
  let words := (text.split (fun c => c == ' ' || c == '\n')).toList.map (·.copy)
  (words.filter (!·.isEmpty)).toArray.map fun word =>
    (word.splitOn ":").map fun part => field part.toList

/-- The first number of the first field of an entry. -/
def key (entry : List (List Nat)) : Nat :=
  ((entry.head?.getD []).head?).getD 0

/-- The index of the last entry whose key is at most `n`; every entry below `lo` has a key at
most `n`, and none from `hi` on. -/
def lastAtMostFrom (keys : Array Nat) (n : Nat) (lo hi : Nat) : Option Nat :=
  if lo < hi then
    let mid := (lo + hi) / 2
    if (keys[mid]?).getD 0 ≤ n then lastAtMostFrom keys n (mid + 1) hi
    else lastAtMostFrom keys n lo mid
  else if lo = 0 then none else some (lo - 1)
termination_by hi - lo

/-- The index of the last key at most `n` in ascending keys. -/
def lastAtMost (keys : Array Nat) (n : Nat) : Option Nat :=
  lastAtMostFrom keys n 0 keys.size

/-- A table of ranges `first.last` with a value in a second field. -/
structure RangeTable where
  firsts : Array Nat
  lasts : Array Nat
  values : Array Nat
  deriving Inhabited

/-- Reads a table of ranges; an entry without a value has value 0. -/
def RangeTable.ofText (text : String) : RangeTable :=
  let entries := read text
  { firsts := entries.map key
    lasts := entries.map fun e => ((e.head?.getD []).getLast?).getD 0
    values := entries.map fun e => (((e.drop 1).head?.getD []).head?).getD 0 }

/-- The value of the range that holds a code point. -/
def RangeTable.find? (t : RangeTable) (n : Nat) : Option Nat := do
  let i ← lastAtMost t.firsts n
  if n ≤ (t.lasts[i]?).getD 0 then t.values[i]? else none

/-- Whether a range of the table holds a code point. -/
def RangeTable.contains (t : RangeTable) (n : Nat) : Bool := (t.find? n).isSome

end CodeTable

end PipelineEditor
