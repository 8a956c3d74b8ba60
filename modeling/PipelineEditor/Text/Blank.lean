/-!
Blank characters: the Unicode White_Space property, and trimming by it.

Names, numbers and list items are trimmed of every White_Space character, not only of the ASCII
ones, so a no-break space or an ideographic space around an item is dropped as well.
-/

namespace PipelineEditor

/-- The characters with the Unicode White_Space property, in ascending order. -/
def blankTable : List Nat :=
  [0x09, 0x0A, 0x0B, 0x0C, 0x0D, 0x20, 0x85, 0xA0, 0x1680,
   0x2000, 0x2001, 0x2002, 0x2003, 0x2004, 0x2005, 0x2006, 0x2007, 0x2008, 0x2009, 0x200A,
   0x2028, 0x2029, 0x202F, 0x205F, 0x3000]

/-- A character is blank when it has the Unicode White_Space property. -/
def isBlank (c : Char) : Bool :=
  blankTable.contains c.toNat

theorem isBlank_of_isWhitespace (c : Char) (h : c.isWhitespace = true) : isBlank c = true := by
  simp only [Char.isWhitespace, Bool.or_eq_true, decide_eq_true_eq] at h
  rcases h with ((h | h) | h) | h <;>
    simp [isBlank, blankTable, h, Char.toNat]

example : blankTable.length = 25 := rfl

/-- Drops blank characters from the front of a list of characters. -/
def dropBlanks (cs : List Char) : List Char :=
  cs.dropWhile isBlank

/-- Trims blank characters from both ends of a list of characters. -/
def trimBlanks (cs : List Char) : List Char :=
  (dropBlanks (dropBlanks cs).reverse).reverse

/-- Trims blank characters from both ends of a text. -/
def trimBlank (s : String) : String :=
  String.ofList (trimBlanks s.toList)

/-- Trims blank characters from the end of a text. -/
def trimBlankEnd (s : String) : String :=
  String.ofList (dropBlanks s.toList.reverse).reverse

/-- A text is blank when all of its characters are. -/
def isBlankText (s : String) : Bool :=
  s.toList.all isBlank

end PipelineEditor
