/-!
# Character classes and block markers

A document is split by three classes of characters: *blanks* fill a line without being text, a
line break ends a line, and every other character is text. Three marker characters, met at the
start of a block, say what kind of block begins.
-/

set_option autoImplicit false

namespace BlockScan.Charset

/-- The characters that fill a line without being text. A carriage return is one of them and
never ends a line. -/
def blanks : List Char := [' ', '\t', '\r']

/-- The only character that ends a line. -/
def lineBreak : Char := '\n'

/-- The characters that may stand between two blocks. -/
def gaps : List Char := blanks ++ [lineBreak]

/-- A block is a heading when it starts with this mark and a space. -/
def headingMark : Char := '-'

/-- A line that opens with this mark is a comment line. -/
def commentMark : Char := '#'

/-- This mark introduces a block keyword. -/
def keywordMark : Char := '@'

/-- Whether a character fills a line without being text. -/
def isBlank (c : Char) : Bool := blanks.contains c

/-- Whether a character may stand between two blocks. -/
def isGap (c : Char) : Bool := gaps.contains c

/-- Whether a character belongs to a line, that is, does not end it. -/
def inLine (c : Char) : Bool := c != lineBreak

/-- A class of characters listed by code point. -/
def ascending (cs : List Char) : List Char := cs.mergeSort fun a b => decide (a ≤ b)

/-- The gaps are the blanks and the line break. -/
theorem isGap_eq (c : Char) : isGap c = (isBlank c || !inLine c) := by
  simp only [isGap, gaps, isBlank, inLine, List.contains_eq_mem, List.mem_append,
    List.mem_singleton, bne, Bool.not_not, Bool.decide_or]
  congr 1

/-- What is skipped within a line is skipped between blocks too. -/
theorem isGap_of_isBlank {c : Char} (h : isBlank c = true) : isGap c = true := by
  rw [isGap_eq, h, Bool.true_or]

/-- The blanks in front of a comment mark end at the mark. -/
theorem isBlank_commentMark : isBlank commentMark = false := by decide

end BlockScan.Charset
