/-!
# Blank characters

A character is blank when it has the white-space property of Unicode. Names and
operators given by a caller are trimmed of blanks at both ends, and a name made of
blanks alone counts as empty.
-/

namespace SearchSql.Text

/-- The blank characters form ten ranges of code points, each given by its first and last. -/
def blankRanges : List (Nat × Nat) :=
  [(0x09, 0x0D), (0x20, 0x20), (0x85, 0x85), (0xA0, 0xA0), (0x1680, 0x1680), (0x2000, 0x200A),
    (0x2028, 0x2029), (0x202F, 0x202F), (0x205F, 0x205F), (0x3000, 0x3000)]

/-- A character is blank when its code point lies in one of the ranges. -/
def isBlank (c : Char) : Bool :=
  blankRanges.any fun range => range.1 ≤ c.toNat && c.toNat ≤ range.2

/-- Trimming removes the blanks at both ends and keeps those in between. -/
def trimChars (cs : List Char) : List Char :=
  ((cs.dropWhile isBlank).reverse.dropWhile isBlank).reverse

/-- Trimming a text is trimming its characters. -/
def trim (text : String) : String :=
  String.ofList (trimChars text.toList)

/-- A text is blank when each of its characters is, so the empty text is blank. -/
def isBlankText (text : String) : Bool :=
  text.toList.all isBlank

end SearchSql.Text
