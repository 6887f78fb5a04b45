/-!
# Blank characters

The characters with the Unicode property `White_Space`, and their removal from
both ends of a text.
-/

namespace RoadGrowth.Text

/-- Ranges of the property `White_Space`, ends included. -/
def blankRanges : List (Nat × Nat) :=
  [(0x09, 0x0d), (0x20, 0x20), (0x85, 0x85), (0xa0, 0xa0), (0x1680, 0x1680),
   (0x2000, 0x200a), (0x2028, 0x2029), (0x202f, 0x202f), (0x205f, 0x205f), (0x3000, 0x3000)]

/-- Whether a character is blank. -/
def isBlank (symbol : Char) : Bool :=
  blankRanges.any fun range => range.1 ≤ symbol.toNat && symbol.toNat ≤ range.2

/-- A text without the blanks at its two ends. -/
def trim (text : List Char) : List Char :=
  ((text.dropWhile isBlank).reverse.dropWhile isBlank).reverse

end RoadGrowth.Text
