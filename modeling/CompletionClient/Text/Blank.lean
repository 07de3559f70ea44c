import CompletionClient.Text.Ranges
/-!
# White space

The characters that count as white space when text is trimmed or read as a
number: those of Unicode 14.0 whose bidirectional class is a separator or
white space, or whose general category is a space separator.  They are the 25
characters of the property White_Space and the four information separators
U+001C to U+001F.
-/

namespace CompletionClient.Text

/-- The white-space characters, as ranges of code points. -/
def blankRanges : Ranges :=
  [(0x9, 0xD), (0x1C, 0x20), (0x85, 0x85), (0xA0, 0xA0), (0x1680, 0x1680),
   (0x2000, 0x200A), (0x2028, 0x2029), (0x202F, 0x202F), (0x205F, 0x205F), (0x3000, 0x3000)]

/-- Whether a character is white space. -/
def isBlank (c : Char) : Bool := blankRanges.contains c.toNat

/-- Removes white space from both ends. -/
def trim (s : String) : String :=
  String.ofList ((s.toList.dropWhile isBlank).reverse.dropWhile isBlank).reverse

end CompletionClient.Text
