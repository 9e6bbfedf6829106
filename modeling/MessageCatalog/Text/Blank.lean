import MessageCatalog.Text.Ranges

/-!
# Blanks

The characters that separate the tokens of program text: White_Space, and the two marks of writing direction.
-/

namespace MessageCatalog.Text

/-- White_Space, and U+200E and U+200F. -/
def blankRanges : Ranges :=
  [(0x9, 0xd), (0x20, 0x20), (0x85, 0x85), (0xa0, 0xa0), (0x1680, 0x1680), (0x2000, 0x200a), (0x200e, 0x200f),
   (0x2028, 0x2029), (0x202f, 0x202f), (0x205f, 0x205f), (0x3000, 0x3000)]

def isBlank (c : Char) : Bool := blankRanges.contains c

end MessageCatalog.Text
