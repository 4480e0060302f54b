import LadderAtlas.Text.Ranges

/-! # Blank characters

The 29 characters that separate words and are trimmed from the ends of a text: the white space of
Unicode 14.0 and the four information separators. -/

namespace LadderAtlas.Text

def blankRanges : Ranges :=
  [
    (0x9, 0xD), (0x1C, 0x20), (0x85, 0x85), (0xA0, 0xA0), (0x1680, 0x1680), (0x2000, 0x200A),
    (0x2028, 0x2029), (0x202F, 0x202F), (0x205F, 0x205F), (0x3000, 0x3000)]

def isBlank (c : Char) : Bool := blankRanges.has c.toNat

end LadderAtlas.Text
