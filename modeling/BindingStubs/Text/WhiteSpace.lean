import BindingStubs.Text.RangeTable

namespace BindingStubs.Text

/-!
# White space

The characters with the Unicode property `White_Space`.  Trimming, splitting into
words and the blank class of patterns all use this set.
-/

/-- Ranges of the property `White_Space`. -/
def whiteSpaceRanges : RangeTable :=
  [(0x9, 0xD), (0x20, 0x20), (0x85, 0x85), (0xA0, 0xA0), (0x1680, 0x1680), (0x2000, 0x200A),
   (0x2028, 0x2029), (0x202F, 0x202F), (0x205F, 0x205F), (0x3000, 0x3000)]

/-- Whether a character is white space. -/
def isWhite
    (character : Char) :
    Bool :=
  whiteSpaceRanges.contains character

end BindingStubs.Text
