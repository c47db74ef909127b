import TreeCodec.Text.CharRange

/-!
The blank characters: the Unicode property White_Space. It holds the ASCII
blanks, the next-line control and the spaces of every width, but not the
zero-width space and not the byte order mark.
-/

namespace TreeCodec.Text

/-- The code points with the property White_Space. -/
def blankRanges : List CharRange :=
  [⟨0x09, 0x0D⟩, ⟨0x20, 0x20⟩, ⟨0x85, 0x85⟩, ⟨0xA0, 0xA0⟩, ⟨0x1680, 0x1680⟩,
    ⟨0x2000, 0x200A⟩, ⟨0x2028, 0x2029⟩, ⟨0x202F, 0x202F⟩, ⟨0x205F, 0x205F⟩,
    ⟨0x3000, 0x3000⟩]

def isBlank (c : Char) : Bool :=
  inRanges blankRanges c

end TreeCodec.Text
