import OnlineDdl.Text.CodePoint
import OnlineDdl.Text.Pieces

/-! White space, and what is left of a text without it. -/

set_option autoImplicit false

namespace OnlineDdl.Text

-- The code points with the Unicode property `White_Space`.
def blankRanges : List (Nat × Nat) :=
  [(0x9, 0xD), (0x20, 0x20), (0x85, 0x85), (0xA0, 0xA0), (0x1680, 0x1680), (0x2000, 0x200A),
   (0x2028, 0x2029), (0x202F, 0x202F), (0x205F, 0x205F), (0x3000, 0x3000)]

def isBlank : Char → Bool := inRanges blankRanges

def trim (s : List Char) : List Char := dropWhileEnd isBlank (s.dropWhile isBlank)

def words (s : List Char) : List (List Char) := (pieces isBlank s).filter (!·.isEmpty)

end OnlineDdl.Text
