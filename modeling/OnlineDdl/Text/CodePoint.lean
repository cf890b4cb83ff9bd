/-! Sets of characters as ranges of code points. The tables of characters in this library follow
version 17.0 of the Unicode character database. -/

set_option autoImplicit false

namespace OnlineDdl.Text

def inRanges (ranges : List (Nat × Nat)) (c : Char) : Bool :=
  ranges.any fun (first, last) => decide (first ≤ c.toNat ∧ c.toNat ≤ last)

end OnlineDdl.Text
