/-! What matters about a server: its version, its collation and the sizes of its tables. -/

set_option autoImplicit false

namespace OnlineDdl

structure ServerCaps where
  -- The version as one number, such as 120000.
  version : UInt32
  -- Under the C collation a plain index already serves searches by leading characters.
  cCollation : Bool
deriving DecidableEq, Repr

namespace ServerCaps

def default : ServerCaps := ⟨120000, false⟩

def hasInstantDefault (caps : ServerCaps) : Bool := decide (110000 ≤ caps.version)

def setNotNullUsesCheck (caps : ServerCaps) : Bool := decide (120000 ≤ caps.version)

end ServerCaps

inductive RowEstimate where
  | unknown
  | known (rows : UInt64)
deriving DecidableEq, Repr

-- The estimate behind the statistic of the system catalog, where a negative number means that there
-- is none. Halves round away from zero.
def RowEstimate.ofTupleCount : Option Float → RowEstimate
  | some count => if 0 ≤ count then .known count.round.toUInt64 else .unknown
  | none => .unknown

end OnlineDdl
