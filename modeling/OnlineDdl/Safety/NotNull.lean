import OnlineDdl.Safety.Verdict
import OnlineDdl.Server
import OnlineDdl.Text.Blank
import OnlineDdl.Text.Decimal
import OnlineDdl.Text.Lowercase

/-! How an existing column becomes NOT NULL. The plain statement scans the table under an exclusive
lock; the others prove the rule with a check that is validated beside other work. -/

set_option autoImplicit false

namespace OnlineDdl

inductive NotNullMode where
  | never
  | alwaysUseConstraint
  -- The plain statement for tables of at most this many rows.
  | sizeThreshold (rows : UInt64)
  -- Writes the catalog flag directly where the plain statement would scan.
  | catalogUpdateForSuperuser
deriving DecidableEq, Repr

namespace NotNullMode

def needsRowEstimate : NotNullMode → Bool
  | .sizeThreshold _ => true
  | _ => false

def parse? (raw : String) : Option NotNullMode :=
  let value := Text.lower (Text.trim raw.toList)
  match String.ofList value with
  | "true" | "always" | "always_use_constraint" => some .alwaysUseConstraint
  | "false" | "never" => some .never
  | "use_pg_attribute_update_for_superuser" | "pg_attribute_update_for_superuser" =>
    some .catalogUpdateForSuperuser
  | _ => (Text.readNumeral Text.u64Bound value).map fun n => .sizeThreshold (UInt64.ofNat n)

end NotNullMode

inductive NotNullStrategy where
  | directUnsafe
  -- A check, its validation, and the plain statement, which then needs no scan.
  | constraintAssisted
  -- A check, its validation, and an update of the catalog flag.
  | catalogUpdate
deriving DecidableEq, Repr

namespace NotNullStrategy

def classification : NotNullStrategy → Classification
  | .directUnsafe => .unsafeUnfixable .setNotNull
  | .constraintAssisted => .unsafeFixable
  | .catalogUpdate => .unsafeFixable

-- An unknown size counts as small.
def select (mode : NotNullMode) (caps : ServerCaps) (rows : RowEstimate) : NotNullStrategy :=
  match mode with
  | .never => .directUnsafe
  | .alwaysUseConstraint => .constraintAssisted
  | .catalogUpdateForSuperuser =>
    if caps.setNotNullUsesCheck then .constraintAssisted else .catalogUpdate
  | .sizeThreshold threshold =>
    match rows with
    | .known count => if threshold < count then .constraintAssisted else .directUnsafe
    | .unknown => .directUnsafe

end NotNullStrategy

end OnlineDdl
