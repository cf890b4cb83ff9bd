import OnlineDdl.Change.Operation
import OnlineDdl.Safety.Config
import OnlineDdl.Schema.ColumnType

/-! The verdict on each operation. -/

set_option autoImplicit false

namespace OnlineDdl

-- A verdict, and the way to NOT NULL that it presumes where there is a choice.
structure Decision where
  classification : Classification
  notNull : Option NotNullStrategy
deriving DecidableEq, Repr

namespace Decision

def of (classification : Classification) : Decision := ⟨classification, none⟩

def unsafeBecause (reason : UnsafeReason) : Decision := of (.unsafeUnfixable reason)

end Decision

-- The verdict on a new column. Without a default, a column that forbids nulls has no value for the
-- rows that are there already.
def judgeColumn (column : ColumnDef) (caps : ServerCaps) : Decision :=
  let byObjects := Decision.of (if column.hasInlineObjects then .unsafeFixable else .safe)
  if column.defaultValue.isSome then
    if column.volatileDefault || !caps.hasInstantDefault then .unsafeBecause .addColumnDefault
    else byObjects
  else if !column.nullable then ⟨.unsafeUnfixable .addColumnNotNull, some .directUnsafe⟩
  else byObjects

-- The verdict on an operation. The row estimate matters only where the mode asks for one.
def judge (op : Operation) (config : PlannerConfig) (caps : ServerCaps) (rows : RowEstimate) :
    Decision :=
  match op with
  | .createTable .. => .of .safe
  | .dropTable .. => .of .safe
  | .dropColumn .. => .of .safe
  | .dropNotNull .. => .of .safe
  | .dropConstraint .. => .of .safe
  | .dropIndex .. => .of .safe
  | .renameTable table newName =>
    if table = newName then .of .safe else .unsafeBecause .renameTable
  | .setTablespace .. => .unsafeBecause .setTablespace
  | .renameColumn _ column newName =>
    if column = newName then .of .safe else .unsafeBecause .renameColumn
  | .alterColumnType _ _ fromType toType _ =>
    if (ColumnType.parse fromType).widensTo (ColumnType.parse toType) then .of .safe
    else .unsafeBecause .alterColumnType
  | .addColumn _ column => judgeColumn column caps
  | .setNotNull .. =>
    let strategy := NotNullStrategy.select config.notNullMode caps rows
    ⟨strategy.classification, some strategy⟩
  | .addConstraint _ constraint =>
    if constraint.kind = .exclusion then .unsafeBecause .addExclusionConstraint
    else .of .unsafeFixable
  | .addIndex _ index => .of (if index.concurrently then .safe else .unsafeFixable)
  | .alterTogether _ _ add _ => .of (if add.isEmpty then .safe else .unsafeFixable)

end OnlineDdl
