import OnlineDdl.Plan.Baseline
import OnlineDdl.Plan.Constraint
import OnlineDdl.Safety.NotNull

/-! New columns, whose keys, references and indexes follow one by one, and the ways to NOT NULL and
back. -/

set_option autoImplicit false

namespace OnlineDdl.Stepwise

def columnKey (table : String) (column : ColumnDef) : Option Key :=
  let columns := [column.name]
  if column.primaryKey then
    some (.primaryKey table (primaryKeyName table none columns) columns)
  else if column.unique then some (.unique table (uniqueName table none columns) columns)
  else none

def columnReference (table : String) (column : ColumnDef)
    (find : String → Option TableEntry) : List Step :=
  match column.reference table with
  | some (name, reference) => addForeignKey find table name [column.name] reference
  | none =>
    if column.index && !column.primaryKey && !column.unique then
      buildIndex find (.generated table [column.name])
    else []

def addColumn (table : String) (column : ColumnDef) (caps : ServerCaps)
    (find : String → Option TableEntry) : List Step :=
  .alter table (.addColumn column.bareClause)
    :: Baseline.dropDefault table column
    ++ (columnKey table column).toList.flatMap (addKey find)
    ++ columnReference table column find
    ++ (column.patternIndex table caps).toList.flatMap (buildIndex find)

def notNullHelper (table column : String) : String := ObjectName.named .notNull table [column]

-- What makes the proven rule a flag of the column, and the check superfluous. A server that would
-- scan nevertheless keeps the check in place of the flag.
def adoptNotNull (table column : String) (strategy : NotNullStrategy) (caps : ServerCaps) :
    List Step :=
  let dropHelper := Step.dropConstraint table (notNullHelper table column)
  match strategy with
  | .constraintAssisted =>
    if caps.setNotNullUsesCheck then [.alter table (.setNotNull column), dropHelper] else []
  | .catalogUpdate => [.unwrapped (.markNotNull table column), dropHelper]
  | .directUnsafe => [.alter table (.setNotNull column)]

def isNotNullDone (table column : String) (entry : Option TableEntry) : Bool :=
  (entry.bind (·.column? column)).any (·.notNull)
    && (entry.bind (·.constraint? (notNullHelper table column))).isNone

def setNotNull (table column : String) (strategy : NotNullStrategy) (caps : ServerCaps)
    (entry : Option TableEntry) : List Step :=
  if strategy = .directUnsafe then adoptNotNull table column strategy caps
  else if isNotNullDone table column entry then []
  else
    addNotValid entry table (notNullHelper table column) (.notNull column)
      ++ adoptNotNull table column strategy caps

def dropNotNull (table column : String) (entry : Option TableEntry) :
    Except Precondition (List Step) :=
  (notNullCheck table entry column).map fun
    | some check => [.dropConstraint table check.name]
    | none => [.alter table (.dropNotNull column)]

end OnlineDdl.Stepwise
