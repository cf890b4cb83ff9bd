import OnlineDdl.Change.Requested
import OnlineDdl.Plan.Statement

/-! The baseline: the statements for an operation that pay no regard to locks. -/

set_option autoImplicit false

namespace OnlineDdl.Baseline

-- The default has filled the existing rows and goes, unless it is to stay.
def dropDefault (table : String) (column : ColumnDef) : List Step :=
  if column.defaultValue.isSome && !column.keepDefault then
    [.alter table (.dropDefault column.name)]
  else []

def createIndex (index : IndexSpec) : Step := .wrapped (.createIndex index false)

-- A constraint with a condition is a unique index.
def addConstraint (table : String) : ConstraintDef → Except Precondition Step
  | .check name columns expression =>
    (checkName table name columns).map fun name =>
      .alter table (.addConstraint name (.check expression) false)
  | .unique name columns (some condition) _ =>
    .ok (createIndex (.uniqueOn (uniqueName table name columns) table columns (some condition)))
  | .unique name columns none deferrable =>
    .ok (.alter table
      (.addConstraint (uniqueName table name columns) (.unique columns deferrable) false))
  | .primaryKey name columns =>
    .ok (.alter table
      (.addConstraint (primaryKeyName table name columns) (.primaryKey columns) false))
  | .foreignKey name columns toTable toColumns onDelete deferrable =>
    .ok (.alter table
      (.addConstraint (foreignKeyName table name columns toTable toColumns)
        (.foreignKey columns ⟨toTable, toColumns, onDelete, deferrable⟩) false))
  | .exclusion name expression =>
    .ok (.unwrapped (.alterTable table (.addConstraint name (.exclude expression) false)))

def removeGroup (table : String) (kind : TogetherKind) (entry : Option TableEntry)
    (group : List String) : Except Precondition Step :=
  match kind with
  | .unique =>
    (resolveConstraint table entry group (some .unique)).map fun c => .dropConstraint table c.name
  | .index => (resolveIndex table entry group).map fun i => .wrapped (.dropIndex i.name false)

def addGroup (table : String) (kind : TogetherKind) (group : List String) : Step :=
  match kind with
  | .unique =>
    .alter table (.addConstraint (uniqueName table none group) (.unique group none) false)
  | .index => createIndex (.together table group)

def steps (op : Operation) (caps : ServerCaps) (find : String → Option TableEntry) :
    Except Precondition (List Step) :=
  match op with
  | .createTable table columns =>
    .ok (.unwrapped (.createTable table (columns.map (ColumnDef.inlineClause table)))
      :: (columns.flatMap fun c => c.indexes table caps).map fun i => .unwrapped (.createIndex i false))
  | .dropTable table cascade => .ok [.unwrapped (.dropTable table cascade)]
  | .renameTable table newName =>
    .ok (if table = newName then [] else [.alter table (.renameTo newName)])
  | .setTablespace table tablespace => .ok [.alter table (.setTablespace tablespace)]
  | .addColumn table column =>
    .ok (.alter table (.addColumn (column.inlineClause table))
      :: dropDefault table column ++ (column.indexes table caps).map createIndex)
  | .dropColumn table column cascade => .ok [.alter table (.dropColumn column cascade)]
  | .renameColumn table column newName =>
    .ok (if column = newName then [] else [.alter table (.renameColumn column newName)])
  | .alterColumnType table column _ toType conversion =>
    .ok [.alter table (.setType column toType conversion)]
  | .setNotNull table column => .ok [.alter table (.setNotNull column)]
  | .dropNotNull table column => .ok [.alter table (.dropNotNull column)]
  | .addConstraint table constraint => (addConstraint table constraint).map ([·])
  | .dropConstraint table name columns kind =>
    (dropTarget table name columns kind (find table)).map fun target =>
      [.dropConstraint table target.name]
  | .addIndex table index =>
    (IndexSpec.ofDef table index).map fun spec =>
      [if index.concurrently then .createIndexConcurrently spec else createIndex spec]
  | .dropIndex table name columns =>
    (indexTarget table name columns (find table)).map fun name => [.wrapped (.dropIndex name false)]
  | .alterTogether table kind add remove =>
    (remove.mapM (removeGroup table kind (find table))).map fun removals =>
      removals ++ add.map (addGroup table kind)

def forCatalog (op : Operation) (caps : ServerCaps) (catalog : Catalog) :
    Except Precondition (List Step) :=
  steps op caps catalog.table?

end OnlineDdl.Baseline
