import OnlineDdl.Plan.Index

/-! Constraints added in steps: those that look at rows are added unchecked and validated beside
other work, and keys take over an index that was built beside other work. -/

set_option autoImplicit false

namespace OnlineDdl.Stepwise

def addNotValid (entry : Option TableEntry) (table name : String) (body : ConstraintBody) :
    List Step :=
  match entry.bind (·.constraint? name) with
  | none => [.alter table (.addConstraint name body true), .validate table name]
  | some existing => if existing.validated then [] else [.validate table name]

structure Key where
  name : String
  table : String
  columns : List String
  primary : Bool
  -- A key with a condition stays a unique index.
  condition : Option String
  deferrable : Option Deferrable
deriving DecidableEq, Repr

namespace Key

def unique (table name : String) (columns : List String) : Key :=
  ⟨name, table, columns, false, none, none⟩

def primaryKey (table name : String) (columns : List String) : Key :=
  ⟨name, table, columns, true, none, none⟩

def index (key : Key) : IndexSpec := .uniqueOn key.name key.table key.columns key.condition

end Key

def addKey (find : String → Option TableEntry) (key : Key) : List Step :=
  buildIndex find key.index
    ++ if key.condition.isSome || ((find key.table).bind (·.constraint? key.name)).isSome then []
      else [.alter key.table
        (.addConstraint key.name (.usingIndex key.primary key.name key.deferrable) false)]

def addForeignKey (find : String → Option TableEntry) (table name : String)
    (columns : List String) (reference : Reference) : List Step :=
  (if ((find table).bind (·.supportingIndex? columns)).isSome then []
    else buildIndex find (.generated table columns))
    ++ addNotValid (find table) table name (.foreignKey columns reference)

-- The pattern search index of a unique column, which a primary key on that column does not need.
def promotedPatternIndex (entry : Option TableEntry) (columns : List String) : Option IndexInfo :=
  match entry, columns with
  | some entry, [column] =>
    if (entry.constraintsOn columns (some .unique)).isEmpty then none
    else entry.patternOpsIndex? column
  | _, _ => none

def addConstraint (table : String) (find : String → Option TableEntry) :
    ConstraintDef → Except Precondition (List Step)
  | .check name columns expression =>
    (checkName table name columns).map fun name =>
      addNotValid (find table) table name (.check expression)
  | .unique name columns condition deferrable =>
    .ok (addKey find
      { Key.unique table (uniqueName table name columns) columns with condition, deferrable })
  | .primaryKey name columns =>
    .ok (addKey find (.primaryKey table (primaryKeyName table name columns) columns)
      ++ (promotedPatternIndex (find table) columns).toList.map (.dropIndexConcurrently ·.name))
  | .foreignKey name columns toTable toColumns onDelete deferrable =>
    .ok (addForeignKey find table (foreignKeyName table name columns toTable toColumns) columns
      ⟨toTable, toColumns, onDelete, deferrable⟩)
  | .exclusion name expression =>
    .ok [.unwrapped (.alterTable table (.addConstraint name (.exclude expression) false))]

-- The pattern search index that goes with a key on a single column: the one that is known, or else,
-- where nothing is known about the table, the one that may have been generated.
def orphanedPatternIndex (table : String) (caps : ServerCaps) (entry : Option TableEntry)
    (target : DropTarget) : Option String :=
  match target.columns with
  | [column] =>
    if target.kind.any ConstraintKind.isIndexBacked then
      match entry with
      | some entry => (entry.patternOpsIndex? column).map (·.name)
      | none => if caps.cCollation then none else some (ObjectName.named .patternOps table [column])
    else none
  | _ => none

def dropConstraint (table : String) (name : Option String) (columns : List String)
    (kind : Option ConstraintKind) (caps : ServerCaps) (entry : Option TableEntry) :
    Except Precondition (List Step) :=
  (dropTarget table name columns kind entry).map fun target =>
    .dropConstraint table target.name
      :: (orphanedPatternIndex table caps entry target).toList.map .dropIndexConcurrently

def removeGroup (table : String) (kind : TogetherKind) (entry : Option TableEntry)
    (group : List String) : Except Precondition Step :=
  match kind with
  | .unique =>
    (resolveConstraint table entry group (some .unique)).map fun c => .dropConstraint table c.name
  | .index => (resolveIndex table entry group).map fun i => .dropIndexConcurrently i.name

def addGroup (table : String) (kind : TogetherKind) (find : String → Option TableEntry)
    (group : List String) : List Step :=
  match kind with
  | .unique => addKey find (.unique table (uniqueName table none group) group)
  | .index => buildIndex find (.together table group)

def alterTogether (table : String) (kind : TogetherKind) (add remove : List (List String))
    (find : String → Option TableEntry) : Except Precondition (List Step) :=
  (remove.mapM (removeGroup table kind (find table))).map fun removals =>
    removals ++ add.flatMap (addGroup table kind find)

end OnlineDdl.Stepwise
