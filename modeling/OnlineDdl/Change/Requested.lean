import OnlineDdl.Change.Operation
import OnlineDdl.Change.Precondition
import OnlineDdl.Schema.Ddl
import OnlineDdl.Schema.ObjectName
import OnlineDdl.Server

/-! The objects that a request asks for: their names, which are generated where the request gives
none, and the indexes, keys and references to build. -/

set_option autoImplicit false

namespace OnlineDdl

open ObjectName

def uniqueName (table : String) (name : Option String) (columns : List String) : String :=
  name.getD (named .unique table columns)

def primaryKeyName (table : String) (name : Option String) (columns : List String) : String :=
  name.getD (named .primaryKey table columns)

-- A check that gives neither a name nor columns cannot be named.
def checkName (table : String) (name : Option String) (columns : List String) :
    Except Precondition String :=
  match name with
  | some name => .ok name
  | none =>
    if columns.isEmpty then .error (.unnamedCheck table) else .ok (named .check table columns)

-- A generated name mentions the first of the columns referred to.
def foreignKeyName (table : String) (name : Option String) (columns : List String)
    (toTable : String) (toColumns : List String) : String :=
  name.getD (named (.foreignKey toTable (toColumns.headD "")) table columns)

namespace IndexSpec

def plain (name table : String) (columns : List String) : IndexSpec :=
  ⟨name, table, columns, [], false, none, none⟩

def uniqueOn (name table : String) (columns : List String) (condition : Option String) : IndexSpec :=
  ⟨name, table, columns, [], true, none, condition⟩

def patternOps (table : String) (columns : List String) (ops : PatternOps) : IndexSpec :=
  ⟨named .patternOps table columns, table, columns, [ops.opclass], false, none, none⟩

def generated (table : String) (columns : List String) : IndexSpec :=
  plain (named .index table columns) table columns

def together (table : String) (columns : List String) : IndexSpec :=
  plain (named .togetherIndex table columns) table columns

-- The index a definition asks for, which gives operator classes for all columns or for none.
def ofDef (table : String) (d : IndexDef) : Except Precondition IndexSpec :=
  if !d.opclasses.isEmpty && d.opclasses.length != d.columns.length then
    .error (.opclassCount table d.opclasses.length d.columns.length)
  else
    .ok ⟨d.name.getD (named .index table d.columns), table, d.columns, d.opclasses, d.unique,
      d.method, d.condition⟩

end IndexSpec

def ColumnDef.reference (table : String) (column : ColumnDef) : Option (String × Reference) :=
  column.references.map fun fk =>
    (foreignKeyName table fk.name [column.name] fk.table [fk.column],
      ⟨fk.table, [fk.column], fk.onDelete, fk.deferrable⟩)

def ColumnDef.inlineClause (table : String) (column : ColumnDef) : ColumnClause :=
  { name := column.name
    dataType := column.dataType
    defaultValue := column.defaultValue
    nullable := column.nullable
    key := if column.primaryKey then some .primaryKey else if column.unique then some .unique else none
    reference := column.reference table }

def ColumnDef.bareClause (column : ColumnDef) : ColumnClause :=
  ⟨column.name, column.dataType, column.defaultValue, column.nullable, none, none⟩

def ColumnDef.patternIndex (table : String) (column : ColumnDef) (caps : ServerCaps) :
    Option IndexSpec :=
  if column.hasInlineObjects && !caps.cCollation then
    column.patternOps.map (IndexSpec.patternOps table [column.name])
  else none

def ColumnDef.wantsIndex (column : ColumnDef) : Bool :=
  (column.index || column.references.isSome) && !column.primaryKey && !column.unique

def ColumnDef.indexes (table : String) (column : ColumnDef) (caps : ServerCaps) : List IndexSpec :=
  (if column.wantsIndex then [IndexSpec.generated table [column.name]] else [])
    ++ (column.patternIndex table caps).toList

structure DropTarget where
  name : String
  kind : Option ConstraintKind
  columns : List String
deriving DecidableEq, Repr

-- A name stands for itself, and what is known about it fills the gaps; without a name exactly one
-- constraint must match.
def dropTarget (table : String) (name : Option String) (columns : List String)
    (kind : Option ConstraintKind) (entry : Option TableEntry) : Except Precondition DropTarget :=
  match name with
  | some name =>
    let known := entry.bind (·.constraint? name)
    .ok
      { name
        kind := kind.or (known.map (·.kind))
        columns := if columns.isEmpty then (known.map (·.columns)).getD [] else columns }
  | none =>
    (resolveConstraint table entry columns kind).map fun c => ⟨c.name, some c.kind, c.columns⟩

def indexTarget (table : String) (name : Option String) (columns : List String)
    (entry : Option TableEntry) : Except Precondition String :=
  match name with
  | some name => .ok name
  | none => (resolveIndex table entry columns).map (·.name)

end OnlineDdl
