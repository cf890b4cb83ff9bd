import OnlineDdl.Entries
import OnlineDdl.Schema.Constraint
import OnlineDdl.Text.Pieces

/-! What is known about existing tables: their constraints, indexes and columns, and the look-ups
that the planning rules need. -/

set_option autoImplicit false

namespace OnlineDdl

structure ConstraintInfo where
  name : String
  kind : ConstraintKind
  columns : List String
  -- False while existing rows have not been checked.
  validated : Bool
  index : Option String
deriving DecidableEq, Repr

structure IndexInfo where
  name : String
  columns : List String
  opclasses : List String
  unique : Bool
  primary : Bool
  -- False for a concurrent build that stopped halfway.
  valid : Bool
  partitioned : Bool
  constraint : Option String
deriving DecidableEq, Repr

structure ColumnInfo where
  name : String
  dataType : String
  notNull : Bool
deriving DecidableEq, Repr

structure TableEntry where
  constraints : List ConstraintInfo
  indexes : List IndexInfo
  columns : List ColumnInfo
deriving DecidableEq, Repr

structure Catalog where
  tables : List (String × TableEntry)
  distinct : (tables.map (·.1)).Nodup := by simp
deriving DecidableEq, Repr

def IndexInfo.isPatternOps (i : IndexInfo) : Bool := i.opclasses.any (Text.endsWith "_pattern_ops")

namespace TableEntry

def empty : TableEntry := ⟨[], [], []⟩

def withConstraint (entry : TableEntry) (c : ConstraintInfo) : TableEntry :=
  { entry with constraints := entry.constraints ++ [c] }

def withIndex (entry : TableEntry) (i : IndexInfo) : TableEntry :=
  { entry with indexes := entry.indexes ++ [i] }

def withColumn (entry : TableEntry) (c : ColumnInfo) : TableEntry :=
  { entry with columns := entry.columns ++ [c] }

def constraint? (entry : TableEntry) (name : String) : Option ConstraintInfo :=
  entry.constraints.find? (·.name == name)

def index? (entry : TableEntry) (name : String) : Option IndexInfo :=
  entry.indexes.find? (·.name == name)

def column? (entry : TableEntry) (name : String) : Option ColumnInfo :=
  entry.columns.find? (·.name == name)

def constraintsOn (entry : TableEntry) (columns : List String) (kind : Option ConstraintKind) :
    List ConstraintInfo :=
  entry.constraints.filter fun c =>
    c.columns == columns && match kind with
      | none => true
      | some k => c.kind == k

-- The indexes on exactly these columns that stand on their own and serve no pattern search.
def indexesOn (entry : TableEntry) (columns : List String) : List IndexInfo :=
  entry.indexes.filter fun i => i.columns == columns && i.constraint.isNone && !i.isPatternOps

def supportingIndex? (entry : TableEntry) (columns : List String) : Option IndexInfo :=
  entry.indexes.find? fun i => i.valid && columns.isPrefixOf i.columns

def patternOpsIndex? (entry : TableEntry) (column : String) : Option IndexInfo :=
  entry.indexes.find? fun i => i.isPatternOps && i.columns == [column]

-- The checks on exactly one column whose name says that they stand for NOT NULL.
def notNullChecks (entry : TableEntry) (column : String) : List ConstraintInfo :=
  entry.constraints.filter fun c =>
    c.kind == .check && Text.endsWith "_notnull" c.name && c.columns == [column]

end TableEntry

-- Where all look-ups are for one table, its entry stands for a catalog.
instance : Coe (Option TableEntry) (String → Option TableEntry) := ⟨fun entry _ => entry⟩

namespace Catalog

def empty : Catalog := { tables := [] }

def table? (catalog : Catalog) (table : String) : Option TableEntry := catalog.tables.lookup table

def insert (catalog : Catalog) (table : String) (entry : TableEntry) : Catalog :=
  ⟨Entries.put table entry catalog.tables, Entries.put_distinct table entry catalog.tables catalog.distinct⟩

def ofEntries (entries : List (String × TableEntry)) : Catalog :=
  ⟨Entries.gathered entries, Entries.gathered_distinct entries⟩

end Catalog

end OnlineDdl
