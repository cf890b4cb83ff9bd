import OnlineDdl.Schema.Column
import OnlineDdl.Schema.Constraint
import OnlineDdl.Schema.Index

/-! Change requests: one operation on one table each. -/

set_option autoImplicit false

namespace OnlineDdl

inductive TogetherKind where
  | unique
  | index
deriving DecidableEq, Repr

inductive Operation where
  | createTable (table : String) (columns : List ColumnDef)
  | dropTable (table : String) (cascade : Bool)
  | renameTable (table newName : String)
  | setTablespace (table tablespace : String)
  | addColumn (table : String) (column : ColumnDef)
  | dropColumn (table column : String) (cascade : Bool)
  | renameColumn (table column newName : String)
  | alterColumnType (table column fromType toType : String) (conversion : Option String)
  | setNotNull (table column : String)
  | dropNotNull (table column : String)
  | addConstraint (table : String) (constraint : ConstraintDef)
  | dropConstraint (table : String) (name : Option String) (columns : List String)
      (kind : Option ConstraintKind)
  | addIndex (table : String) (index : IndexDef)
  | dropIndex (table : String) (name : Option String) (columns : List String)
  | alterTogether (table : String) (kind : TogetherKind) (add remove : List (List String))
deriving DecidableEq, Repr

def ColumnDef.identifiers (c : ColumnDef) : List String :=
  c.name :: match c.references with
    | none => []
    | some fk => fk.table :: fk.column :: fk.name.toList

namespace Operation

def table : Operation → String
  | .createTable table _ => table
  | .dropTable table _ => table
  | .renameTable table _ => table
  | .setTablespace table _ => table
  | .addColumn table _ => table
  | .dropColumn table _ _ => table
  | .renameColumn table _ _ => table
  | .alterColumnType table _ _ _ _ => table
  | .setNotNull table _ => table
  | .dropNotNull table _ => table
  | .addConstraint table _ => table
  | .dropConstraint table _ _ _ => table
  | .addIndex table _ => table
  | .dropIndex table _ _ => table
  | .alterTogether table _ _ _ => table

def kindName : Operation → String
  | .createTable .. => "create_table"
  | .dropTable .. => "drop_table"
  | .renameTable .. => "rename_table"
  | .setTablespace .. => "set_tablespace"
  | .addColumn .. => "add_column"
  | .dropColumn .. => "drop_column"
  | .renameColumn .. => "rename_column"
  | .alterColumnType .. => "alter_column_type"
  | .setNotNull .. => "set_not_null"
  | .dropNotNull .. => "drop_not_null"
  | .addConstraint .. => "add_constraint"
  | .dropConstraint .. => "drop_constraint"
  | .addIndex .. => "add_index"
  | .dropIndex .. => "drop_index"
  | .alterTogether .. => "alter_columns_together"

def otherIdentifiers : Operation → List String
  | .createTable _ columns => columns.flatMap ColumnDef.identifiers
  | .dropTable _ _ => []
  | .renameTable _ newName => [newName]
  | .setTablespace _ tablespace => [tablespace]
  | .addColumn _ column => column.identifiers
  | .dropColumn _ column _ => [column]
  | .renameColumn _ column newName => [column, newName]
  | .alterColumnType _ column _ _ _ => [column]
  | .setNotNull _ column => [column]
  | .dropNotNull _ column => [column]
  | .addConstraint _ constraint => constraint.identifiers
  | .dropConstraint _ name columns _ => name.toList ++ columns
  | .addIndex _ index => index.name.toList ++ index.columns
  | .dropIndex _ name columns => name.toList ++ columns
  | .alterTogether _ _ add remove => (add ++ remove).flatten

-- Every name an operation gives, in the order in which they are checked.
def identifiers (op : Operation) : List String := op.table :: op.otherIdentifiers

end Operation

def distinctTables (ops : List Operation) : List String :=
  ops.foldl (fun seen op => if seen.contains op.table then seen else seen ++ [op.table]) []

end OnlineDdl
