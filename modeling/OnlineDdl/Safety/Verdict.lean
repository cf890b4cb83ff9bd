/-! How dangerous an operation is on a table in use, and the words for it. -/

set_option autoImplicit false

namespace OnlineDdl

inductive UnsafeReason where
  | renameTable
  | setTablespace
  | renameColumn
  | alterColumnType
  | addColumnDefault
  | addColumnNotNull
  | setNotNull
  | addExclusionConstraint
deriving DecidableEq, Repr

namespace UnsafeReason

def code : UnsafeReason → String
  | .renameTable => "rename_table"
  | .setTablespace => "set_tablespace"
  | .renameColumn => "rename_column"
  | .alterColumnType => "alter_column_type"
  | .addColumnDefault => "add_column_default"
  | .addColumnNotNull => "add_column_not_null"
  | .setNotNull => "set_not_null"
  | .addExclusionConstraint => "add_exclusion_constraint"

def ddl : UnsafeReason → String
  | .renameTable => "ALTER TABLE RENAME"
  | .setTablespace => "ALTER TABLE SET TABLESPACE"
  | .renameColumn => "ALTER TABLE RENAME COLUMN"
  | .alterColumnType => "ALTER COLUMN TYPE"
  | .addColumnDefault => "ADD COLUMN DEFAULT"
  | .addColumnNotNull => "ADD COLUMN NOT NULL"
  | .setNotNull => "ALTER COLUMN NOT NULL"
  | .addExclusionConstraint => "ADD CONSTRAINT EXCLUDE"

def detail : UnsafeReason → String
  | .renameTable => "queries still using the old table name fail"
  | .setTablespace => "moving a table rewrites it under an exclusive lock"
  | .renameColumn => "queries still using the old column name fail"
  | .alterColumnType => "changing the column type rewrites the table under an exclusive lock"
  | .addColumnDefault =>
    "adding a column with this default rewrites the table under an exclusive lock"
  | .addColumnNotNull => "a NOT NULL column without a default fails on a populated table"
  | .setNotNull => "direct SET NOT NULL scans and locks the table"
  | .addExclusionConstraint =>
    "exclusion constraints are built under an exclusive lock and cannot be added NOT VALID"

def message (reason : UnsafeReason) : String :=
  reason.ddl ++ " is unsafe operation: " ++ reason.detail

end UnsafeReason

inductive Classification where
  | safe
  -- Unsafe as asked for, but there is a safe way, which is always taken.
  | unsafeFixable
  | unsafeUnfixable (reason : UnsafeReason)
deriving DecidableEq, Repr

namespace Classification

def reason? : Classification → Option UnsafeReason
  | .unsafeUnfixable reason => some reason
  | _ => none

def isUnfixable (c : Classification) : Bool := c.reason?.isSome

end Classification

end OnlineDdl
