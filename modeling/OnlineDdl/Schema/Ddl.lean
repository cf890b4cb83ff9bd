import OnlineDdl.Schema.Constraint
import OnlineDdl.Schema.Index
import OnlineDdl.Text.Quoted

/-! The statements that change a schema, as data, and their SQL text. Names are quoted where they
are written; types, defaults, expressions and conditions are SQL already. -/

set_option autoImplicit false

namespace OnlineDdl

structure Reference where
  table : String
  columns : List String
  onDelete : Option String
  deferrable : Bool
deriving DecidableEq, Repr

inductive InlineKey where
  | primaryKey
  | unique
deriving DecidableEq, Repr

-- A column definition; without key and reference it adds the column alone.
structure ColumnClause where
  name : String
  dataType : String
  defaultValue : Option String
  nullable : Bool
  key : Option InlineKey
  reference : Option (String × Reference)
deriving DecidableEq, Repr

structure IndexSpec where
  name : String
  table : String
  columns : List String
  opclasses : List String
  unique : Bool
  method : Option IndexMethod
  condition : Option String
deriving DecidableEq, Repr

inductive ConstraintBody where
  | check (expression : String)
  | notNull (column : String)
  | unique (columns : List String) (deferrable : Option Deferrable)
  | primaryKey (columns : List String)
  | foreignKey (columns : List String) (reference : Reference)
  | exclude (expression : String)
  | usingIndex (primary : Bool) (index : String) (deferrable : Option Deferrable)
deriving DecidableEq, Repr

inductive TableAction where
  | renameTo (name : String)
  | setTablespace (name : String)
  | addColumn (column : ColumnClause)
  | dropColumn (column : String) (cascade : Bool)
  | renameColumn (column newName : String)
  | setType (column dataType : String) (conversion : Option String)
  | dropDefault (column : String)
  | setNotNull (column : String)
  | dropNotNull (column : String)
  | addConstraint (name : String) (body : ConstraintBody) (notValid : Bool)
  | validateConstraint (name : String)
  | dropConstraint (name : String)
deriving DecidableEq, Repr

inductive Ddl where
  | createTable (table : String) (columns : List ColumnClause)
  | dropTable (table : String) (cascade : Bool)
  | alterTable (table : String) (action : TableAction)
  | createIndex (index : IndexSpec) (concurrently : Bool)
  | dropIndex (name : String) (concurrently : Bool)
  | markNotNull (table column : String)
deriving DecidableEq, Repr

def clause (lead : String) : Option String → String
  | none => ""
  | some text => lead ++ text

def flag (word : String) (present : Bool) : String := if present then word else ""

def Deferrable.sql : Deferrable → String
  | .deferred => " DEFERRABLE INITIALLY DEFERRED"
  | .immediate => " DEFERRABLE INITIALLY IMMEDIATE"

def deferral : Option Deferrable → String
  | none => ""
  | some d => d.sql

def Reference.sql (r : Reference) : String :=
  "REFERENCES " ++ quoteIdent r.table ++ " (" ++ quoteColumns r.columns ++ ")"
    ++ clause " ON DELETE " r.onDelete ++ flag Deferrable.deferred.sql r.deferrable

def InlineKey.sql : InlineKey → String
  | .primaryKey => " PRIMARY KEY"
  | .unique => " UNIQUE"

def ColumnClause.sql (c : ColumnClause) : String :=
  quoteIdent c.name ++ " " ++ c.dataType ++ clause " DEFAULT " c.defaultValue
    ++ (if c.nullable then " NULL" else " NOT NULL")
    ++ (match c.key with
      | none => ""
      | some key => key.sql)
    ++ match c.reference with
      | none => ""
      | some (name, r) => " CONSTRAINT " ++ quoteIdent name ++ " " ++ r.sql

def indexColumns : List String → List String → List String
  | [], _ => []
  | column :: columns, [] => quoteIdent column :: indexColumns columns []
  | column :: columns, opclass :: opclasses =>
    (quoteIdent column ++ " " ++ opclass) :: indexColumns columns opclasses

def ConstraintBody.sql : ConstraintBody → String
  | .check expression => "CHECK (" ++ expression ++ ")"
  | .notNull column => "CHECK (" ++ quoteIdent column ++ " IS NOT NULL)"
  | .unique columns deferrable => "UNIQUE (" ++ quoteColumns columns ++ ")" ++ deferral deferrable
  | .primaryKey columns => "PRIMARY KEY (" ++ quoteColumns columns ++ ")"
  | .foreignKey columns reference =>
    "FOREIGN KEY (" ++ quoteColumns columns ++ ") " ++ reference.sql
  | .exclude expression => "EXCLUDE " ++ expression
  | .usingIndex primary index deferrable =>
    (if primary then "PRIMARY KEY" else "UNIQUE") ++ " USING INDEX " ++ quoteIdent index
      ++ deferral deferrable

def alterColumn (column action : String) : String :=
  "ALTER COLUMN " ++ quoteIdent column ++ " " ++ action

def TableAction.sql : TableAction → String
  | .renameTo name => "RENAME TO " ++ quoteIdent name
  | .setTablespace name => "SET TABLESPACE " ++ quoteIdent name
  | .addColumn column => "ADD COLUMN " ++ column.sql
  | .dropColumn column cascade => "DROP COLUMN " ++ quoteIdent column ++ flag " CASCADE" cascade
  | .renameColumn column newName =>
    "RENAME COLUMN " ++ quoteIdent column ++ " TO " ++ quoteIdent newName
  | .setType column dataType conversion =>
    alterColumn column ("TYPE " ++ dataType ++ clause " USING " conversion)
  | .dropDefault column => alterColumn column "DROP DEFAULT"
  | .setNotNull column => alterColumn column "SET NOT NULL"
  | .dropNotNull column => alterColumn column "DROP NOT NULL"
  | .addConstraint name body notValid =>
    "ADD CONSTRAINT " ++ quoteIdent name ++ " " ++ body.sql ++ flag " NOT VALID" notValid
  | .validateConstraint name => "VALIDATE CONSTRAINT " ++ quoteIdent name
  | .dropConstraint name => "DROP CONSTRAINT " ++ quoteIdent name

def Ddl.sql : Ddl → String
  | .createTable table columns =>
    "CREATE TABLE " ++ quoteIdent table ++ " (" ++ Text.commaSeparated (columns.map ColumnClause.sql) ++ ");"
  | .dropTable table cascade => "DROP TABLE " ++ quoteIdent table ++ flag " CASCADE" cascade ++ ";"
  | .alterTable table action => "ALTER TABLE " ++ quoteIdent table ++ " " ++ action.sql ++ ";"
  | .createIndex index concurrently =>
    "CREATE " ++ flag "UNIQUE " index.unique ++ "INDEX" ++ flag " CONCURRENTLY" concurrently ++ " "
      ++ quoteIdent index.name ++ " ON " ++ quoteIdent index.table
      ++ clause " USING " (index.method.map IndexMethod.word)
      ++ " (" ++ Text.commaSeparated (indexColumns index.columns index.opclasses) ++ ")"
      ++ clause " WHERE " index.condition ++ ";"
  | .dropIndex name concurrently =>
    "DROP INDEX" ++ flag " CONCURRENTLY" concurrently ++ " IF EXISTS " ++ quoteIdent name ++ ";"
  | .markNotNull table column =>
    "UPDATE pg_catalog.pg_attribute SET attnotnull = TRUE WHERE attrelid = "
      ++ quoteLiteral (quoteIdent table) ++ "::regclass::oid AND attname = "
      ++ quoteLiteral column ++ ";"

end OnlineDdl
