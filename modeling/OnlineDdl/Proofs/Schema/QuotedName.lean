import OnlineDdl.Schema.Ddl

/-! The names that a statement quotes. A statement is written once more with the quoting left open; its
text then depends on how these names are quoted, and on no others. -/

set_option autoImplicit false

namespace OnlineDdl

def Reference.quoted (r : Reference) : List String := r.table :: r.columns

def ColumnClause.quoted (c : ColumnClause) : List String :=
  c.name :: match c.reference with
    | none => []
    | some (name, r) => name :: r.quoted

def ConstraintBody.quoted : ConstraintBody → List String
  | .check _ => []
  | .notNull column => [column]
  | .unique columns _ => columns
  | .primaryKey columns => columns
  | .foreignKey columns reference => columns ++ reference.quoted
  | .exclude _ => []
  | .usingIndex _ index _ => [index]

def TableAction.quoted : TableAction → List String
  | .renameTo name => [name]
  | .setTablespace name => [name]
  | .addColumn column => column.quoted
  | .dropColumn column _ => [column]
  | .renameColumn column newName => [column, newName]
  | .setType column _ _ => [column]
  | .dropDefault column => [column]
  | .setNotNull column => [column]
  | .dropNotNull column => [column]
  | .addConstraint name body _ => name :: body.quoted
  | .validateConstraint name => [name]
  | .dropConstraint name => [name]

def Ddl.quoted : Ddl → List String
  | .createTable table columns => table :: columns.flatMap ColumnClause.quoted
  | .dropTable table _ => [table]
  | .alterTable table action => table :: action.quoted
  | .createIndex index _ => index.name :: index.table :: index.columns
  | .dropIndex name _ => [name]
  -- The column stands in a literal and is no quoted name.
  | .markNotNull table _ => [table]

section Writing

variable (quote : String → String)

def columnsWith (columns : List String) : String := Text.commaSeparated (columns.map quote)

def Reference.sqlWith (r : Reference) : String :=
  "REFERENCES " ++ quote r.table ++ " (" ++ columnsWith quote r.columns ++ ")"
    ++ clause " ON DELETE " r.onDelete ++ flag Deferrable.deferred.sql r.deferrable

def ColumnClause.sqlWith (c : ColumnClause) : String :=
  quote c.name ++ " " ++ c.dataType ++ clause " DEFAULT " c.defaultValue
    ++ (if c.nullable then " NULL" else " NOT NULL")
    ++ (match c.key with
      | none => ""
      | some key => key.sql)
    ++ match c.reference with
      | none => ""
      | some (name, r) => " CONSTRAINT " ++ quote name ++ " " ++ r.sqlWith quote

def indexColumnsWith : List String → List String → List String
  | [], _ => []
  | column :: columns, [] => quote column :: indexColumnsWith columns []
  | column :: columns, opclass :: opclasses =>
    (quote column ++ " " ++ opclass) :: indexColumnsWith columns opclasses

def ConstraintBody.sqlWith : ConstraintBody → String
  | .check expression => "CHECK (" ++ expression ++ ")"
  | .notNull column => "CHECK (" ++ quote column ++ " IS NOT NULL)"
  | .unique columns deferrable => "UNIQUE (" ++ columnsWith quote columns ++ ")" ++ deferral deferrable
  | .primaryKey columns => "PRIMARY KEY (" ++ columnsWith quote columns ++ ")"
  | .foreignKey columns reference => "FOREIGN KEY (" ++ columnsWith quote columns ++ ") " ++ reference.sqlWith quote
  | .exclude expression => "EXCLUDE " ++ expression
  | .usingIndex primary index deferrable =>
    (if primary then "PRIMARY KEY" else "UNIQUE") ++ " USING INDEX " ++ quote index ++ deferral deferrable

def alterColumnWith (column action : String) : String := "ALTER COLUMN " ++ quote column ++ " " ++ action

def TableAction.sqlWith : TableAction → String
  | .renameTo name => "RENAME TO " ++ quote name
  | .setTablespace name => "SET TABLESPACE " ++ quote name
  | .addColumn column => "ADD COLUMN " ++ column.sqlWith quote
  | .dropColumn column cascade => "DROP COLUMN " ++ quote column ++ flag " CASCADE" cascade
  | .renameColumn column newName => "RENAME COLUMN " ++ quote column ++ " TO " ++ quote newName
  | .setType column dataType conversion =>
    alterColumnWith quote column ("TYPE " ++ dataType ++ clause " USING " conversion)
  | .dropDefault column => alterColumnWith quote column "DROP DEFAULT"
  | .setNotNull column => alterColumnWith quote column "SET NOT NULL"
  | .dropNotNull column => alterColumnWith quote column "DROP NOT NULL"
  | .addConstraint name body notValid =>
    "ADD CONSTRAINT " ++ quote name ++ " " ++ body.sqlWith quote ++ flag " NOT VALID" notValid
  | .validateConstraint name => "VALIDATE CONSTRAINT " ++ quote name
  | .dropConstraint name => "DROP CONSTRAINT " ++ quote name

def Ddl.sqlWith : Ddl → String
  | .createTable table columns =>
    "CREATE TABLE " ++ quote table ++ " (" ++ Text.commaSeparated (columns.map (ColumnClause.sqlWith quote)) ++ ");"
  | .dropTable table cascade => "DROP TABLE " ++ quote table ++ flag " CASCADE" cascade ++ ";"
  | .alterTable table action => "ALTER TABLE " ++ quote table ++ " " ++ action.sqlWith quote ++ ";"
  | .createIndex index concurrently =>
    "CREATE " ++ flag "UNIQUE " index.unique ++ "INDEX" ++ flag " CONCURRENTLY" concurrently ++ " "
      ++ quote index.name ++ " ON " ++ quote index.table
      ++ clause " USING " (index.method.map IndexMethod.word)
      ++ " (" ++ Text.commaSeparated (indexColumnsWith quote index.columns index.opclasses) ++ ")"
      ++ clause " WHERE " index.condition ++ ";"
  | .dropIndex name concurrently =>
    "DROP INDEX" ++ flag " CONCURRENTLY" concurrently ++ " IF EXISTS " ++ quote name ++ ";"
  | .markNotNull table column =>
    "UPDATE pg_catalog.pg_attribute SET attnotnull = TRUE WHERE attrelid = "
      ++ quoteLiteral (quote table) ++ "::regclass::oid AND attname = "
      ++ quoteLiteral column ++ ";"

end Writing

variable (quote : String → String)

theorem columns_quoted (columns : List String) (alike : ∀ name ∈ columns, quote name = quoteIdent name) :
    columnsWith quote columns = quoteColumns columns :=
  congrArg Text.commaSeparated (List.map_congr_left alike)

theorem index_columns_quoted (columns opclasses : List String)
    (alike : ∀ name ∈ columns, quote name = quoteIdent name) :
    indexColumnsWith quote columns opclasses = indexColumns columns opclasses := by
  induction columns, opclasses using indexColumns.induct with
  | case1 opclasses => rfl
  | case2 column columns ih =>
      obtain ⟨first, others⟩ := List.forall_mem_cons.mp alike
      rw [indexColumnsWith, indexColumns, first, ih others]
  | case3 column columns opclass opclasses ih =>
      obtain ⟨first, others⟩ := List.forall_mem_cons.mp alike
      rw [indexColumnsWith, indexColumns, first, ih others]

theorem reference_quoted (r : Reference) (alike : ∀ name ∈ r.quoted, quote name = quoteIdent name) :
    r.sqlWith quote = r.sql := by
  rw [Reference.quoted, List.forall_mem_cons] at alike
  unfold Reference.sqlWith Reference.sql
  rw [alike.1, columns_quoted quote r.columns alike.2]

theorem column_quoted (c : ColumnClause) (alike : ∀ name ∈ c.quoted, quote name = quoteIdent name) :
    c.sqlWith quote = c.sql := by
  rw [ColumnClause.quoted, List.forall_mem_cons] at alike
  obtain ⟨own, referred⟩ := alike
  unfold ColumnClause.sqlWith ColumnClause.sql
  rw [own]
  congr 1
  cases found : c.reference with
  | none => rfl
  | some named =>
      rw [found, List.forall_mem_cons] at referred
      dsimp only
      rw [referred.1, reference_quoted quote named.2 referred.2]

theorem body_quoted (body : ConstraintBody) (alike : ∀ name ∈ body.quoted, quote name = quoteIdent name) :
    body.sqlWith quote = body.sql := by
  cases body with
  | check expression => rfl
  | exclude expression => rfl
  | notNull column =>
      unfold ConstraintBody.sqlWith ConstraintBody.sql
      dsimp only
      rw [List.forall_mem_singleton.mp alike]
  | usingIndex primary index deferrable =>
      unfold ConstraintBody.sqlWith ConstraintBody.sql
      dsimp only
      rw [List.forall_mem_singleton.mp alike]
  | unique columns deferrable =>
      unfold ConstraintBody.sqlWith ConstraintBody.sql
      dsimp only
      rw [columns_quoted quote columns alike]
  | primaryKey columns =>
      unfold ConstraintBody.sqlWith ConstraintBody.sql
      dsimp only
      rw [columns_quoted quote columns alike]
  | foreignKey columns reference =>
      rw [ConstraintBody.quoted, List.forall_mem_append] at alike
      unfold ConstraintBody.sqlWith ConstraintBody.sql
      dsimp only
      rw [columns_quoted quote columns alike.1, reference_quoted quote reference alike.2]

theorem action_quoted (action : TableAction) (alike : ∀ name ∈ action.quoted, quote name = quoteIdent name) :
    action.sqlWith quote = action.sql := by
  cases action with
  | addColumn column =>
      unfold TableAction.sqlWith TableAction.sql
      dsimp only
      rw [column_quoted quote column alike]
  | renameColumn column newName =>
      rw [TableAction.quoted, List.forall_mem_cons, List.forall_mem_singleton] at alike
      unfold TableAction.sqlWith TableAction.sql
      dsimp only
      rw [alike.1, alike.2]
  | addConstraint name body notValid =>
      rw [TableAction.quoted, List.forall_mem_cons] at alike
      unfold TableAction.sqlWith TableAction.sql
      dsimp only
      rw [alike.1, body_quoted quote body alike.2]
  | setType | dropDefault | setNotNull | dropNotNull =>
      unfold TableAction.sqlWith TableAction.sql alterColumnWith alterColumn
      dsimp only
      rw [List.forall_mem_singleton.mp alike]
  | _ =>
      unfold TableAction.sqlWith TableAction.sql
      dsimp only
      rw [List.forall_mem_singleton.mp alike]

theorem statement_quoted (d : Ddl) (alike : ∀ name ∈ d.quoted, quote name = quoteIdent name) :
    d.sqlWith quote = d.sql := by
  cases d with
  | createTable table columns =>
      rw [Ddl.quoted, List.forall_mem_cons] at alike
      have each : columns.map (ColumnClause.sqlWith quote) = columns.map ColumnClause.sql :=
        List.map_congr_left fun column member =>
          column_quoted quote column fun name known => alike.2 name (List.mem_flatMap.mpr ⟨column, member, known⟩)
      unfold Ddl.sqlWith Ddl.sql
      dsimp only
      rw [alike.1, each]
  | alterTable table action =>
      rw [Ddl.quoted, List.forall_mem_cons] at alike
      unfold Ddl.sqlWith Ddl.sql
      dsimp only
      rw [alike.1, action_quoted quote action alike.2]
  | createIndex index concurrently =>
      rw [Ddl.quoted, List.forall_mem_cons, List.forall_mem_cons] at alike
      obtain ⟨own, table, columns⟩ := alike
      unfold Ddl.sqlWith Ddl.sql
      dsimp only
      rw [own, table, index_columns_quoted quote index.columns index.opclasses columns]
  | _ =>
      unfold Ddl.sqlWith Ddl.sql
      dsimp only
      rw [List.forall_mem_singleton.mp alike]

end OnlineDdl
