import OnlineDdl.Schema.Ddl
import OnlineDdl.Proofs.Text.Quoted

/-! How statements begin. The first words of a statement tell what kind of schema change it is, and whether
an index is built or dropped beside other work. -/

set_option autoImplicit false

namespace OnlineDdl

def Begins (lead text : String) : Prop := ∃ rest, text = lead ++ rest

def Comparable (a b : String) : Prop := a.toList <+: b.toList ∨ b.toList <+: a.toList

instance (a b : String) : Decidable (Comparable a b) := inferInstanceAs (Decidable (_ ∨ _))

theorem begins_iff (lead text : String) : Begins lead text ↔ lead.toList <+: text.toList := by
  constructor
  · rintro ⟨rest, rfl⟩
    rw [String.toList_append]
    exact List.prefix_append _ _
  · rintro ⟨rest, same⟩
    exact ⟨String.ofList rest, String.toList_inj.mp (by rw [String.toList_append, String.toList_ofList, same])⟩

theorem begins_comparable (a b text : String) (one : Begins a text) (other : Begins b text) : Comparable a b :=
  List.prefix_or_prefix_of_prefix ((begins_iff a text).mp one) ((begins_iff b text).mp other)

def CreatesConcurrently (sql : String) : Prop :=
  Begins "CREATE INDEX CONCURRENTLY" sql ∨ Begins "CREATE UNIQUE INDEX CONCURRENTLY" sql

def DropsConcurrently (sql : String) : Prop := Begins "DROP INDEX CONCURRENTLY" sql

def Validates (sql : String) : Prop := ∃ table name, sql = (Ddl.alterTable table (.validateConstraint name)).sql

def TableAction.lead : TableAction → String
  | .renameTo _ => "RENAME TO "
  | .setTablespace _ => "SET TABLESPACE "
  | .addColumn _ => "ADD COLUMN "
  | .dropColumn _ _ => "DROP COLUMN "
  | .renameColumn _ _ => "RENAME COLUMN "
  | .setType _ _ _ => "ALTER COLUMN "
  | .dropDefault _ => "ALTER COLUMN "
  | .setNotNull _ => "ALTER COLUMN "
  | .dropNotNull _ => "ALTER COLUMN "
  | .addConstraint _ _ _ => "ADD CONSTRAINT "
  | .validateConstraint _ => "VALIDATE CONSTRAINT "
  | .dropConstraint _ => "DROP CONSTRAINT "

inductive Opening where
  | createTable
  | dropTable
  | alterTable
  | createIndex (unique concurrently : Bool)
  | dropIndex (concurrently : Bool)
  | markNotNull
deriving DecidableEq, Repr

def Opening.lead : Opening → String
  | .createTable => "CREATE TABLE "
  | .dropTable => "DROP TABLE "
  | .alterTable => "ALTER TABLE "
  | .createIndex unique concurrently =>
    "CREATE " ++ flag "UNIQUE " unique ++ "INDEX" ++ flag " CONCURRENTLY" concurrently ++ " " ++ "\""
  | .dropIndex concurrently => "DROP INDEX" ++ flag " CONCURRENTLY" concurrently ++ " IF EXISTS "
  | .markNotNull => "UPDATE pg_catalog.pg_attribute SET attnotnull = TRUE WHERE attrelid = "

def Ddl.opening : Ddl → Opening
  | .createTable _ _ => .createTable
  | .dropTable _ _ => .dropTable
  | .alterTable _ _ => .alterTable
  | .createIndex index concurrently => .createIndex index.unique concurrently
  | .dropIndex _ concurrently => .dropIndex concurrently
  | .markNotNull _ _ => .markNotNull

theorem begins_ahead (lead rest : String) : Begins lead (lead ++ rest) := ⟨rest, rfl⟩

theorem begins_of (lead longer text : String) (shorter : Begins lead longer) (begins : Begins longer text) :
    Begins lead text := by
  obtain ⟨rest, rfl⟩ := shorter
  obtain ⟨others, rfl⟩ := begins
  exact ⟨rest ++ others, String.append_assoc⟩

theorem begins_more (lead text more : String) (begins : Begins lead text) : Begins lead (text ++ more) := by
  obtain ⟨rest, rfl⟩ := begins
  exact ⟨rest ++ more, String.append_assoc⟩

theorem begins_after (front lead text : String) (begins : Begins lead text) :
    Begins (front ++ lead) (front ++ text) := by
  obtain ⟨rest, rfl⟩ := begins
  exact ⟨rest, String.append_assoc.symm⟩

theorem quote_ident_begins (name : String) : Begins "\"" (quoteIdent name) := by
  refine (begins_iff _ _).mpr ⟨Text.double '"' name.toList ++ ['"'], ?_⟩
  simp [quoteIdent, Text.enclose]

theorem alter_column_begins (column action : String) : Begins "ALTER COLUMN " (alterColumn column action) :=
  begins_more _ _ _ (begins_more _ _ _ (begins_ahead _ _))

theorem action_begins (action : TableAction) : Begins action.lead action.sql := by
  cases action with
  | setType column dataType conversion => exact alter_column_begins _ _
  | dropDefault column => exact alter_column_begins _ _
  | setNotNull column => exact alter_column_begins _ _
  | dropNotNull column => exact alter_column_begins _ _
  | dropColumn column cascade => exact begins_more _ _ _ (begins_ahead _ _)
  | renameColumn column newName => exact begins_more _ _ _ (begins_more _ _ _ (begins_ahead _ _))
  | addConstraint name body notValid =>
      exact begins_more _ _ _ (begins_more _ _ _ (begins_more _ _ _ (begins_ahead _ _)))
  | _ => exact begins_ahead _ _

theorem create_index_begins (index : IndexSpec) (concurrently : Bool) :
    Begins (Ddl.createIndex index concurrently).opening.lead (Ddl.createIndex index concurrently).sql := by
  have named := begins_after
    ("CREATE " ++ flag "UNIQUE " index.unique ++ "INDEX" ++ flag " CONCURRENTLY" concurrently ++ " ") _ _
    (quote_ident_begins index.name)
  iterate 8 apply begins_more
  exact named

theorem ddl_begins (change : Ddl) : Begins change.opening.lead change.sql := by
  cases change with
  | createTable table columns =>
      exact begins_more _ _ _ (begins_more _ _ _ (begins_more _ _ _ (begins_ahead _ _)))
  | dropTable table cascade => exact begins_more _ _ _ (begins_more _ _ _ (begins_ahead _ _))
  | alterTable table action =>
      exact begins_more _ _ _ (begins_more _ _ _ (begins_more _ _ _ (begins_ahead _ _)))
  | createIndex index concurrently => exact create_index_begins index concurrently
  | dropIndex name concurrently => exact begins_more _ _ _ (begins_ahead _ _)
  | markNotNull table column =>
      exact begins_more _ _ _ (begins_more _ _ _ (begins_more _ _ _ (begins_ahead _ _)))

theorem ddl_comparable (change : Ddl) (lead : String) (begins : Begins lead change.sql) :
    Comparable change.opening.lead lead :=
  begins_comparable _ _ _ (ddl_begins change) begins

theorem creating_opening (opening : Opening) :
    (Comparable opening.lead "CREATE INDEX CONCURRENTLY" ∨
      Comparable opening.lead "CREATE UNIQUE INDEX CONCURRENTLY") ↔
        ∃ unique, opening = .createIndex unique true := by
  cases opening with
  | createIndex unique concurrently => cases unique <;> cases concurrently <;> decide
  | dropIndex concurrently => cases concurrently <;> decide
  | _ => decide

theorem dropping_opening (opening : Opening) :
    Comparable opening.lead "DROP INDEX CONCURRENTLY" ↔ opening = .dropIndex true := by
  cases opening with
  | createIndex unique concurrently => cases unique <;> cases concurrently <;> decide
  | dropIndex concurrently => cases concurrently <;> decide
  | _ => decide

theorem creates_concurrently_iff (change : Ddl) :
    CreatesConcurrently change.sql ↔ ∃ index, change = .createIndex index true := by
  constructor
  · intro creates
    obtain ⟨unique, opened⟩ := (creating_opening change.opening).mp
      (creates.imp (ddl_comparable change _) (ddl_comparable change _))
    cases change with
    | createIndex index concurrently =>
        cases opened
        exact ⟨index, rfl⟩
    | _ => cases opened
  · rintro ⟨index, rfl⟩
    have begins := ddl_begins (.createIndex index true)
    rw [Ddl.opening] at begins
    cases unique : index.unique <;> rw [unique] at begins
    · exact .inl (begins_of _ _ _ ⟨" \"", by decide⟩ begins)
    · exact .inr (begins_of _ _ _ ⟨" \"", by decide⟩ begins)

theorem drops_concurrently_iff (change : Ddl) :
    DropsConcurrently change.sql ↔ ∃ name, change = .dropIndex name true := by
  constructor
  · intro drops
    have opened := (dropping_opening change.opening).mp (ddl_comparable change _ drops)
    cases change with
    | dropIndex name concurrently =>
        cases opened
        exact ⟨name, rfl⟩
    | _ => cases opened
  · rintro ⟨name, rfl⟩
    have begins := ddl_begins (.dropIndex name true)
    exact begins_of _ (Opening.dropIndex true).lead _ ⟨" IF EXISTS ", by decide⟩ begins

theorem alteration_apart (table other : String) (action next : TableAction)
    (same : (Ddl.alterTable table action).sql = (Ddl.alterTable other next).sql) :
    table = other ∧ action.sql = next.sql := by
  have split (table : String) (action : TableAction) : (Ddl.alterTable table action).sql.toList =
      "ALTER TABLE ".toList ++ (Text.enclose '"' table.toList ++ (' ' :: (action.sql.toList ++ [';']))) := by
    change ("ALTER TABLE " ++ quoteIdent table ++ " " ++ action.sql ++ ";").toList = _
    simp [quoteIdent]
  have texts := congrArg String.toList same
  rw [split, split] at texts
  obtain ⟨tables, actions⟩ := Text.enclosed_apart '"' _ _ _ _ (by simp) (by simp) (List.append_cancel_left texts)
  refine ⟨String.toList_inj.mp tables, String.toList_inj.mp ?_⟩
  exact List.append_cancel_right (List.cons.inj actions).2

theorem altering_opening (opening : Opening) : Comparable opening.lead "ALTER TABLE " ↔ opening = .alterTable := by
  cases opening with
  | createIndex unique concurrently => cases unique <;> cases concurrently <;> decide
  | dropIndex concurrently => cases concurrently <;> decide
  | _ => decide

theorem validating_action (action : TableAction) (begins : Begins "VALIDATE CONSTRAINT " action.sql) :
    ∃ name, action = .validateConstraint name := by
  have alike := begins_comparable _ _ _ (action_begins action) begins
  cases action with
  | validateConstraint name => exact ⟨name, rfl⟩
  | _ =>
      dsimp only [TableAction.lead] at alike
      exact absurd alike (by decide)

theorem validates_iff (change : Ddl) :
    Validates change.sql ↔ ∃ table name, change = .alterTable table (.validateConstraint name) := by
  constructor
  · rintro ⟨table, name, same⟩
    have opened := (altering_opening change.opening).mp
      (ddl_comparable change _ (same ▸ ddl_begins (.alterTable table (.validateConstraint name))))
    cases change with
    | alterTable other action =>
        obtain ⟨-, texts⟩ := alteration_apart other table action _ same
        obtain ⟨validated, rfl⟩ := validating_action action (texts ▸ begins_ahead _ _)
        exact ⟨other, validated, rfl⟩
    | _ => cases opened
  · rintro ⟨table, name, rfl⟩
    exact ⟨table, name, rfl⟩

end OnlineDdl
