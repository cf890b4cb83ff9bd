import OnlineDdl.Run.Connection
import OnlineDdl.Run.Script

/-! A scripted database: a connection whose answers are rows prepared in stages. Each question about
constraints moves on to the next stage. -/

set_option autoImplicit false

namespace OnlineDdl.Rehearsal

structure TableRows where
  constraints : List ConstraintRow
  indexes : List IndexRow
  columns : List ColumnRow

def TableRows.empty : TableRows := ⟨[], [], []⟩

structure Database where
  version : String
  collation : String
  settings : List (String × String)
  -- Rows by quoted table name, one table of them for each stage; the last stage stays.
  stages : List (List (String × TableRows))
  tupleCounts : List (String × Float)
  failQueries : List String
  rejectSql : List String
  rejectCalls : List Nat

namespace Database

def errorText : String := "db error"

def accepts (db : Database) : Bool := !db.failQueries.contains "connect"

def answer {α : Type} (db : Database) (name : String) (a : α) : Query Progress α :=
  if db.failQueries.contains name then throw (.failed errorText) else pure a

def rowsAt (db : Database) (stage : Nat) (regclass : String) : TableRows :=
  (((stayAtLast stage db.stages).getD []).lookup regclass).getD .empty

def currentRows (db : Database) (regclass : String) : StateM Progress TableRows := do
  let progress ← get
  pure (db.rowsAt (progress.loads - 1) regclass)

def constraints (db : Database) (regclass : String) : Query Progress (List ConstraintRow) := do
  let progress ← get
  set { progress with loads := progress.loads + 1 }
  db.answer "constraints" (db.rowsAt progress.loads regclass).constraints

def indexes (db : Database) (regclass : String) : Query Progress (List IndexRow) := do
  let rows ← db.currentRows regclass
  db.answer "indexes" rows.indexes

def columns (db : Database) (regclass : String) : Query Progress (List ColumnRow) := do
  let rows ← db.currentRows regclass
  db.answer "columns" rows.columns

def send (db : Database) (sql : String) : StateM Progress (Except String Unit) := do
  let progress ← get
  set { progress with calls := progress.calls + 1 }
  if db.rejectSql.contains sql || db.rejectCalls.contains progress.calls then
    pure (.error errorText)
  else pure (.ok ())

def connection (db : Database) : Connection Progress where
  serverVersion := db.answer "version" db.version
  collation := db.answer "collate" db.collation
  settings := db.answer "settings" db.settings
  tupleCount regclass := db.answer "reltuples" (db.tupleCounts.lookup regclass)
  constraints := db.constraints
  indexes := db.indexes
  columns := db.columns
  run := db.send

end Database

end OnlineDdl.Rehearsal
