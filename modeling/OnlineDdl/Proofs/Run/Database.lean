import OnlineDdl.Proofs.Run.Asking
import OnlineDdl.Proofs.Run.Undisturbed
import OnlineDdl.Run.Database

/-! Scripted databases that answer every question and accept every statement: what they tell of a table
hangs on the stage alone, and so operations leave each other undisturbed. -/

set_option autoImplicit false

namespace OnlineDdl.Rehearsal.Database

variable {α β : Type} (db : Database)

def understood (rows : Except QueryError α) : Except Failure α := rows.mapError fun e => .database e.message

def reading (stage : Nat) (table : String) : Except Failure TableEntry := do
  let rows := db.rowsAt stage (quoteIdent table)
  let constraints ← understood (rows.constraints.mapM ConstraintRow.read)
  let indexes ← understood (rows.indexes.mapM IndexRow.read)
  let columns ← understood (rows.columns.mapM ColumnRow.read)
  pure ⟨constraints.filterMap id, indexes, columns⟩

structure Willing : Prop where
  answers : db.failQueries = []
  acceptsTexts : db.rejectSql = []
  acceptsCalls : db.rejectCalls = []

theorem understand_bind (rows : Except QueryError α) (next : α → Session Progress β) (p : Progress) :
    (understand rows >>= next).run p =
      match understood rows with
      | .error failure => (.error failure, p)
      | .ok a => (next a).run p := by
  cases rows with
  | error e => rfl
  | ok a => rfl

theorem answer_bind (query : Query Progress α) (next : α → Session Progress β) (a : α) (p q : Progress)
    (answered : query.run p = (.ok a, q)) : (ask query >>= next).run p = (next a).run q := by
  have asked : (ask query).run p = (.ok a, q) := by
    rw [ask_run, answered]
    rfl
  exact session_bind_ok _ _ _ _ _ asked

variable (willing : db.Willing)

include willing

theorem answer_run (name : String) (a : α) (p : Progress) : (db.answer name a).run p = (.ok a, p) := by
  rw [answer, willing.answers]
  rfl

theorem constraints_run (regclass : String) (p : Progress) :
    (db.connection.constraints regclass).run p =
      (.ok (db.rowsAt p.loads regclass).constraints, { p with loads := p.loads + 1 }) :=
  db.answer_run willing "constraints" _ { p with loads := p.loads + 1 }

theorem indexes_run (regclass : String) (p : Progress) :
    (db.connection.indexes regclass).run p = (.ok (db.rowsAt (p.loads - 1) regclass).indexes, p) :=
  db.answer_run willing "indexes" _ p

theorem columns_run (regclass : String) (p : Progress) :
    (db.connection.columns regclass).run p = (.ok (db.rowsAt (p.loads - 1) regclass).columns, p) :=
  db.answer_run willing "columns" _ p

theorem load_table_reads (table : String) (p : Progress) :
    (db.connection.loadTable table).run p = (db.reading p.loads table, { p with loads := p.loads + 1 }) := by
  rw [Connection.loadTable, answer_bind _ _ _ _ _ (db.constraints_run willing (quoteIdent table) p), understand_bind,
    reading]
  cases understood ((db.rowsAt p.loads (quoteIdent table)).constraints.mapM ConstraintRow.read) with
  | error failure => rfl
  | ok constraints =>
      dsimp only
      rw [answer_bind _ _ _ _ _ (db.indexes_run willing (quoteIdent table) _), understand_bind, Nat.add_sub_cancel]
      cases understood ((db.rowsAt p.loads (quoteIdent table)).indexes.mapM IndexRow.read) with
      | error failure => rfl
      | ok indexes =>
          dsimp only
          rw [answer_bind _ _ _ _ _ (db.columns_run willing (quoteIdent table) _), understand_bind, Nat.add_sub_cancel]
          cases understood ((db.rowsAt p.loads (quoteIdent table)).columns.mapM ColumnRow.read) with
          | error failure => rfl
          | ok columns => rfl

theorem told_reads (tables : List String) (p : Progress) (calls : Nat) :
    db.connection.told tables { p with calls } = db.connection.told tables p := by
  induction tables generalizing p with
  | nil => rfl
  | cons table rest ih =>
      rw [Connection.told, Connection.told, db.load_table_reads willing, db.load_table_reads willing]
      exact congrArg _ (ih { p with loads := p.loads + 1 })

theorem estimate_rows_run (table : String) (p : Progress) :
    (db.connection.estimateRows table).run p =
      (.ok (.ofTupleCount (db.tupleCounts.lookup (quoteIdent table))), p) :=
  answer_bind _ _ _ p p (db.answer_run willing "reltuples" _ p)

theorem send_accepts (sql : String) (p : Progress) :
    db.connection.run sql p = (.ok (), { p with calls := p.calls + 1 }) := by
  change (if db.rejectSql.contains sql || db.rejectCalls.contains p.calls then
    (pure (.error errorText) : StateM Progress (Except String Unit)) else pure (.ok ())) _ = _
  rw [willing.acceptsTexts, willing.acceptsCalls]
  rfl

theorem willing_undisturbed (ops : List Operation)
    (readable : ∀ op ∈ ops, ∀ stage, ∃ entry, db.reading stage op.table = .ok entry) :
    Undisturbed db.connection ops := by
  have counted (table : String) (p : Progress) : db.connection.counted table p =
      some (.ofTupleCount (db.tupleCounts.lookup (quoteIdent table))) := by
    rw [Connection.counted, db.estimate_rows_run willing]
    rfl
  exact
    { answered := fun op member p => by
        obtain ⟨entry, reads⟩ := readable op member p.loads
        exact ⟨entry, _, by rw [db.load_table_reads willing, reads]⟩
      estimated := fun op _ p => ⟨_, p, db.estimate_rows_run willing op.table p⟩
      accepted := fun _ _ sql _ p => ⟨_, db.send_accepts willing sql p⟩
      loadCounts := fun _ _ table p => (counted table _).trans (counted table p).symm
      estimateTells := fun op _ tables p => by rw [db.estimate_rows_run willing op.table p]
      estimateCounts := fun _ _ table p => (counted table _).trans (counted table p).symm
      sentTells := fun _ _ sql _ tables _ p => by
        rw [db.send_accepts willing sql p]
        exact db.told_reads willing tables p _
      sentCounts := fun _ _ _ _ table _ p => (counted table _).trans (counted table p).symm }

end OnlineDdl.Rehearsal.Database
