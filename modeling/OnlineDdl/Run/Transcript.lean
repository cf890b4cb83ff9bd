import OnlineDdl.Run.Connection

/-! Transcripts: what was asked of a server and sent to it, in order. A recorded server behaves like
the one it records and keeps the transcript beside its state. -/

set_option autoImplicit false

namespace OnlineDdl

inductive Event where
  | load (tables : List String)
  | probe (table : String)
  | query (name : String) (parameter : Option String)
  | run (sql : String) (accepted : Bool)
deriving DecidableEq, Repr

abbrev Recorded (σ : Type) := σ × List Event

namespace Transcript

variable {σ α : Type}

def noting (event : α → Event) (action : StateM σ α) : StateM (Recorded σ) α := fun (s, events) =>
  let (a, s) := action s
  (a, (s, events ++ [event a]))

def notingRun (send : String → StateM σ (Except String Unit)) (sql : String) :
    StateM (Recorded σ) (Except String Unit) :=
  noting (fun outcome => .run sql outcome.toBool) (send sql)

def notingSession (event : Event) (session : Session σ α) : Session (Recorded σ) α :=
  ExceptT.mk (noting (fun _ => event) session.run)

def notingQuery (name : String) (parameter : Option String) (query : Query σ α) :
    Query (Recorded σ) α :=
  ExceptT.mk (noting (fun _ => .query name parameter) query.run)

end Transcript

open Transcript

def Host.recorded {σ : Type} (host : Host σ) : Host (Recorded σ) where
  loadCatalog tables := notingSession (.load tables) (host.loadCatalog tables)
  estimateRows table := notingSession (.probe table) (host.estimateRows table)
  run := notingRun host.run

def Connection.recorded {σ : Type} (c : Connection σ) : Connection (Recorded σ) where
  serverVersion := notingQuery "version" none c.serverVersion
  collation := notingQuery "collate" none c.collation
  settings := notingQuery "settings" none c.settings
  tupleCount table := notingQuery "reltuples" (some table) (c.tupleCount table)
  constraints table := notingQuery "constraints" (some table) (c.constraints table)
  indexes table := notingQuery "indexes" (some table) (c.indexes table)
  columns table := notingQuery "columns" (some table) (c.columns table)
  run := notingRun c.run

def transcribe {σ α : Type} (session : Session (Recorded σ) α) (s : σ) :
    Except Failure α × List Event :=
  let (outcome, (_, events)) := session.run (s, [])
  (outcome, events)

end OnlineDdl
