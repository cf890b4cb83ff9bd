import OnlineDdl.Run.Execute

/-! A connection to a live server: the questions it answers about itself and its tables, and what
the answers mean. Tables are asked for by quoted name. -/

set_option autoImplicit false

namespace OnlineDdl

inductive QueryError where
  -- The server answered with an error of its own.
  | failed (text : String)
  -- A column of an answer, counted from zero, holds no value of its type.
  | unreadable (column : Nat)
deriving DecidableEq, Repr

def QueryError.message : QueryError → String
  | .failed text => text
  | .unreadable column => "error deserializing column " ++ toString column

structure ConstraintRow where
  name : Option String
  contype : Option String
  validated : Option Bool
  columns : Option (List String)
  index : Option String
deriving DecidableEq, Repr

structure IndexRow where
  name : Option String
  columns : Option (List String)
  opclasses : Option (List String)
  unique : Option Bool
  primary : Option Bool
  valid : Option Bool
  partitioned : Option Bool
  constraint : Option String
deriving DecidableEq, Repr

structure ColumnRow where
  name : Option String
  dataType : Option String
  notNull : Option Bool
deriving DecidableEq, Repr

def cell {α : Type} (column : Nat) : Option α → Except QueryError α
  | some a => .ok a
  | none => .error (.unreadable column)

-- A constraint of a kind that no rule knows is passed over before the rest of its row is read.
def ConstraintRow.read (row : ConstraintRow) : Except QueryError (Option ConstraintInfo) := do
  let contype ← cell 1 row.contype
  match ConstraintKind.ofContype? contype with
  | none => pure none
  | some kind =>
    let name ← cell 0 row.name
    let columns ← cell 3 row.columns
    let validated ← cell 2 row.validated
    pure (some ⟨name, kind, columns, validated, row.index⟩)

def IndexRow.read (row : IndexRow) : Except QueryError IndexInfo := do
  let name ← cell 0 row.name
  let columns ← cell 1 row.columns
  let opclasses ← cell 2 row.opclasses
  let unique ← cell 3 row.unique
  let primary ← cell 4 row.primary
  let valid ← cell 5 row.valid
  let partitioned ← cell 6 row.partitioned
  pure ⟨name, columns, opclasses, unique, primary, valid, partitioned, row.constraint⟩

def ColumnRow.read (row : ColumnRow) : Except QueryError ColumnInfo := do
  let name ← cell 0 row.name
  let dataType ← cell 1 row.dataType
  let notNull ← cell 2 row.notNull
  pure ⟨name, dataType, notNull⟩

abbrev Query (σ : Type) := ExceptT QueryError (StateM σ)

structure Connection (σ : Type) where
  serverVersion : Query σ String
  collation : Query σ String
  settings : Query σ (List (String × String))
  tupleCount : String → Query σ (Option Float)
  constraints : String → Query σ (List ConstraintRow)
  indexes : String → Query σ (List IndexRow)
  columns : String → Query σ (List ColumnRow)
  run : String → StateM σ (Except String Unit)

def ask {σ α : Type} (query : Query σ α) : Session σ α :=
  ExceptT.mk do
    match ← query.run with
    | .ok a => pure (.ok a)
    | .error e => pure (.error (.database e.message))

def understand {σ α : Type} (rows : Except QueryError α) : Session σ α :=
  match rows with
  | .ok a => pure a
  | .error e => throw (.database e.message)

namespace Connection

variable {σ : Type}

def probeCaps (c : Connection σ) : Session σ ServerCaps := do
  let version ← ask c.serverVersion
  match Text.readNumeral Text.u32Bound (Text.trim version.toList) with
  | none => throw (.internal ("unexpected server_version_num: " ++ version))
  | some n =>
    let collation ← ask c.collation
    pure ⟨UInt32.ofNat n, collation == "C" || collation == "POSIX"⟩

-- A setting that bears on timeouts takes the place of its default; of several the last counts.
def adoptSetting (defaults : SessionDefaults) (setting : String × String) : SessionDefaults :=
  match setting.1 with
  | "statement_timeout" => { defaults with statementTimeout := setting.2 }
  | "lock_timeout" => { defaults with lockTimeout := setting.2 }
  | _ => defaults

def sessionDefaults (c : Connection σ) : Session σ SessionDefaults := do
  let settings ← ask c.settings
  pure (settings.foldl adoptSetting .default)

def estimateRows (c : Connection σ) (table : String) : Session σ RowEstimate := do
  let count ← ask (c.tupleCount (quoteIdent table))
  pure (.ofTupleCount count)

def loadTable (c : Connection σ) (table : String) : Session σ TableEntry := do
  let regclass := quoteIdent table
  let rows ← ask (c.constraints regclass)
  let constraints ← understand (rows.mapM ConstraintRow.read)
  let rows ← ask (c.indexes regclass)
  let indexes ← understand (rows.mapM IndexRow.read)
  let rows ← ask (c.columns regclass)
  let columns ← understand (rows.mapM ColumnRow.read)
  pure ⟨constraints.filterMap id, indexes, columns⟩

def extendCatalog (c : Connection σ) (catalog : Catalog) : List String → Session σ Catalog
  | [] => pure catalog
  | table :: rest =>
    if (catalog.table? table).isSome then extendCatalog c catalog rest
    else do
      let entry ← loadTable c table
      extendCatalog c (catalog.insert table entry) rest

def loadCatalog (c : Connection σ) (tables : List String) : Session σ Catalog :=
  c.extendCatalog .empty tables

def host (c : Connection σ) : Host σ := ⟨c.loadCatalog, c.estimateRows, c.run⟩

end Connection

end OnlineDdl
