import OnlineDdl.Plan.Compile

/-! Running plans on a server. Statements go one by one, outside any transaction; the first one that
is rejected ends the run, and timeouts that are still set are taken back. -/

set_option autoImplicit false

namespace OnlineDdl

-- Work on a server in some state, which may fail; the state outlives a failure.
abbrev Session (σ : Type) := ExceptT Failure (StateM σ)

structure Host (σ : Type) where
  loadCatalog : List String → Session σ Catalog
  estimateRows : String → Session σ RowEstimate
  run : String → StateM σ (Except String Unit)

structure Execution where
  executedStatements : List String
deriving DecidableEq, Repr

structure Applied where
  compiled : Compiled
  execution : Execution
deriving DecidableEq, Repr

def openAfter (isOpen : Nat) : StatementRole → Nat
  | .timeoutSet => isOpen + 1
  | .timeoutReset => isOpen - 1
  | .ddl => isOpen

def restoreSql : String := "RESET statement_timeout; RESET lock_timeout;"

-- Takes the timeouts back if any is set; a rejection of that changes nothing.
def restore {σ : Type} (host : Host σ) (isOpen : Nat) : StateM σ Unit := do
  if 0 < isOpen then
    let _ ← host.run restoreSql

def runFrom {σ : Type} (host : Host σ) (operation position isOpen : Nat) :
    List Statement → Session σ (List String)
  | [] => pure []
  | s :: rest => do
    match ← host.run s.sql with
    | .error cause =>
      restore host isOpen
      throw (.statementFailed operation position s.sql cause)
    | .ok () =>
      let others ← runFrom host operation (position + 1) (openAfter isOpen s.role) rest
      pure (s.sql :: others)

def runPlan {σ : Type} (host : Host σ) (operation : Nat) (plan : Plan) : Session σ Execution := do
  let accepted ← runFrom host operation 0 0 plan
  pure ⟨accepted⟩

def execute {σ : Type} (host : Host σ) (plan : Plan) : Session σ Execution := runPlan host 0 plan

def applyOne {σ : Type} (host : Host σ) (config : PlannerConfig) (caps : ServerCaps)
    (operation : Nat) (op : Operation) : Session σ Applied := do
  let catalog ← host.loadCatalog [op.table]
  let compiled ← compile config caps catalog host.estimateRows op
  let execution ← runPlan host operation compiled.statements
  pure ⟨compiled, execution⟩

def applyFrom {σ : Type} (host : Host σ) (config : PlannerConfig) (caps : ServerCaps)
    (operation : Nat) : List Operation → Session σ (List Applied)
  | [] => pure []
  | op :: rest => do
    let done ← applyOne host config caps operation op
    let others ← applyFrom host config caps (operation + 1) rest
    pure (done :: others)

def apply {σ : Type} (host : Host σ) (config : PlannerConfig) (caps : ServerCaps)
    (ops : List Operation) : Session σ (List Applied) :=
  applyFrom host config caps 0 ops

end OnlineDdl
