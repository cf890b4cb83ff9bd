import OnlineDdl.Failure
import OnlineDdl.Plan.Stepwise
import OnlineDdl.Plan.Timeout
import OnlineDdl.Safety.Policy

/-! From an operation to the statements to run: the verdict, the policy, the plan and the timeouts. -/

set_option autoImplicit false

namespace OnlineDdl

structure Compiled where
  operation : String
  table : String
  classification : Classification
  action : Action
  strategy : Option NotNullStrategy
  baseSql : List String
  -- The statements to run, timeouts included.
  statements : Plan
deriving DecidableEq, Repr

def Compiled.warning? (c : Compiled) : Option String := c.action.warning?

def warnings (compiled : List Compiled) : List String := compiled.filterMap Compiled.warning?

def needsRowEstimate (op : Operation) (config : PlannerConfig) : Bool :=
  match op with
  | .setNotNull .. => config.notNullMode.needsRowEstimate
  | _ => false

-- Compiles an operation for a server of known capabilities. An operation without a safe form
-- becomes its baseline or, where the policy is strict, a failure.
def compileWith (op : Operation) (config : PlannerConfig) (caps : ServerCaps)
    (catalog : Catalog) (rows : RowEstimate) : Except Failure Compiled := do
  let decision := judge op config caps rows
  let base ← orPrecondition (Baseline.forCatalog op caps catalog)
  let baseSql := base.map fun step => step.change.sql
  let action := enforce decision.classification config
  let steps ← match action with
    | .abort reason => .error (.unsafeOperation reason baseSql)
    | .proceedWithWarning _ => .ok base
    | .proceed => orPrecondition (Stepwise.forCatalog op decision caps catalog)
  .ok
    { operation := op.kindName
      table := op.table
      classification := decision.classification
      action
      strategy := decision.notNull
      baseSql
      statements := Timeout.wrap config (Plan.ofSteps steps) }

-- Compiles an operation against a catalog, asking for the size of its table only where the plan
-- depends on it. The configured server version takes the place of the given one.
def compile {m : Type → Type} [Monad m] [MonadExceptOf Failure m] (config : PlannerConfig)
    (caps : ServerCaps) (catalog : Catalog) (estimateRows : String → m RowEstimate)
    (op : Operation) : m Compiled := do
  let rows ← if needsRowEstimate op config then estimateRows op.table else pure .unknown
  match compileWith op config (config.serverCaps caps) catalog rows with
  | .ok compiled => pure compiled
  | .error failure => throw failure

def compileAll {m : Type → Type} [Monad m] [MonadExceptOf Failure m] (config : PlannerConfig)
    (caps : ServerCaps) (catalog : Catalog) (estimateRows : String → m RowEstimate) :
    List Operation → m (List Compiled)
  | [] => pure []
  | op :: rest => do
    let compiled ← compile config caps catalog estimateRows op
    let others ← compileAll config caps catalog estimateRows rest
    pure (compiled :: others)

def givenRows (estimates : List (String × UInt64)) (table : String) : RowEstimate :=
  match estimates.lookup table with
  | some rows => .known rows
  | none => .unknown

end OnlineDdl
