import OnlineDdl.Run.Connection
import OnlineDdl.Service.Request

/-! Answering requests: planning from what the request says, planning for the target database, and
running operations on it. -/

set_option autoImplicit false

namespace OnlineDdl

structure PlanResponse where
  server : ServerCaps
  operations : List Compiled
deriving DecidableEq, Repr

structure ExecuteResponse where
  plan : PlanResponse
  executions : List Execution
deriving DecidableEq, Repr

-- The target database: none at all, one that refuses connections, or a connection to it.
inductive Target (σ : Type) where
  | absent
  | refusing (text : String)
  | connected (connection : Connection σ)

namespace Service

variable {σ : Type}

def connect : Target σ → Session σ (Connection σ)
  | .absent =>
    throw (.notConnected
      "No target database configured. Set DATABASE_URL to plan live or execute.")
  | .refusing text => throw (.pool ("Error occurred while creating a new object: " ++ text))
  | .connected connection => pure connection

def validate (request : PlanRequest) : Session σ Unit :=
  match request.fault? with
  | none => pure ()
  | some fault => throw (.validation fault.message)

def planOffline (config : PlannerConfig) (request : PlanRequest) : Session σ PlanResponse := do
  let caps := request.server.getD .default
  let estimateRows := fun table => pure (givenRows request.rowEstimates table)
  let compiled ←
    compileAll config caps (request.catalog.getD .empty) estimateRows request.operations
  pure ⟨config.serverCaps caps, compiled⟩

-- The settings for a request on a connection: those it brings, or else those of the service with
-- the session settings of the server.
def liveConfig (planner : PlannerConfig) (request : PlanRequest) (c : Connection σ) :
    Session σ PlannerConfig :=
  match request.config with
  | some config => pure config
  | none => do
    let sessionDefaults ← c.sessionDefaults
    pure { planner with sessionDefaults }

def planLive (planner : PlannerConfig) (request : PlanRequest) (c : Connection σ) :
    Session σ PlanResponse := do
  let caps ← c.probeCaps
  let config ← liveConfig planner request c
  let catalog ← match request.catalog with
    | some catalog => pure catalog
    | none => c.loadCatalog (distinctTables request.operations)
  let compiled ← compileAll config caps catalog c.estimateRows request.operations
  pure ⟨config.serverCaps caps, compiled⟩

def plan (planner : PlannerConfig) (target : Target σ) (request : PlanRequest) :
    Session σ PlanResponse := do
  validate request
  if request.live then
    let c ← connect target
    planLive planner request c
  else planOffline (request.config.getD planner) request

def execute (planner : PlannerConfig) (target : Target σ) (request : PlanRequest) :
    Session σ ExecuteResponse := do
  validate request
  let c ← connect target
  let caps ← c.probeCaps
  let config ← liveConfig planner request c
  let applied ← apply c.host config caps request.operations
  pure
    ⟨⟨config.serverCaps caps, applied.map (·.compiled)⟩, applied.map (·.execution)⟩

end Service

end OnlineDdl
