import OnlineDdl.Plan.Statement
import OnlineDdl.Safety.Config

/-! Timeouts around statements. Neighbours that need the same settings share a region; statements
that no timeout may bound stand between regions. -/

set_option autoImplicit false

namespace OnlineDdl.Timeout

inductive Region where
  -- A lock timeout and a statement timeout.
  | standard
  -- A statement timeout alone.
  | flexible
deriving DecidableEq, Repr

def regionOf (config : PlannerConfig) (s : Statement) : Option Region :=
  if s.isDdl then
    match s.timeout with
    | .wrapped =>
      if config.statementTimeoutMs.isSome || config.lockTimeoutMs.isSome then some .standard
      else none
    | .flexibleWrapped => if config.flexibleStatementTimeout then some .flexible else none
    | .unwrapped => none
  else none

inductive Parameter where
  | statementTimeout
  | lockTimeout
deriving DecidableEq, Repr

def Parameter.word : Parameter → String
  | .statementTimeout => "statement_timeout"
  | .lockTimeout => "lock_timeout"

structure Setting where
  parameter : Parameter
  value : String
deriving DecidableEq, Repr

def Setting.sql (s : Setting) : String := "SET " ++ s.parameter.word ++ " TO '" ++ s.value ++ "';"

def millis (n : UInt64) : String := toString n.toNat ++ "ms"

def opening (config : PlannerConfig) : Region → List Setting
  | .standard =>
    (config.statementTimeoutMs.toList.map fun ms => ⟨.statementTimeout, millis ms⟩)
      ++ config.lockTimeoutMs.toList.map fun ms => ⟨.lockTimeout, millis ms⟩
  | .flexible => [⟨.statementTimeout, millis config.flexibleStatementTimeoutMs⟩]

def restored (config : PlannerConfig) : Parameter → Setting
  | .statementTimeout => ⟨.statementTimeout, config.sessionDefaults.statementTimeout⟩
  | .lockTimeout => ⟨.lockTimeout, config.sessionDefaults.lockTimeout⟩

def closing (config : PlannerConfig) : Region → List Setting
  | .standard =>
    (if config.statementTimeoutMs.isSome then [restored config .statementTimeout] else [])
      ++ if config.lockTimeoutMs.isSome then [restored config .lockTimeout] else []
  | .flexible => [restored config .statementTimeout]

def openAll (config : PlannerConfig) (region : Option Region) : List Statement :=
  (region.toList.flatMap (opening config)).map fun s => .session s.sql .timeoutSet

def closeAll (config : PlannerConfig) (region : Option Region) : List Statement :=
  (region.toList.flatMap (closing config)).map fun s => .session s.sql .timeoutReset

def wrapFrom (config : PlannerConfig) (current : Option Region) : List Statement → List Statement
  | [] => closeAll config current
  | s :: rest =>
    let next := regionOf config s
    if next = current then s :: wrapFrom config current rest
    else closeAll config current ++ openAll config next ++ s :: wrapFrom config next rest

def wrap (config : PlannerConfig) (plan : Plan) : Plan := wrapFrom config none plan

end OnlineDdl.Timeout
