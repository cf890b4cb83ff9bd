import OnlineDdl.Safety.NotNull

/-! The settings that planning reads. -/

set_option autoImplicit false

namespace OnlineDdl

structure SessionDefaults where
  statementTimeout : String
  lockTimeout : String
deriving DecidableEq, Repr

def SessionDefaults.default : SessionDefaults := ⟨"0ms", "0ms"⟩

structure PlannerConfig where
  -- Without a value the server's lock timeout stays as it is.
  lockTimeoutMs : Option UInt64
  statementTimeoutMs : Option UInt64
  -- Whether validations and concurrent builds get a statement timeout of their own.
  flexibleStatementTimeout : Bool
  flexibleStatementTimeoutMs : UInt64
  raiseForUnsafe : Bool
  notNullMode : NotNullMode
  sessionDefaults : SessionDefaults
  -- Takes the place of the version that the server reports.
  serverVersion : Option UInt32
deriving DecidableEq, Repr

namespace PlannerConfig

def default : PlannerConfig :=
  ⟨none, none, false, 0, false, .alwaysUseConstraint, SessionDefaults.default, none⟩

def serverCaps (config : PlannerConfig) (caps : ServerCaps) : ServerCaps :=
  match config.serverVersion with
  | some version => { caps with version }
  | none => caps

end PlannerConfig

end OnlineDdl
