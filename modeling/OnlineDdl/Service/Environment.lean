import OnlineDdl.Safety.Config

/-! Planner settings from environment variables. A blank variable counts as unset, except for the
two texts that session settings go back to, which are taken as they are. -/

set_option autoImplicit false

namespace OnlineDdl

abbrev Environment := String → Option String

inductive ConfigError where
  | malformed (key raw : String)
  | urlFormat
  | urlScheme (scheme : String)
  | urlHost
deriving DecidableEq, Repr

namespace ConfigError

def detail : ConfigError → String
  | .malformed key raw => key ++ "=" ++ raw
  | .urlFormat => "Invalid DATABASE_URL format (expected postgresql://...)"
  | .urlScheme scheme => "Unsupported DATABASE_URL scheme: " ++ scheme
  | .urlHost => "Missing host in DATABASE_URL"

def message (e : ConfigError) : String := "Invalid configuration value: " ++ e.detail

end ConfigError

namespace Environment

def read {α : Type} (env : Environment) (key : String) (parse : List Char → Option α) :
    Except ConfigError (Option α) :=
  match env key with
  | none => .ok none
  | some raw =>
    let value := Text.trim raw.toList
    if value.isEmpty then .ok none
    else
      match parse value with
      | some a => .ok (some a)
      | none => .error (.malformed key raw)

def uint64? (s : List Char) : Option UInt64 :=
  (Text.readNumeral Text.u64Bound s).map UInt64.ofNat

def uint32? (s : List Char) : Option UInt32 :=
  (Text.readNumeral Text.u32Bound s).map UInt32.ofNat

def bool? (s : List Char) : Option Bool :=
  if s = "true".toList then some true
  else if s = "false".toList then some false
  else none

def notNullMode? (s : List Char) : Option NotNullMode := NotNullMode.parse? (String.ofList s)

-- The planner settings; of several malformed variables the first one read is reported.
def plannerConfig (env : Environment) : Except ConfigError PlannerConfig := do
  let defaults := PlannerConfig.default
  let lockTimeoutMs ← env.read "ZDM_LOCK_TIMEOUT_MS" uint64?
  let statementTimeoutMs ← env.read "ZDM_STATEMENT_TIMEOUT_MS" uint64?
  let flexible ← env.read "ZDM_FLEXIBLE_STATEMENT_TIMEOUT" bool?
  let flexibleMs ← env.read "ZDM_FLEXIBLE_STATEMENT_TIMEOUT_MS" uint64?
  let raiseForUnsafe ← env.read "ZDM_RAISE_FOR_UNSAFE" bool?
  let notNullMode ← env.read "ZDM_NOT_NULL_MODE" notNullMode?
  let serverVersion ← env.read "ZDM_SERVER_VERSION" uint32?
  .ok
    { lockTimeoutMs
      statementTimeoutMs
      flexibleStatementTimeout := flexible.getD defaults.flexibleStatementTimeout
      flexibleStatementTimeoutMs := flexibleMs.getD defaults.flexibleStatementTimeoutMs
      raiseForUnsafe := raiseForUnsafe.getD defaults.raiseForUnsafe
      notNullMode := notNullMode.getD defaults.notNullMode
      sessionDefaults :=
        { statementTimeout :=
            (env "ZDM_RESET_STATEMENT_TIMEOUT").getD defaults.sessionDefaults.statementTimeout
          lockTimeout := (env "ZDM_RESET_LOCK_TIMEOUT").getD defaults.sessionDefaults.lockTimeout }
      serverVersion }

end Environment

end OnlineDdl
