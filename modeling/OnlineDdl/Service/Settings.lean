import OnlineDdl.Service.Environment
import OnlineDdl.Text.Utf8
import OnlineDdl.Url.Basic

/-! The settings of the service: where it listens, the target database, the origins it serves, and
the planner settings. -/

set_option autoImplicit false

namespace OnlineDdl

structure TargetDatabase where
  url : String
  host : String
  database : String
  maxPoolSize : Nat
  requireTls : Bool
deriving DecidableEq, Repr

structure Settings where
  host : List Nat
  port : Nat
  database : Option TargetDatabase
  allowedOrigins : List String
  planner : PlannerConfig
deriving DecidableEq, Repr

namespace Settings

def asksForTls (pair : List UInt8 × List UInt8) : Bool :=
  pair.1 == Text.utf8 "sslmode".toList
    && (pair.2 == Text.utf8 "require".toList || pair.2 == Text.utf8 "verify-full".toList)

-- The database that a URL addresses. Hosts of one provider always need encryption.
def databaseOfUrl (raw : String) (maxPoolSize : Nat) : Except ConfigError TargetDatabase :=
  match Url.parse? raw with
  | none => .error .urlFormat
  | some url =>
    if url.scheme = "postgres" ∨ url.scheme = "postgresql" then
      match url.host with
      | none => .error .urlHost
      | some host =>
        .ok
          { url := raw
            host
            database := String.ofList (url.path.toList.dropWhile (· == '/'))
            maxPoolSize
            requireTls :=
              Text.occursIn "neon.tech".toList host.toList || url.queryPairs.any asksForTls }
    else .error (.urlScheme url.scheme)

-- A bad number counts as none.
def numberOr (env : Environment) (key : String) (bound default : Nat) : Nat :=
  ((env key).bind fun raw => Text.readNumeral bound raw.toList).getD default

-- The settings in the environment. A bad address of the database is reported before any bad setting
-- of the planner.
def load (env : Environment) : Except ConfigError Settings := do
  let host := ((env "HOST").bind fun raw => Url.dottedQuad? raw.toList).getD [0, 0, 0, 0]
  let port := numberOr env "PORT" Text.u16Bound 3000
  let database ← match env "DATABASE_URL" with
    | none => .ok none
    | some raw =>
      (databaseOfUrl raw (numberOr env "DB_MAX_CONNECTIONS" Text.u64Bound 10)).map some
  let allowedOrigins := match env "ALLOWED_ORIGINS" with
    | none => ["http://localhost:3001"]
    | some raw =>
      (Text.pieces (· == ',') raw.toList).map fun piece => String.ofList (Text.trim piece)
  let planner ← env.plannerConfig
  .ok { host, port, database, allowedOrigins, planner }

end Settings

end OnlineDdl
