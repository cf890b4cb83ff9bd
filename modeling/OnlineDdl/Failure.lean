import OnlineDdl.Change.Precondition
import OnlineDdl.Safety.Verdict

/-! Everything that can go wrong while a request is answered, and the words for it. -/

set_option autoImplicit false

namespace OnlineDdl

inductive Failure where
  -- Refused before anything was sent; the statements are those of the baseline.
  | unsafeOperation (reason : UnsafeReason) (statements : List String)
  | precondition (cause : Precondition)
  -- The server rejected a statement; both positions count from zero.
  | statementFailed (operation position : Nat) (sql cause : String)
  | database (text : String)
  | pool (text : String)
  | notConnected (text : String)
  | validation (text : String)
  | badRequest (text : String)
  | internal (text : String)
deriving DecidableEq, Repr

namespace Failure

def message : Failure → String
  | .unsafeOperation reason _ => reason.message
  | .precondition cause => "Planner precondition failed: " ++ cause.message
  | .statementFailed operation position _ cause =>
    "Operation " ++ toString operation ++ ", statement " ++ toString position ++ " failed: " ++ cause
  | .database text => "Database error: " ++ text
  | .pool text => "Pool error: " ++ text
  | .notConnected text => "Connection not established: " ++ text
  | .validation text => "Validation error: " ++ text
  | .badRequest text => "Bad request: " ++ text
  | .internal text => "Internal error: " ++ text

end Failure

def orPrecondition {α : Type} : Except Precondition α → Except Failure α
  | .ok a => .ok a
  | .error cause => .error (.precondition cause)

end OnlineDdl
