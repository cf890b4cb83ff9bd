import OnlineDdl.Failure

/-! The HTTP answer to a failed request: a status, a message for people, and a code for programs. -/

set_option autoImplicit false

namespace OnlineDdl

structure ErrorResponse where
  status : Nat
  code : String
  message : String
  -- What exactly went wrong, where the message does not say it.
  error : Option String
  statements : Option (List String)
deriving DecidableEq, Repr

def Failure.response : Failure → ErrorResponse
  | .unsafeOperation reason statements =>
    ⟨409, "UNSAFE_OPERATION", reason.message, some reason.code, some statements⟩
  | .precondition cause => ⟨422, "PRECONDITION_FAILED", cause.message, none, none⟩
  | .statementFailed operation position sql cause =>
    ⟨500, "STATEMENT_FAILED",
      "Statement " ++ toString position ++ " of operation " ++ toString operation
        ++ " was rejected by the server; " ++ toString operation ++ " operations completed",
      some cause, some [sql]⟩
  | .database text => ⟨500, "DATABASE_ERROR", "A database error occurred", some text, none⟩
  | .pool text => ⟨503, "POOL_EXHAUSTED", "Database connection pool exhausted", some text, none⟩
  | .notConnected text => ⟨400, "NOT_CONNECTED", text, none, none⟩
  | .validation text => ⟨400, "VALIDATION_ERROR", text, none, none⟩
  | .badRequest text => ⟨400, "BAD_REQUEST", text, none, none⟩
  | .internal text => ⟨500, "INTERNAL_ERROR", "An internal error occurred", some text, none⟩

end OnlineDdl
