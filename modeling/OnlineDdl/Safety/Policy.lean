import OnlineDdl.Safety.Config

/-! What happens to an operation that has no safe form. The policy never changes the SQL. -/

set_option autoImplicit false

namespace OnlineDdl

inductive Action where
  | proceed
  | proceedWithWarning (reason : UnsafeReason)
  | abort (reason : UnsafeReason)
deriving DecidableEq, Repr

namespace Action

def reason? : Action → Option UnsafeReason
  | .proceed => none
  | .proceedWithWarning reason => some reason
  | .abort reason => some reason

def warning? : Action → Option String
  | .proceedWithWarning reason => some reason.message
  | _ => none

end Action

def enforce (classification : Classification) (config : PlannerConfig) : Action :=
  match classification with
  | .safe => .proceed
  | .unsafeFixable => .proceed
  | .unsafeUnfixable reason =>
    if config.raiseForUnsafe then .abort reason else .proceedWithWarning reason

end OnlineDdl
