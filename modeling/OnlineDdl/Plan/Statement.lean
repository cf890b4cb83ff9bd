import OnlineDdl.Schema.Ddl

/-! Statements as they are sent, plans made of them, and the steps that a plan is built from. -/

set_option autoImplicit false

namespace OnlineDdl

inductive TimeoutClass where
  -- Short, but under an exclusive lock.
  | wrapped
  -- Long, but beside other work.
  | flexibleWrapped
  -- Never touched by timeouts.
  | unwrapped
deriving DecidableEq, Repr

inductive StatementRole where
  | ddl
  | timeoutSet
  | timeoutReset
deriving DecidableEq, Repr

structure Statement where
  sql : String
  timeout : TimeoutClass
  -- Whether the server refuses the statement inside a transaction.
  outsideTransaction : Bool
  role : StatementRole
deriving DecidableEq, Repr

abbrev Plan := List Statement

namespace Statement

def ddl (sql : String) (timeout : TimeoutClass) : Statement := ⟨sql, timeout, false, .ddl⟩

def session (sql : String) (role : StatementRole) : Statement := ⟨sql, .unwrapped, false, role⟩

def outside (s : Statement) : Statement := { s with outsideTransaction := true }

def isDdl (s : Statement) : Bool := s.role == .ddl

end Statement

structure Step where
  change : Ddl
  timeout : TimeoutClass
  outsideTransaction : Bool
deriving DecidableEq, Repr

namespace Step

def statement (step : Step) : Statement :=
  ⟨step.change.sql, step.timeout, step.outsideTransaction, .ddl⟩

def wrapped (change : Ddl) : Step := ⟨change, .wrapped, false⟩

def unwrapped (change : Ddl) : Step := ⟨change, .unwrapped, false⟩

def flexible (change : Ddl) : Step := ⟨change, .flexibleWrapped, false⟩

-- An action on a table under a short exclusive lock.
def alter (table : String) (action : TableAction) : Step := wrapped (.alterTable table action)

def validate (table name : String) : Step :=
  flexible (.alterTable table (.validateConstraint name))

def dropConstraint (table name : String) : Step := alter table (.dropConstraint name)

def createIndexConcurrently (index : IndexSpec) : Step :=
  ⟨.createIndex index true, .flexibleWrapped, true⟩

def dropIndexConcurrently (name : String) : Step := ⟨.dropIndex name true, .unwrapped, true⟩

end Step

def Plan.ofSteps (steps : List Step) : Plan := steps.map Step.statement

end OnlineDdl
