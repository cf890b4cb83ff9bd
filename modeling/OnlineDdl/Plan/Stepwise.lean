import OnlineDdl.Plan.Column
import OnlineDdl.Safety.Decision

/-! The stepwise plan of an operation: each long lock gives way to steps that hold none for long,
and what an earlier run has built is not built again. -/

set_option autoImplicit false

namespace OnlineDdl.Stepwise

def steps (op : Operation) (decision : Decision) (caps : ServerCaps)
    (find : String → Option TableEntry) : Except Precondition (List Step) :=
  match op with
  | .addColumn table column => .ok (addColumn table column caps find)
  | .setNotNull table column =>
    .ok (setNotNull table column (decision.notNull.getD .directUnsafe) caps (find table))
  | .dropNotNull table column => dropNotNull table column (find table)
  | .addConstraint table constraint => addConstraint table find constraint
  | .dropConstraint table name columns kind =>
    dropConstraint table name columns kind caps (find table)
  | .addIndex table index =>
    if index.concurrently then Baseline.steps op caps find else addIndex table index caps find
  | .dropIndex table name columns => dropIndex table name columns (find table)
  | .alterTogether table kind add remove => alterTogether table kind add remove find
  | _ => Baseline.steps op caps find

def forCatalog (op : Operation) (decision : Decision) (caps : ServerCaps) (catalog : Catalog) :
    Except Precondition (List Step) :=
  steps op decision caps catalog.table?

end OnlineDdl.Stepwise
