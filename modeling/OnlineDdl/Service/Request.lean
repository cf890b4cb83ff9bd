import OnlineDdl.Change.Operation
import OnlineDdl.Safety.Config
import OnlineDdl.Schema.Catalog
import OnlineDdl.Schema.ObjectName

/-! Requests to plan or to run operations, and the check that every name in them is plain. -/

set_option autoImplicit false

namespace OnlineDdl

structure PlanRequest where
  operations : List Operation
  -- Takes the place of the planner settings of the service.
  config : Option PlannerConfig
  server : Option ServerCaps
  catalog : Option Catalog
  rowEstimates : List (String × UInt64)
  -- Whether to plan for the target database instead of what the request says about it.
  live : Bool
deriving DecidableEq, Repr

inductive RequestError where
  | noOperations
  | invalidIdentifier (name kind : String)
deriving DecidableEq, Repr

def RequestError.message : RequestError → String
  | .noOperations => "operations: At least one operation is required"
  | .invalidIdentifier name kind =>
    "operations: Invalid identifier '" ++ name ++ "' in " ++ kind
      ++ ". Must start with a letter or underscore, contain only letters, digits, underscores or "
      ++ "dollar signs, and be at most 63 characters."

def startsIdentifier (c : Char) : Bool := Text.isLetter c || c == '_'

def continuesIdentifier (c : Char) : Bool := startsIdentifier c || Text.isDigit c || c == '$'

-- A name that needs no quotes but for its case, and that the server does not cut short.
def isPlainIdentifier (name : String) : Bool :=
  match name.toList with
  | [] => false
  | c :: rest =>
    startsIdentifier c && rest.all continuesIdentifier
      && decide (name.length ≤ ObjectName.maxLength)

def invalidIdentifier? (op : Operation) : Option String :=
  op.identifiers.find? fun name => !isPlainIdentifier name

def PlanRequest.fault? (request : PlanRequest) : Option RequestError :=
  if request.operations.isEmpty then some .noOperations
  else
    request.operations.findSome? fun op =>
      (invalidIdentifier? op).map fun name => .invalidIdentifier name op.kindName

end OnlineDdl
