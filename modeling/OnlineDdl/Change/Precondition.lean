import OnlineDdl.Schema.Catalog

/-! Why a request cannot be planned against what is known about its table, and the look-ups that
insist on exactly one match. -/

set_option autoImplicit false

namespace OnlineDdl

inductive Precondition where
  | unknownTable (table : String)
  | noConstraint (table : String) (columns : List String)
  | ambiguousConstraint (table : String) (columns names : List String)
  | noIndex (table : String) (columns : List String)
  | ambiguousIndex (table : String) (columns names : List String)
  | ambiguousNotNullCheck (table column : String) (count : Nat)
  | unnamedCheck (table : String)
  | opclassCount (table : String) (opclasses columns : Nat)
  | constraintIndex (index constraint : String)
  | reported (text : String)
deriving DecidableEq, Repr

namespace Precondition

open Text (commaSeparated)

def message : Precondition → String
  | .unknownTable table => "no catalog metadata for table " ++ table
  | .noConstraint table columns =>
    "no constraint on " ++ table ++ "(" ++ commaSeparated columns ++ ") to drop"
  | .ambiguousConstraint table columns names =>
    "found " ++ toString names.length ++ " constraints on " ++ table ++ "("
      ++ commaSeparated columns ++ "): " ++ commaSeparated names
  | .noIndex table columns => "no index on " ++ table ++ "(" ++ commaSeparated columns ++ ") to drop"
  | .ambiguousIndex table columns names =>
    "found " ++ toString names.length ++ " indexes on " ++ table ++ "(" ++ commaSeparated columns
      ++ "): " ++ commaSeparated names
  | .ambiguousNotNullCheck table column count =>
    "found " ++ toString count ++ " NOT NULL check constraints on " ++ table ++ "(" ++ column ++ ")"
  | .unnamedCheck table =>
    "check constraint on " ++ table ++ " needs a name or the columns it covers"
  | .opclassCount table opclasses columns =>
    "index on " ++ table ++ " lists " ++ toString opclasses ++ " operator classes for "
      ++ toString columns ++ " columns"
  | .constraintIndex index constraint =>
    "index " ++ index ++ " backs constraint " ++ constraint ++ "; drop the constraint instead"
  | .reported text => text

end Precondition

def resolveConstraint (table : String) (entry : Option TableEntry) (columns : List String)
    (kind : Option ConstraintKind) : Except Precondition ConstraintInfo :=
  match entry with
  | none => .error (.unknownTable table)
  | some entry =>
    match entry.constraintsOn columns kind with
    | [only] => .ok only
    | [] => .error (.noConstraint table columns)
    | many => .error (.ambiguousConstraint table columns (many.map (·.name)))

def resolveIndex (table : String) (entry : Option TableEntry) (columns : List String) :
    Except Precondition IndexInfo :=
  match entry with
  | none => .error (.unknownTable table)
  | some entry =>
    match entry.indexesOn columns with
    | [only] => .ok only
    | [] => .error (.noIndex table columns)
    | many => .error (.ambiguousIndex table columns (many.map (·.name)))

def notNullCheck (table : String) (entry : Option TableEntry) (column : String) :
    Except Precondition (Option ConstraintInfo) :=
  match entry with
  | none => .ok none
  | some entry =>
    match entry.notNullChecks column with
    | [] => .ok none
    | [only] => .ok (some only)
    | many => .error (.ambiguousNotNullCheck table column many.length)

end OnlineDdl
