/-! Table constraints as a change request gives them. -/

set_option autoImplicit false

namespace OnlineDdl

inductive ConstraintKind where
  | check
  | unique
  | primaryKey
  | foreignKey
  | exclusion
deriving DecidableEq, Repr

namespace ConstraintKind

def ofContype? : String → Option ConstraintKind
  | "c" => some .check
  | "u" => some .unique
  | "p" => some .primaryKey
  | "f" => some .foreignKey
  | "x" => some .exclusion
  | _ => none

def isIndexBacked : ConstraintKind → Bool
  | .unique => true
  | .primaryKey => true
  | _ => false

end ConstraintKind

-- When a deferrable constraint is checked unless a transaction says otherwise.
inductive Deferrable where
  | deferred
  | immediate
deriving DecidableEq, Repr

inductive ConstraintDef where
  | check (name : Option String) (columns : List String) (expression : String)
  | unique (name : Option String) (columns : List String) (condition : Option String)
      (deferrable : Option Deferrable)
  | primaryKey (name : Option String) (columns : List String)
  | foreignKey (name : Option String) (columns : List String) (toTable : String)
      (toColumns : List String) (onDelete : Option String) (deferrable : Bool)
  | exclusion (name : String) (expression : String)
deriving DecidableEq, Repr

namespace ConstraintDef

def kind : ConstraintDef → ConstraintKind
  | .check .. => .check
  | .unique .. => .unique
  | .primaryKey .. => .primaryKey
  | .foreignKey .. => .foreignKey
  | .exclusion .. => .exclusion

def identifiers : ConstraintDef → List String
  | .check name columns _ => name.toList ++ columns
  | .unique name columns _ _ => name.toList ++ columns
  | .primaryKey name columns => name.toList ++ columns
  | .foreignKey name columns toTable toColumns _ _ =>
    name.toList ++ columns ++ toTable :: toColumns
  | .exclusion name _ => [name]

end ConstraintDef

end OnlineDdl
