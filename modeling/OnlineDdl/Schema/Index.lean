import OnlineDdl.Schema.Column

/-! Indexes as a change request gives them. -/

set_option autoImplicit false

namespace OnlineDdl

inductive IndexMethod where
  | btree
  | hash
  | gist
  | spgist
  | gin
  | brin
deriving DecidableEq, Repr

def IndexMethod.word : IndexMethod → String
  | .btree => "btree"
  | .hash => "hash"
  | .gist => "gist"
  | .spgist => "spgist"
  | .gin => "gin"
  | .brin => "brin"

structure IndexDef where
  name : Option String
  columns : List String
  -- One operator class for each column, or none at all.
  opclasses : List String
  unique : Bool
  method : Option IndexMethod
  condition : Option String
  concurrently : Bool
  patternOps : Option PatternOps
deriving DecidableEq, Repr

def IndexDef.plain (columns : List String) : IndexDef :=
  ⟨none, columns, [], false, none, none, false, none⟩

end OnlineDdl
