import OnlineDdl.Change.Requested
import OnlineDdl.Plan.Statement

/-! Indexes built and dropped beside other work. -/

set_option autoImplicit false

namespace OnlineDdl.Stepwise

-- Builds an index unless a valid one has its name; an invalid one is a build that stopped halfway
-- and makes way.
def buildIndex (find : String → Option TableEntry) (index : IndexSpec) : List Step :=
  match (find index.table).bind (·.index? index.name) with
  | none => [.createIndexConcurrently index]
  | some existing =>
    if existing.valid then []
    else [.dropIndexConcurrently index.name, .createIndexConcurrently index]

def requestedPatternIndex (table : String) (index : IndexDef) (caps : ServerCaps) :
    Option IndexSpec :=
  if index.columns.length == 1 && !caps.cCollation then
    index.patternOps.map (IndexSpec.patternOps table index.columns)
  else none

def addIndex (table : String) (index : IndexDef) (caps : ServerCaps)
    (find : String → Option TableEntry) : Except Precondition (List Step) :=
  (IndexSpec.ofDef table index).map fun spec =>
    buildIndex find spec
      ++ (requestedPatternIndex table index caps).toList.flatMap (buildIndex find)

-- The index behind a constraint goes with its constraint only, and an index on a partitioned table
-- cannot be dropped beside other work.
def dropIndex (table : String) (name : Option String) (columns : List String)
    (entry : Option TableEntry) : Except Precondition (List Step) :=
  match indexTarget table name columns entry with
  | .error cause => .error cause
  | .ok name =>
    match entry.bind (·.index? name) with
    | none => .ok [.dropIndexConcurrently name]
    | some existing =>
      match existing.constraint with
      | some constraint => .error (.constraintIndex name constraint)
      | none =>
        .ok [if existing.partitioned then .wrapped (.dropIndex name false)
          else .dropIndexConcurrently name]

end OnlineDdl.Stepwise
