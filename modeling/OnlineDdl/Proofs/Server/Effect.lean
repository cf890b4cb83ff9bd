import OnlineDdl.Plan.Statement
import OnlineDdl.Proofs.Server.Table

/-! What statements do to a table. A statement is refused where it creates what is there or needs
what is missing; whatever else a server may object to, such as rows that break a rule, is left
out. -/

set_option autoImplicit false

namespace OnlineDdl

-- What a server decides by itself.
structure Server where
  mentioned : String → List String
  exclusionIndex : String → HeldIndex
  keyName : Table → InlineKey → String → String

namespace Table

def createIndex (t : Table) (index : IndexSpec) (valid : Bool) : Option Table :=
  if t.hasIndex index.name then none else some (t.withIndex (index.held valid))

def addRule (t : Table) (c : HeldConstraint) : Option Table :=
  if t.hasConstraint c.name then none else some (t.withConstraint c)

def addKey (t : Table) (name : String) (columns : List String) (primary : Bool)
    (deferrable : Option Deferrable) : Option Table :=
  if t.hasConstraint name || t.hasIndex name then none
  else some (t.withKey name columns primary deferrable)

def addExclusion (t : Table) (name expression : String) (index : HeldIndex) : Option Table :=
  if t.hasConstraint name || t.hasIndex name then none
  else
    some ((t.withIndex { index with name, constraint := some name }).withConstraint
      ⟨⟨name, .exclusion, index.columns, true, some name⟩, .exclude expression⟩)

-- Only a valid, unique and complete index that no constraint owns can become a key, whose name it
-- takes.
def attachKey (t : Table) (name index : String) (primary : Bool) (deferrable : Option Deferrable) :
    Option Table :=
  match t.indexes.find? (·.name == index) with
  | none => none
  | some i =>
    if !(i.valid && i.unique && i.constraint.isNone && i.condition.isNone) || t.hasConstraint name
      || (name != index && t.hasIndex name) then none
    else
      let attached :=
        { t with
          constraints := t.constraints ++ [keyConstraint name i.columns primary deferrable]
          indexes := t.indexes.map fun j =>
            if j.name == index then { j with name, primary, constraint := some name } else j }
      some (if primary then attached.withNotNull i.columns true else attached)

def addConstraint (server : Server) (t : Table) (name : String) (validated : Bool) :
    ConstraintBody → Option Table
  | .check expression =>
    t.addRule ⟨⟨name, .check, server.mentioned expression, validated, none⟩, .check expression⟩
  | .notNull column =>
    t.addRule ⟨⟨name, .check, [column], validated, none⟩, .check (quoteIdent column ++ " IS NOT NULL")⟩
  | .unique columns deferrable => t.addKey name columns false deferrable
  | .primaryKey columns => t.addKey name columns true none
  | .foreignKey columns reference =>
    t.addRule ⟨⟨name, .foreignKey, columns, validated, none⟩, .reference reference⟩
  | .exclude expression => t.addExclusion name expression (server.exclusionIndex expression)
  | .usingIndex primary index deferrable => t.attachKey name index primary deferrable

def addColumnKey (server : Server) (t : Table) (column : String) : Option InlineKey → Option Table
  | none => some t
  | some .primaryKey => t.addKey (server.keyName t .primaryKey column) [column] true none
  | some .unique => t.addKey (server.keyName t .unique column) [column] false none

def addColumnReference (server : Server) (t : Table) (column : String) :
    Option (String × Reference) → Option Table
  | none => some t
  | some (name, reference) => t.addConstraint server name true (.foreignKey [column] reference)

def addColumn (server : Server) (t : Table) (c : ColumnClause) : Option Table :=
  if t.hasColumn c.name then none
  else
    let widened : Table := { t with columns := t.columns ++ [⟨c.name, c.dataType, !c.nullable⟩] }
    (widened.addColumnKey server c.name c.key).bind fun keyed =>
      keyed.addColumnReference server c.name c.reference

def withoutColumn (t : Table) (column : String) : Table :=
  { t with
    constraints := t.constraints.filter fun c => !c.columns.contains column
    indexes := t.indexes.filter fun i => !i.columns.contains column
    columns := t.columns.filter (·.name != column) }

def withColumnRenamed (t : Table) (column newName : String) : Table :=
  let rename := fun name => if name == column then newName else name
  { t with
    constraints := t.constraints.map fun c => { c with columns := c.columns.map rename }
    indexes := t.indexes.map fun i => { i with columns := i.columns.map rename }
    columns := t.columns.map fun c => { c with name := rename c.name } }

def withType (t : Table) (column dataType : String) : Table :=
  { t with columns := t.columns.map fun c => if c.name == column then { c with dataType } else c }

end Table

def TableAction.effect (server : Server) (t : Table) : TableAction → Option Table
  | .renameTo name => some { t with name }
  | .setTablespace _ => some t
  | .addColumn column => t.addColumn server column
  | .dropColumn column _ => if t.hasColumn column then some (t.withoutColumn column) else none
  | .renameColumn column newName =>
    if t.hasColumn column && !t.hasColumn newName then some (t.withColumnRenamed column newName)
    else none
  | .setType column dataType _ =>
    if t.hasColumn column then some (t.withType column dataType) else none
  | .dropDefault column => if t.hasColumn column then some t else none
  | .setNotNull column => if t.hasColumn column then some (t.withNotNull [column] true) else none
  | .dropNotNull column => if t.hasColumn column then some (t.withNotNull [column] false) else none
  | .addConstraint name body notValid => t.addConstraint server name (!notValid) body
  | .validateConstraint name => if t.hasConstraint name then some (t.withValidated name) else none
  | .dropConstraint name => if t.hasConstraint name then some (t.withoutConstraint name) else none

-- The table after a statement; `none` where the server refuses it, or where no table is left.
-- `IF EXISTS` makes a missing index no reason to refuse.
def Ddl.effect (server : Server) (t : Table) : Ddl → Option Table
  | .createTable table _ => if table = t.name then none else some t
  | .dropTable table _ => if table = t.name then none else some t
  | .alterTable table action => if table = t.name then action.effect server t else some t
  | .createIndex index _ => if index.table = t.name then t.createIndex index true else some t
  | .dropIndex name _ => some (t.withoutIndex name)
  | .markNotNull table column => if table = t.name then some (t.withNotNull [column] true) else some t

def Ddl.strictEffect (server : Server) (t : Table) (change : Ddl) : Option Table :=
  match change with
  | .dropIndex name _ => if t.hasIndex name then change.effect server t else none
  | _ => change.effect server t

namespace Table

def runBy (effect : Table → Ddl → Option Table) (t : Table) : List Step → Option Table
  | [] => some t
  | step :: rest => (effect t step.change).bind fun next => next.runBy effect rest

def run (server : Server) : Table → List Step → Option Table := runBy (Ddl.effect server)

def runStrictly (server : Server) : Table → List Step → Option Table :=
  runBy (Ddl.strictEffect server)

variable (effect : Table → Ddl → Option Table)

theorem run_append (t : Table) (a b : List Step) :
    t.runBy effect (a ++ b) = (t.runBy effect a).bind fun next => next.runBy effect b := by
  induction a generalizing t with
  | nil => rfl
  | cons step rest ih =>
      simp only [List.cons_append, runBy, Option.bind_assoc]
      congr
      funext next
      exact ih next

theorem index_found (t : Table) (i : HeldIndex) (free : t.hasIndex i.name = false) :
    (t.withIndex i).indexes.find? (·.name == i.name) = some i := by
  have absent : t.indexes.find? (·.name == i.name) = none := by
    rw [List.find?_eq_none]
    rw [hasIndex, List.any_eq_false] at free
    exact free
  simp [withIndex, List.find?_append, absent]

theorem attach_built (t : Table) (name : String) (columns : List String) (primary : Bool)
    (deferrable : Option Deferrable) (freeIndex : t.hasIndex name = false)
    (freeConstraint : t.hasConstraint name = false) :
    (t.withIndex ((IndexSpec.uniqueOn name t.name columns none).held true)).attachKey name name primary
      deferrable = some (t.withKey name columns primary deferrable) := by
  let fresh := (IndexSpec.uniqueOn name t.name columns none).held true
  have found : (t.withIndex fresh).indexes.find? (·.name == name) = some fresh := index_found t fresh freeIndex
  have unowned : (t.withIndex fresh).hasConstraint name = false := freeConstraint
  have kept := update_absent (fun j : HeldIndex => j.name)
    (fun j => { j with name, primary, constraint := some name }) name t.indexes freeIndex
  have owned : ((t.withIndex fresh).indexes.map fun j =>
      if j.name == name then { j with name, primary, constraint := some name } else j) =
        t.indexes ++ [keyIndex name columns primary] := by
    simp only [withIndex, List.map_append, kept, List.map_cons, List.map_nil]
    simp [fresh, IndexSpec.held, IndexSpec.uniqueOn, keyIndex]
  simp only [attachKey, fresh, found, unowned, owned]
  simp [IndexSpec.held, IndexSpec.uniqueOn, withKey, withIndex, withConstraint]

end Table

theorem strict_effect_accepted (server : Server) (t next : Table) (change : Ddl)
    (accepted : change.strictEffect server t = some next) : change.effect server t = some next := by
  cases change with
  | dropIndex name concurrently =>
      rw [Ddl.strictEffect] at accepted
      split at accepted
      · exact accepted
      · cases accepted
  | _ => exact accepted

theorem run_one (server : Server) (t next : Table) (step : Step)
    (accepted : step.change.effect server t = some next) :
    t.run server [step] = some next := by
  rw [Table.run, Table.runBy, accepted]
  rfl

theorem strict_run_next (server : Server) (t next : Table) (step : Step) (rest : List Step)
    (accepted : step.change.strictEffect server t = some next) :
    t.runStrictly server (step :: rest) = next.runStrictly server rest := by
  rw [Table.runStrictly, Table.runBy, accepted]
  rfl

theorem strict_run_accepted (server : Server) (t final : Table) (steps : List Step)
    (accepted : t.runStrictly server steps = some final) : t.run server steps = some final := by
  induction steps generalizing t with
  | nil => exact accepted
  | cons step rest ih =>
      obtain ⟨next, first, others⟩ := Option.bind_eq_some_iff.mp accepted
      exact Option.bind_eq_some_iff.mpr
        ⟨next, strict_effect_accepted server t next step.change first, ih next others⟩

theorem create_index_accepted (server : Server) (t : Table) (index : IndexSpec) (own : index.table = t.name)
    (free : t.hasIndex index.name = false) :
    (Step.createIndexConcurrently index).change.strictEffect server t = some (t.withIndex (index.held true)) := by
  simp [Step.createIndexConcurrently, Ddl.strictEffect, Ddl.effect, Table.createIndex, own, free]

theorem drop_index_accepted (server : Server) (t : Table) (name : String) (present : t.hasIndex name = true) :
    (Step.dropIndexConcurrently name).change.strictEffect server t = some (t.withoutIndex name) := by
  simp [Step.dropIndexConcurrently, Ddl.strictEffect, Ddl.effect, present]

theorem drop_added_index (server : Server) (t : Table) (i : HeldIndex) (free : t.hasIndex i.name = false) :
    (Step.dropIndexConcurrently i.name).change.strictEffect server (t.withIndex i) = some t := by
  have present : (t.withIndex i).hasIndex i.name = true := by simp [Table.hasIndex, Table.withIndex]
  rw [drop_index_accepted server _ i.name present, t.without_added_index i free]

theorem alter_accepted (server : Server) (t u : Table) (action : TableAction)
    (accepted : action.effect server t = some u) :
    (Step.alter t.name action).change.strictEffect server t = some u := by
  simp [Step.alter, Step.wrapped, Ddl.strictEffect, Ddl.effect, accepted]

theorem validate_accepted (server : Server) (t : Table) (name : String) (present : t.hasConstraint name = true) :
    (Step.validate t.name name).change.strictEffect server t = some (t.withValidated name) := by
  simp [Step.validate, Step.flexible, Ddl.strictEffect, Ddl.effect, TableAction.effect, present]

end OnlineDdl
