import OnlineDdl.Proofs.Plan.Contents
import OnlineDdl.Proofs.Server.Growth

/-! Parts of plans for tables of which nothing is known, by the objects that they add. -/

set_option autoImplicit false

namespace OnlineDdl.Stepwise

variable (server : Server)

def Realizes (table column : String) (planned : List Step) (additions : List Addition) : Prop :=
  ∀ t : Table, t.name = table → t.hasColumn column = true → t.run server planned = t.grow additions

theorem realizes_nothing (table column : String) : Realizes server table column [] [] := fun _ _ _ => rfl

theorem realizes_append (table column : String) (first second : List Step) (some others : List Addition)
    (one : Realizes server table column first some) (two : Realizes server table column second others) :
    Realizes server table column (first ++ second) (some ++ others) := by
  intro t own present
  rw [Table.run, Table.run_append, Table.grow_append, ← Table.run, one t own present]
  refine Option.bind_congr fun next grown => ?_
  have kept := Table.grow_adds t next some grown
  exact two next (kept.name.trans own) ((kept.columns column).trans present)

theorem create_realizes (column : String) (index : IndexSpec) (step : Step) (concurrently : Bool)
    (creates : step.change = .createIndex index concurrently) :
    Realizes server index.table column [step] [.index index] := by
  intro t own _
  rw [Table.grow_one, Table.run, Table.runBy, creates, Ddl.effect, if_pos own.symm, Addition.effect]
  cases t.createIndex index true <;> rfl

theorem create_all_realizes (table column : String) (indexes : List IndexSpec) (create : IndexSpec → Step)
    (own : ∀ index ∈ indexes, index.table = table)
    (creates : ∀ index, ∃ concurrently, (create index).change = .createIndex index concurrently) :
    Realizes server table column (indexes.map create) (indexes.map .index) := by
  induction indexes with
  | nil => exact realizes_nothing server table column
  | cons index rest ih =>
      obtain ⟨concurrently, created⟩ := creates index
      have first := create_realizes server column index (create index) concurrently created
      rw [own index List.mem_cons_self] at first
      exact realizes_append server table column [create index] _ [.index index] _ first
        (ih fun other member => own other (List.mem_cons_of_mem _ member))

theorem drop_default_realizes (table : String) (column : ColumnDef) :
    Realizes server table column.name (Baseline.dropDefault table column) [] := by
  intro t own present
  rw [Baseline.dropDefault]
  split
  · rw [Table.run, Table.runBy, Step.alter, Step.wrapped, Ddl.effect, if_pos own.symm, TableAction.effect,
      if_pos present]
    rfl
  · rfl

theorem attach_refused (t : Table) (name index : String) (primary : Bool) (deferrable : Option Deferrable)
    (taken : t.hasConstraint name = true) : t.attachKey name index primary deferrable = none := by
  rw [Table.attachKey]
  cases t.indexes.find? (·.name == index) <;> simp [taken]

theorem add_key_realizes (column : String) (key : Key) (whole : key.condition = none) (plain : key.deferrable = none) :
    Realizes server key.table column (addKey (fun _ => none) key) [.key key.name key.columns key.primary] := by
  intro t own _
  have index : key.index = .uniqueOn key.name t.name key.columns none := by rw [Key.index, own, whole]
  have plan : addKey (fun _ => none) key = [.createIndexConcurrently key.index,
      .alter key.table (.addConstraint key.name (.usingIndex key.primary key.name none) false)] := by
    rw [addKey, whole, plain]
    rfl
  have creates : (Step.createIndexConcurrently key.index).change.effect server t =
      t.createIndex (.uniqueOn key.name t.name key.columns none) true := by
    rw [index]
    exact if_pos rfl
  have attaches (u : Table) (same : u.name = t.name) :
      (Step.alter key.table (.addConstraint key.name (.usingIndex key.primary key.name none) false)).change.effect
        server u = u.attachKey key.name key.name key.primary none := if_pos (own.symm.trans same.symm)
  rw [Table.grow_one, Addition.effect, Table.addKey, plan, Table.run, Table.runBy, creates, Table.createIndex]
  by_cases indexed : t.hasIndex key.name = true
  · simp [IndexSpec.uniqueOn, indexed]
  · have free := Bool.eq_false_iff.mpr indexed
    let u := t.withIndex ((IndexSpec.uniqueOn key.name t.name key.columns none).held true)
    have built : (if t.hasIndex (IndexSpec.uniqueOn key.name t.name key.columns none).name then none
        else some u) = some u := if_neg indexed
    rw [built, Option.bind_some, Table.runBy, attaches u rfl]
    by_cases ruled : t.hasConstraint key.name = true
    · rw [attach_refused u key.name key.name key.primary none ruled, ruled]
      rfl
    · rw [t.attach_built key.name key.columns key.primary none free (Bool.eq_false_iff.mpr ruled),
        Bool.eq_false_iff.mpr ruled, free]
      rfl

theorem add_reference_realizes (table column name : String) (columns : List String) (reference : Reference) :
    Realizes server table column (addNotValid none table name (.foreignKey columns reference))
      [.rule (referenceRule name columns reference)] := by
  rintro t rfl -
  let rule (validated : Bool) : HeldConstraint := ⟨⟨name, .foreignKey, columns, validated, none⟩, .reference reference⟩
  have adds : (Step.alter t.name (.addConstraint name (.foreignKey columns reference) true)).change.effect server t =
      if t.hasConstraint name then none else some (t.withConstraint (rule false)) := if_pos rfl
  have goal : t.grow [.rule (referenceRule name columns reference)] =
      if t.hasConstraint name then none else some (t.withConstraint (rule true)) := t.grow_one _
  have plan : addNotValid none t.name name (.foreignKey columns reference) =
      [.alter t.name (.addConstraint name (.foreignKey columns reference) true), .validate t.name name] := rfl
  rw [goal, plan, Table.run, Table.runBy, adds]
  by_cases taken : t.hasConstraint name = true
  · rw [if_pos taken, if_pos taken]
    rfl
  · have present : (t.withConstraint (rule false)).hasConstraint name = true := by
      simp [Table.hasConstraint, Table.withConstraint, rule]
    have validates : (Step.validate t.name name).change.effect server (t.withConstraint (rule false)) =
        some ((t.withConstraint (rule false)).withValidated name) :=
      strict_effect_accepted server _ _ _ (validate_accepted server (t.withConstraint (rule false)) name present)
    rw [if_neg taken, if_neg taken, Option.bind_some, Table.runBy, validates]
    exact congrArg some (t.validated_added (rule false) (Bool.eq_false_iff.mpr taken))

end OnlineDdl.Stepwise
