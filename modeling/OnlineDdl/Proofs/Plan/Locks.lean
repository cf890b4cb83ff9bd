import OnlineDdl.Plan.Stepwise
import OnlineDdl.Proofs.Outcome
import OnlineDdl.Proofs.Plan.Locality

/-! What a plan for an operation with a safe form is made of: no statement in it scans or rewrites
rows under an exclusive lock. -/

set_option autoImplicit false

namespace OnlineDdl.Stepwise

def AddsUnchecked : ConstraintBody → Prop
  | .check _ => True
  | .notNull _ => True
  | .foreignKey _ _ => True
  | _ => False

-- Indexes are built beside other work, constraints look at no rows when they are added, and a new
-- column brings neither key nor reference.
def SparesLocks : Ddl → Prop
  | .createIndex _ concurrently => concurrently = true
  | .alterTable _ (.addConstraint _ (.usingIndex _ _ _) _) => True
  | .alterTable _ (.addConstraint _ body notValid) => AddsUnchecked body ∧ notValid = true
  | .alterTable _ (.addColumn column) => column.key = none ∧ column.reference = none
  | _ => True

def RaisesNotNull (table column : String) (change : Ddl) : Prop :=
  change = .alterTable table (.setNotNull column) ∨ change = .markNotNull table column

-- The statements from which the plans of operations with a safe form are built, those aside that
-- make a column NOT NULL.
inductive Gentle : Ddl → Prop where
  | createIndex (index : IndexSpec) : Gentle (.createIndex index true)
  | dropIndex (name : String) : Gentle (.dropIndex name true)
  | addUnchecked (table name : String) (body : ConstraintBody) (unchecked : AddsUnchecked body) :
      Gentle (.alterTable table (.addConstraint name body true))
  | attach (table name : String) (primary : Bool) (deferrable : Option Deferrable) :
      Gentle (.alterTable table (.addConstraint name (.usingIndex primary name deferrable) false))
  | validate (table name : String) : Gentle (.alterTable table (.validateConstraint name))
  | dropConstraint (table name : String) : Gentle (.alterTable table (.dropConstraint name))
  | addColumn (table : String) (column : ColumnDef) :
      Gentle (.alterTable table (.addColumn column.bareClause))
  | dropDefault (table column : String) : Gentle (.alterTable table (.dropDefault column))

theorem gentle_spares_locks (change : Ddl) (gentle : Gentle change) : SparesLocks change := by
  cases gentle with
  | addUnchecked table name body unchecked =>
      cases body with
      | usingIndex primary index deferrable => trivial
      | _ => exact ⟨unchecked, rfl⟩
  | addColumn table column => exact ⟨rfl, rfl⟩
  | createIndex index => rfl
  | _ => trivial

theorem gentle_raises_nothing (table column : String) (change : Ddl) (gentle : Gentle change) :
    ¬ RaisesNotNull table column change := by
  cases gentle <;> simp [RaisesNotNull]

def AllGentle (steps : List Step) : Prop := ∀ step ∈ steps, Gentle step.change

theorem all_gentle_append (a b : List Step) (first : AllGentle a) (second : AllGentle b) :
    AllGentle (a ++ b) := List.forall_mem_append.mpr ⟨first, second⟩

theorem build_index_gentle (entry : Option TableEntry) (index : IndexSpec) :
    AllGentle (buildIndex entry index) := by
  have creates : AllGentle [.createIndexConcurrently index] := by
    intro step member
    rw [List.mem_singleton.mp member]
    exact .createIndex index
  rw [buildIndex]
  split
  · exact creates
  · split
    · exact List.forall_mem_nil _
    · exact List.forall_mem_cons.mpr ⟨.dropIndex index.name, creates⟩

theorem build_all_gentle (entry : Option TableEntry) (index : Option IndexSpec) :
    AllGentle (index.toList.flatMap (buildIndex entry)) := by
  cases index with
  | none => exact List.forall_mem_nil _
  | some index => simpa using build_index_gentle entry index

theorem add_not_valid_gentle (entry : Option TableEntry) (table name : String) (body : ConstraintBody)
    (unchecked : AddsUnchecked body) : AllGentle (addNotValid entry table name body) := by
  have validates : AllGentle [.validate table name] := by
    intro step member
    rw [List.mem_singleton.mp member]
    exact .validate table name
  rw [addNotValid]
  split
  · exact List.forall_mem_cons.mpr ⟨.addUnchecked table name body unchecked, validates⟩
  · split
    · exact List.forall_mem_nil _
    · exact validates

theorem add_key_gentle (entry : Option TableEntry) (key : Key) : AllGentle (addKey entry key) := by
  refine all_gentle_append _ _ (build_index_gentle entry key.index) ?_
  split
  · exact List.forall_mem_nil _
  · exact List.forall_mem_singleton.mpr (.attach key.table key.name key.primary key.deferrable)

theorem add_foreign_key_gentle (entry : Option TableEntry) (table name : String)
    (columns : List String) (reference : Reference) :
    AllGentle (addForeignKey entry table name columns reference) := by
  refine all_gentle_append _ _ ?_ (add_not_valid_gentle entry table name _ trivial)
  split
  · exact List.forall_mem_nil _
  · exact build_index_gentle entry _

theorem add_constraint_gentle (table : String) (entry : Option TableEntry) (constraint : ConstraintDef)
    (steps : List Step) (included : constraint.kind ≠ .exclusion)
    (planned : addConstraint table entry constraint = .ok steps) : AllGentle steps := by
  cases constraint with
  | check name columns expression =>
      obtain ⟨name, -, same⟩ := (map_ok_iff _ _ _).mp planned
      rw [← same]
      exact add_not_valid_gentle entry table name _ trivial
  | unique name columns condition deferrable =>
      rw [← Except.ok.inj planned]
      exact add_key_gentle entry _
  | primaryKey name columns =>
      rw [← Except.ok.inj planned]
      refine all_gentle_append _ _ (add_key_gentle entry _) ?_
      intro step member
      obtain ⟨index, -, same⟩ := List.mem_map.mp member
      rw [← same]
      exact .dropIndex index.name
  | foreignKey name columns toTable toColumns onDelete deferrable =>
      rw [← Except.ok.inj planned]
      exact add_foreign_key_gentle entry table _ columns _
  | exclusion name expression => exact absurd rfl included

theorem add_index_gentle (table : String) (index : IndexDef) (caps : ServerCaps)
    (entry : Option TableEntry) (steps : List Step)
    (planned : addIndex table index caps entry = .ok steps) : AllGentle steps := by
  obtain ⟨spec, -, same⟩ := (map_ok_iff _ _ _).mp planned
  rw [← same]
  exact all_gentle_append _ _ (build_index_gentle entry spec) (build_all_gentle entry _)

theorem column_reference_gentle (table : String) (column : ColumnDef) (entry : Option TableEntry) :
    AllGentle (columnReference table column entry) := by
  rw [columnReference]
  split
  · exact add_foreign_key_gentle entry table _ _ _
  · split
    · exact build_index_gentle entry _
    · exact List.forall_mem_nil _

theorem add_column_gentle (table : String) (column : ColumnDef) (caps : ServerCaps)
    (entry : Option TableEntry) : AllGentle (addColumn table column caps entry) := by
  have drops : AllGentle (Baseline.dropDefault table column) := by
    rw [Baseline.dropDefault]
    split
    · exact List.forall_mem_singleton.mpr (.dropDefault table column.name)
    · exact List.forall_mem_nil _
  have keys : AllGentle ((columnKey table column).toList.flatMap (addKey entry)) := by
    cases columnKey table column with
    | none => exact List.forall_mem_nil _
    | some key => simpa using add_key_gentle entry key
  have head : AllGentle (.alter table (.addColumn column.bareClause) :: Baseline.dropDefault table column) :=
    List.forall_mem_cons.mpr ⟨.addColumn table column, drops⟩
  exact all_gentle_append _ _ (all_gentle_append _ _ (all_gentle_append _ _ head keys)
    (column_reference_gentle table column entry)) (build_all_gentle entry _)

theorem remove_group_gentle (table : String) (kind : TogetherKind) (entry : Option TableEntry)
    (group : List String) (step : Step) (planned : removeGroup table kind entry group = .ok step) :
    Gentle step.change := by
  cases kind with
  | unique =>
      obtain ⟨c, -, same⟩ := (map_ok_iff _ _ _).mp planned
      rw [← same]
      exact .dropConstraint table c.name
  | index =>
      obtain ⟨i, -, same⟩ := (map_ok_iff _ _ _).mp planned
      rw [← same]
      exact .dropIndex i.name

theorem add_group_gentle (table : String) (kind : TogetherKind) (entry : Option TableEntry)
    (group : List String) : AllGentle (addGroup table kind entry group) := by
  cases kind with
  | unique => exact add_key_gentle entry _
  | index => exact build_index_gentle entry _

theorem alter_together_gentle (table : String) (kind : TogetherKind) (add remove : List (List String))
    (entry : Option TableEntry) (steps : List Step)
    (planned : alterTogether table kind add remove entry = .ok steps) : AllGentle steps := by
  obtain ⟨removals, removed, same⟩ := (map_ok_iff _ _ _).mp planned
  rw [← same]
  refine all_gentle_append _ _ ?_ ?_
  · intro step member
    obtain ⟨group, -, planned⟩ := map_all_member _ _ _ removed step member
    exact remove_group_gentle table kind entry group step planned
  · intro step member
    obtain ⟨group, -, inside⟩ := List.mem_flatMap.mp member
    exact add_group_gentle table kind entry group step inside

def HelperValidated (table column : String) (entry : Option TableEntry) : Prop :=
  ∃ c, entry.bind (·.constraint? (notNullHelper table column)) = some c ∧ c.validated = true

theorem helper_validated_or_validates (entry : Option TableEntry) (table column : String) :
    .validate table (notNullHelper table column) ∈
        addNotValid entry table (notNullHelper table column) (.notNull column) ∨
      HelperValidated table column entry := by
  rw [addNotValid]
  split
  · exact .inl (by simp)
  · rename_i existing found
    by_cases done : existing.validated = true
    · exact .inr ⟨existing, found, done⟩
    · exact .inl (by simp [done])

theorem adopt_not_null_steps (table column : String) (strategy : NotNullStrategy) (caps : ServerCaps)
    (step : Step) (member : step ∈ adoptNotNull table column strategy caps) :
    step = .alter table (.setNotNull column) ∨ step = .unwrapped (.markNotNull table column) ∨
      step = .dropConstraint table (notNullHelper table column) := by
  cases strategy with
  | directUnsafe => exact .inl (List.mem_singleton.mp member)
  | constraintAssisted =>
      simp only [adoptNotNull] at member
      split at member
      · exact (List.mem_pair.mp member).imp_right .inr
      · cases member
  | catalogUpdate => exact .inr (List.mem_pair.mp member)

theorem adopt_not_null_spares (table column : String) (strategy : NotNullStrategy) (caps : ServerCaps)
    (step : Step) (member : step ∈ adoptNotNull table column strategy caps) :
    SparesLocks step.change := by
  rcases adopt_not_null_steps table column strategy caps step member with same | same | same <;>
    rw [same] <;> trivial

theorem adopt_not_null_target (table column : String) (strategy : NotNullStrategy) (caps : ServerCaps)
    (step : Step) (member : step ∈ adoptNotNull table column strategy caps) (target field : String)
    (raises : RaisesNotNull target field step.change) : target = table ∧ field = column := by
  rcases adopt_not_null_steps table column strategy caps step member with same | same | same
  · simpa [same, RaisesNotNull, Step.alter, Step.wrapped, eq_comm] using raises
  · simpa [same, RaisesNotNull, Step.unwrapped, eq_comm] using raises
  · simp [same, RaisesNotNull, Step.dropConstraint, Step.alter, Step.wrapped] at raises

theorem prefix_before (a b before after : List Step) (step : Step)
    (divided : a ++ b = before ++ step :: after) (outside : step ∉ a) : a <+: before := by
  rcases List.append_eq_append_iff.mp divided with ⟨rest, same, -⟩ | ⟨rest, same, later⟩
  · exact ⟨rest, same.symm⟩
  · cases rest with
    | nil => exact ⟨[], by simpa using same⟩
    | cons head tail =>
        have here : step = head := (List.cons.inj later).1
        exact absurd (by simp [same, here]) outside

theorem set_not_null_spares (table column : String) (strategy : NotNullStrategy) (caps : ServerCaps)
    (entry : Option TableEntry) (step : Step)
    (member : step ∈ setNotNull table column strategy caps entry) : SparesLocks step.change := by
  rw [setNotNull] at member
  split at member
  · exact adopt_not_null_spares table column strategy caps step member
  · split at member
    · cases member
    · rcases List.mem_append.mp member with adding | adopting
      · exact gentle_spares_locks _ (add_not_valid_gentle entry table _ (.notNull column) trivial step adding)
      · exact adopt_not_null_spares table column strategy caps step adopting

-- The check is proved before the flag is set: what sets the flag stands behind everything that
-- adds and validates the check.
theorem set_not_null_proved (table column : String) (strategy : NotNullStrategy) (caps : ServerCaps)
    (entry : Option TableEntry) (checked : strategy ≠ .directUnsafe) (before after : List Step)
    (step : Step) (divided : setNotNull table column strategy caps entry = before ++ step :: after)
    (target field : String) (raises : RaisesNotNull target field step.change) :
    target = table ∧ field = column ∧
      (.validate table (notNullHelper table column) ∈ before ∨ HelperValidated table column entry) := by
  rw [setNotNull, if_neg checked] at divided
  split at divided
  · simp at divided
  · have outside : step ∉ addNotValid entry table (notNullHelper table column) (.notNull column) :=
      fun inside => gentle_raises_nothing target field _
        (add_not_valid_gentle entry table _ (.notNull column) trivial step inside) raises
    have adopting : step ∈ adoptNotNull table column strategy caps := by
      have present : step ∈ addNotValid entry table (notNullHelper table column) (.notNull column)
          ++ adoptNotNull table column strategy caps := by simp [divided]
      exact (List.mem_append.mp present).resolve_left outside
    obtain ⟨sameTable, sameColumn⟩ :=
      adopt_not_null_target table column strategy caps step adopting target field raises
    refine ⟨sameTable, sameColumn, ?_⟩
    have earlier := (prefix_before _ _ before after step divided outside).subset
    exact (helper_validated_or_validates entry table column).imp_left fun member => earlier member

-- The check may have been validated by an earlier run.
structure SparesLongLocks (catalog : Catalog) (steps : List Step) : Prop where
  eachStep : ∀ step ∈ steps, SparesLocks step.change
  provedFirst : ∀ before step after table column, steps = before ++ step :: after →
    RaisesNotNull table column step.change →
      .validate table (notNullHelper table column) ∈ before ∨
        HelperValidated table column (catalog.table? table)

theorem gentle_plan_spares_locks (steps : List Step) (gentle : AllGentle steps) (catalog : Catalog) :
    SparesLongLocks catalog steps := by
  refine ⟨fun step member => gentle_spares_locks _ (gentle step member), ?_⟩
  intro before step after table column divided raises
  have member : step ∈ steps := by simp [divided]
  exact absurd raises (gentle_raises_nothing table column _ (gentle step member))

theorem fixable_plan_spares_locks (op : Operation) (config : PlannerConfig) (caps : ServerCaps)
    (rows : RowEstimate) (catalog : Catalog) (steps : List Step)
    (fixable : (judge op config caps rows).classification = .unsafeFixable)
    (planned : forCatalog op (judge op config caps rows) caps catalog = .ok steps) :
    SparesLongLocks catalog steps := by
  rw [for_catalog] at planned
  cases op with
  | addColumn table column =>
      rw [← Except.ok.inj planned]
      exact gentle_plan_spares_locks _ (add_column_gentle table column caps _) catalog
  | addConstraint table constraint =>
      have included : constraint.kind ≠ .exclusion := by
        intro excluded
        simp [judge, excluded, Decision.unsafeBecause, Decision.of] at fixable
      exact gentle_plan_spares_locks _
        (add_constraint_gentle table _ constraint steps included planned) catalog
  | addIndex table index =>
      have plain : index.concurrently = false := by
        by_contra concurrent
        simp [judge, concurrent, Decision.of] at fixable
      have stepwise : addIndex table index caps (catalog.table? table) = .ok steps := by
        simpa [Stepwise.steps, plain, Operation.table] using planned
      exact gentle_plan_spares_locks _ (add_index_gentle table index caps _ steps stepwise) catalog
  | alterTogether table kind add remove =>
      exact gentle_plan_spares_locks _ (alter_together_gentle table kind add remove _ steps planned) catalog
  | setNotNull table column =>
      have checked : NotNullStrategy.select config.notNullMode caps rows ≠ .directUnsafe := by
        intro direct
        simp [judge, direct, NotNullStrategy.classification] at fixable
      have same := Except.ok.inj planned
      refine ⟨fun step member => ?_, fun before step after target field divided raises => ?_⟩
      · rw [← same] at member
        exact set_not_null_spares table column _ caps _ step member
      · obtain ⟨rfl, rfl, proved⟩ := set_not_null_proved table column _ caps _ checked before after step
          (same.trans divided) target field raises
        exact proved
  | renameTable table newName =>
      rw [judge] at fixable
      split at fixable <;> cases fixable
  | renameColumn table column newName =>
      rw [judge] at fixable
      split at fixable <;> cases fixable
  | alterColumnType table column fromType toType conversion =>
      rw [judge] at fixable
      split at fixable <;> cases fixable
  | _ => cases fixable

theorem set_not_null_spares_locks :
    let op := Operation.setNotNull "orders" "total"
    let catalog : Catalog := { tables := [("orders", TableEntry.empty.withColumn ⟨"total", "integer", false⟩)] }
    let decision := judge op .default .default .unknown
    decision.classification = .unsafeFixable ∧
      ∃ steps, forCatalog op decision .default catalog = .ok steps ∧ steps.length = 4 ∧
        SparesLongLocks catalog steps :=
  ⟨rfl, _, rfl, rfl,
    fixable_plan_spares_locks (.setNotNull "orders" "total") .default .default .unknown _ _ rfl rfl⟩

end OnlineDdl.Stepwise
