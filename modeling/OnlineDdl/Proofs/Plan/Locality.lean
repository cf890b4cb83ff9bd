import Mathlib.Data.List.Basic
import OnlineDdl.Plan.Compile

/-! What plans know of tables. The rules consult a catalog by table names, those of the indexes, keys and
constraints that they are about. All of these belong to the table of the operation, so that its entry alone
counts: the tables that an operation refers to, and one whose name it takes, may be anything. So a plan that is
made from all tables at once is the plan that is made when its own table is read again, right before it is run. -/

set_option autoImplicit false

namespace OnlineDdl

namespace Stepwise

theorem column_key_own (table : String) (column : ColumnDef) (key : Key) (called : key ∈ columnKey table column) :
    key.table = table := by
  rw [columnKey] at called
  split at called
  · cases called
    rfl
  · split at called
    · cases called
      rfl
    · cases called

theorem column_pattern_own (table : String) (column : ColumnDef) (caps : ServerCaps) (index : IndexSpec)
    (called : index ∈ column.patternIndex table caps) : index.table = table := by
  rw [ColumnDef.patternIndex] at called
  split at called
  · obtain ⟨ops, -, rfl⟩ := Option.map_eq_some_iff.mp called
    rfl
  · cases called

theorem requested_pattern_own (table : String) (index : IndexDef) (caps : ServerCaps) (spec : IndexSpec)
    (requested : spec ∈ requestedPatternIndex table index caps) : spec.table = table := by
  rw [requestedPatternIndex] at requested
  split at requested
  · obtain ⟨ops, -, rfl⟩ := Option.map_eq_some_iff.mp requested
    rfl
  · cases requested

theorem defined_index_own (table : String) (index : IndexDef) (spec : IndexSpec)
    (defined : IndexSpec.ofDef table index = .ok spec) : spec.table = table := by
  rw [IndexSpec.ofDef] at defined
  split at defined
  · cases defined
  · cases defined
    rfl

variable (find : String → Option TableEntry)

theorem build_all_own (table : String) (indexes : List IndexSpec) (own : ∀ index ∈ indexes, index.table = table) :
    indexes.flatMap (buildIndex find) = indexes.flatMap (buildIndex (find table)) :=
  List.flatMap_congr fun index member => by rw [buildIndex, buildIndex, own index member]

theorem add_key_own (key : Key) : addKey find key = addKey (find key.table) key := rfl

theorem column_reference_own (table : String) (column : ColumnDef) :
    columnReference table column find = columnReference table column (find table) := by
  rw [columnReference, columnReference]
  cases column.reference table with
  | none => rfl
  | some named => rfl

theorem add_column_own (table : String) (column : ColumnDef) (caps : ServerCaps) :
    addColumn table column caps find = addColumn table column caps (find table) := by
  have keys : (columnKey table column).toList.flatMap (addKey find) =
      (columnKey table column).toList.flatMap (addKey (find table)) :=
    List.flatMap_congr fun key member => by
      rw [add_key_own, column_key_own table column key (Option.mem_toList.mp member)]
  rw [addColumn, addColumn, keys, column_reference_own,
    build_all_own find table _ fun index member =>
      column_pattern_own table column caps index (Option.mem_toList.mp member)]

theorem add_constraint_own (table : String) (constraint : ConstraintDef) :
    addConstraint table find constraint = addConstraint table (find table) constraint := by
  cases constraint <;> rfl

theorem add_index_own (table : String) (index : IndexDef) (caps : ServerCaps) :
    addIndex table index caps find = addIndex table index caps (find table) := by
  rw [addIndex, addIndex, build_all_own find table _ fun spec member =>
    requested_pattern_own table index caps spec (Option.mem_toList.mp member)]
  cases defined : IndexSpec.ofDef table index with
  | error cause => rfl
  | ok spec => rw [Except.map, Except.map, buildIndex, buildIndex, defined_index_own table index spec defined]

theorem alter_together_own (table : String) (kind : TogetherKind) (add remove : List (List String)) :
    alterTogether table kind add remove find = alterTogether table kind add remove (find table) := by
  have added : addGroup table kind find = addGroup table kind (find table) := by
    funext group
    cases kind <;> rfl
  rw [alterTogether, alterTogether, added]

end Stepwise

theorem Baseline.steps_own (op : Operation) (caps : ServerCaps) (find : String → Option TableEntry) :
    steps op caps find = steps op caps (find op.table) := by
  cases op <;> rfl

-- Whatever a rule looks up, it asks about the table of the operation.
theorem Stepwise.steps_own (op : Operation) (decision : Decision) (caps : ServerCaps)
    (find : String → Option TableEntry) : steps op decision caps find = steps op decision caps (find op.table) := by
  cases op with
  | addColumn table column => exact congrArg Except.ok (add_column_own find table column caps)
  | addConstraint table constraint => exact add_constraint_own find table constraint
  | addIndex table index =>
      rw [steps, steps, add_index_own]
      rfl
  | alterTogether table kind add remove => exact alter_together_own find table kind add remove
  | _ => rfl

theorem Baseline.for_catalog (op : Operation) (caps : ServerCaps) (catalog : Catalog) :
    forCatalog op caps catalog = steps op caps (catalog.table? op.table) :=
  steps_own op caps catalog.table?

theorem Stepwise.for_catalog (op : Operation) (decision : Decision) (caps : ServerCaps) (catalog : Catalog) :
    forCatalog op decision caps catalog = steps op decision caps (catalog.table? op.table) :=
  steps_own op decision caps catalog.table?

theorem baseline_local (op : Operation) (caps : ServerCaps) (catalog other : Catalog)
    (same : catalog.table? op.table = other.table? op.table) :
    Baseline.forCatalog op caps catalog = Baseline.forCatalog op caps other := by
  rw [Baseline.for_catalog, Baseline.for_catalog, same]

theorem stepwise_local (op : Operation) (decision : Decision) (caps : ServerCaps) (catalog other : Catalog)
    (same : catalog.table? op.table = other.table? op.table) :
    Stepwise.forCatalog op decision caps catalog = Stepwise.forCatalog op decision caps other := by
  rw [Stepwise.for_catalog, Stepwise.for_catalog, same]

theorem compile_with_local (op : Operation) (config : PlannerConfig) (caps : ServerCaps) (catalog other : Catalog)
    (rows : RowEstimate) (same : catalog.table? op.table = other.table? op.table) :
    compileWith op config caps catalog rows = compileWith op config caps other rows := by
  rw [compileWith, compileWith, baseline_local op caps catalog other same,
    stepwise_local op _ caps catalog other same]

-- A plan is made by rules that look up whatever names they are given, and yet it depends on one entry: it is
-- the plan of a catalog that has this entry for every table.
theorem plans_know_own_table (op : Operation) (decision : Decision) (caps : ServerCaps) (catalog other : Catalog)
    (same : catalog.table? op.table = other.table? op.table) :
    Baseline.forCatalog op caps catalog = Baseline.forCatalog op caps other ∧
      Stepwise.forCatalog op decision caps catalog = Stepwise.forCatalog op decision caps other ∧
      ∀ known : Catalog,
        Baseline.forCatalog op caps known = Baseline.steps op caps (known.table? op.table) ∧
          Stepwise.forCatalog op decision caps known = Stepwise.steps op decision caps (known.table? op.table) :=
  ⟨baseline_local op caps catalog other same, stepwise_local op decision caps catalog other same,
    fun known => ⟨Baseline.for_catalog op caps known, Stepwise.for_catalog op decision caps known⟩⟩

-- What is known of the table referred to has the names that the plan needs, and leaves it as it is.
theorem reference_planned_alike :
    let op := Operation.addConstraint "orders"
      (.foreignKey (some "orders_customer") ["customer_id"] "customers" ["id"] none false)
    let support := IndexSpec.generated "orders" ["customer_id"]
    let halted : IndexInfo := ⟨support.name, ["customer_id"], [], false, false, false, false, none⟩
    let orders := TableEntry.empty.withIndex halted
    let customers := (TableEntry.empty.withIndex { halted with valid := true }).withConstraint
      ⟨"orders_customer", .foreignKey, ["customer_id"], true, none⟩
    let rebuilt := [Step.dropIndexConcurrently support.name, .createIndexConcurrently support,
      .alter "orders" (.addConstraint "orders_customer"
        (.foreignKey ["customer_id"] ⟨"customers", ["id"], none, false⟩) true),
      .validate "orders" "orders_customer"]
    let alone : Catalog := { tables := [("orders", orders)] }
    let both : Catalog := { tables := [("customers", customers), ("orders", orders)] }
    Stepwise.forCatalog op (.of .unsafeFixable) .default alone = .ok rebuilt ∧
      Stepwise.forCatalog op (.of .unsafeFixable) .default both = .ok rebuilt := by
  intro op support halted orders customers rebuilt alone both
  have planned : Stepwise.forCatalog op (.of .unsafeFixable) .default alone = .ok rebuilt := by decide +kernel
  have same : alone.table? op.table = both.table? op.table := rfl
  exact ⟨planned, (plans_know_own_table op _ _ _ _ same).2.1.symm.trans planned⟩

end OnlineDdl
