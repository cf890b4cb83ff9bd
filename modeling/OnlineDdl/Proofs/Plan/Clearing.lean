import OnlineDdl.Proofs.Plan.Contents
import OnlineDdl.Proofs.Plan.Locality

/-! Indexes that are dropped beside other work. The server refuses that for an index on a partitioned
table and for one behind a constraint. A request to drop an index looks at both; what is cleared away
for another reason is not looked at, so that only the catalog can keep a plan from such a drop. -/

set_option autoImplicit false

namespace OnlineDdl.Stepwise

def IsFree (entry : Option TableEntry) (name : String) : Prop :=
  ∀ i ∈ entry.bind (·.index? name), i.partitioned = false ∧ i.constraint = none

instance (entry : Option TableEntry) : DecidablePred (IsFree entry) :=
  fun _ => inferInstanceAs (Decidable (∀ i ∈ _, _))

def DropsOnlyFree (entry : Option TableEntry) (steps : List Step) : Prop :=
  ∀ name ∈ steps.filterMap clearedIndex?, IsFree entry name

def halfBuilt (entry : Option TableEntry) (indexes : List IndexSpec) : List String :=
  (indexes.map (·.name)).filter fun name => knownIndex entry name == some false

-- The indexes that go because of what an operation does: the pattern search index of a key that is
-- promoted or dropped, and the indexes on groups that are removed.
def outlived (op : Operation) (caps : ServerCaps) (entry : Option TableEntry) : List String :=
  match op with
  | .addConstraint _ (.primaryKey _ columns) => (promotedPatternIndex entry columns).toList.map (·.name)
  | .dropConstraint table name columns kind =>
    ((dropTarget table name columns kind entry).toOption.bind (orphanedPatternIndex table caps entry)).toList
  | .alterTogether table .index _ remove =>
    remove.filterMap fun group => (resolveIndex table entry group).toOption.map (·.name)
  | _ => []

def clearedAside (op : Operation) (caps : ServerCaps) (entry : Option TableEntry) : List String :=
  halfBuilt entry (wantedIndexes op caps entry) ++ outlived op caps entry

variable (caps : ServerCaps) (entry : Option TableEntry)

theorem half_built_append (first second : List IndexSpec) :
    halfBuilt entry (first ++ second) = halfBuilt entry first ++ halfBuilt entry second := by
  rw [halfBuilt, List.map_append, List.filter_append]
  rfl

theorem add_foreign_key_clears (table name : String) (columns : List String) (reference : Reference) :
    (addForeignKey entry table name columns reference).filterMap clearedIndex? =
      halfBuilt entry
        (if (entry.bind (·.supportingIndex? columns)).isSome then [] else [.generated table columns]) := by
  rw [addForeignKey, List.filterMap_append, add_not_valid_clears, List.append_nil]
  split
  · rfl
  · exact build_index_clears entry _

theorem column_reference_clears (table : String) (column : ColumnDef) :
    (columnReference table column entry).filterMap clearedIndex? =
      halfBuilt entry (columnIndex table column entry).toList := by
  rw [columnReference, columnIndex, ColumnDef.reference]
  cases column.references with
  | some fk =>
      rw [Option.map_some, Option.isSome_some, if_pos rfl]
      dsimp only
      rw [add_foreign_key_clears]
      split <;> rfl
  | none =>
      rw [Option.map_none, Option.isSome_none, if_neg Bool.false_ne_true]
      dsimp only
      split
      · exact build_index_clears entry _
      · rfl

theorem add_keys_clear (key : Option Key) :
    (key.toList.flatMap (addKey entry)).filterMap clearedIndex? =
      halfBuilt entry (key.toList.map Key.index) := by
  cases key with
  | none => rfl
  | some key => simp [halfBuilt]

theorem add_column_clears (table : String) (column : ColumnDef) :
    (addColumn table column caps entry).filterMap clearedIndex? =
      halfBuilt entry (wantedIndexes (.addColumn table column) caps entry) := by
  have first : (.alter table (.addColumn column.bareClause) :: Baseline.dropDefault table column).filterMap
      clearedIndex? = [] := by
    rw [Baseline.dropDefault]
    split <;> rfl
  rw [addColumn, List.filterMap_append, List.filterMap_append, List.filterMap_append, first, add_keys_clear,
    column_reference_clears, build_all_clears, List.nil_append, wantedIndexes, half_built_append, half_built_append]
  rfl

theorem add_constraint_clears (table : String) (constraint : ConstraintDef) (planned : List Step)
    (succeeds : addConstraint table entry constraint = .ok planned) :
    planned.filterMap clearedIndex? = clearedAside (.addConstraint table constraint) caps entry := by
  rw [clearedAside]
  cases constraint with
  | check name columns expression =>
      obtain ⟨name, -, rfl⟩ := (map_ok_iff _ _ _).mp succeeds
      simp [wantedIndexes, halfBuilt, outlived]
  | unique name columns condition deferrable =>
      cases succeeds
      rw [add_key_clears, build_index_clears]
      exact (List.append_nil _).symm
  | primaryKey name columns =>
      rw [promotion_parts] at succeeds
      cases succeeds
      rw [List.filterMap_append, drops_clear, add_key_clears, build_index_clears]
      rfl
  | foreignKey name columns toTable toColumns onDelete deferrable =>
      cases succeeds
      rw [add_foreign_key_clears]
      exact (List.append_nil _).symm
  | exclusion name expression =>
      cases succeeds
      rfl

theorem drop_constraint_clears (table : String) (name : Option String) (columns : List String)
    (kind : Option ConstraintKind) (planned : List Step)
    (succeeds : dropConstraint table name columns kind caps entry = .ok planned) :
    planned.filterMap clearedIndex? = clearedAside (.dropConstraint table name columns kind) caps entry := by
  obtain ⟨target, meant, rfl⟩ := (map_ok_iff _ _ _).mp succeeds
  rw [List.filterMap_cons_none rfl, drops_clear, clearedAside, outlived, meant]
  rfl

theorem add_index_clears (table : String) (index : IndexDef) (planned : List Step)
    (plainly : index.concurrently = false) (succeeds : addIndex table index caps entry = .ok planned) :
    planned.filterMap clearedIndex? = clearedAside (.addIndex table index) caps entry := by
  obtain ⟨spec, defined, rfl⟩ := (map_ok_iff _ _ _).mp succeeds
  rw [clearedAside, wantedIndexes, if_neg (by simp [plainly]), defined]
  exact (build_all_clears entry (spec :: (requestedPatternIndex table index caps).toList)).trans
    (List.append_nil _).symm

theorem add_groups_clear (table : String) (kind : TogetherKind) (add : List (List String)) :
    (add.flatMap (addGroup table kind entry)).filterMap clearedIndex? =
      halfBuilt entry (add.map (groupIndex table kind)) := by
  have one (group : List String) : (addGroup table kind entry group).filterMap clearedIndex? =
      (buildIndex entry (groupIndex table kind group)).filterMap clearedIndex? := by
    cases kind with
    | unique => exact add_key_clears entry _
    | index => rfl
  rw [halfBuilt, ← build_all_clears, List.flatMap_map]
  induction add with
  | nil => rfl
  | cons group rest ih =>
      rw [List.flatMap_cons, List.flatMap_cons, List.filterMap_append, List.filterMap_append, one, ih]

theorem removals_clear (table : String) (kind : TogetherKind) (add remove : List (List String)) (removals : List Step)
    (removed : remove.mapM (removeGroup table kind entry) = .ok removals) :
    removals.filterMap clearedIndex? = outlived (.alterTogether table kind add remove) caps entry := by
  induction (map_all_ok_iff _ _ _).mp removed with
  | nil => cases kind <;> rfl
  | cons head tail ih =>
      have others := ih ((map_all_ok_iff _ _ _).mpr tail)
      cases kind with
      | unique =>
          obtain ⟨c, -, rfl⟩ := (map_ok_iff _ _ _).mp head
          exact others
      | index =>
          obtain ⟨i, found, rfl⟩ := (map_ok_iff _ _ _).mp head
          rw [outlived] at others ⊢
          rw [List.filterMap_cons, List.filterMap_cons, others, found]
          rfl

theorem cleared_iff (op : Operation) (decision : Decision) (planned : List Step)
    (succeeds : steps op decision caps entry = .ok planned)
    (asked : ∀ table name columns, op ≠ .dropIndex table name columns) (name : String) :
    name ∈ planned.filterMap clearedIndex? ↔ name ∈ clearedAside op caps entry := by
  cases op with
  | dropIndex table given columns => exact absurd rfl (asked table given columns)
  | addColumn table column =>
      cases succeeds
      rw [add_column_clears]
      exact iff_of_eq (congrArg (name ∈ ·) (List.append_nil _).symm)
  | addConstraint table constraint => rw [add_constraint_clears caps entry table constraint planned succeeds]
  | dropConstraint table given columns kind =>
      rw [drop_constraint_clears caps entry table given columns kind planned succeeds]
  | addIndex table index =>
      rw [steps] at succeeds
      split at succeeds
      · rename_i concurrently
        obtain ⟨spec, -, rfl⟩ := (map_ok_iff _ _ _).mp succeeds
        simp [clearedAside, halfBuilt, wantedIndexes, outlived, concurrently, clearedIndex?,
          Step.createIndexConcurrently]
      · rename_i plainly
        rw [add_index_clears caps entry table index planned (Bool.eq_false_iff.mpr plainly) succeeds]
  | alterTogether table kind add remove =>
      obtain ⟨removals, removed, rfl⟩ := (map_ok_iff _ _ _).mp succeeds
      rw [List.filterMap_append, removals_clear caps entry table kind add remove removals removed, add_groups_clear,
        List.mem_append, clearedAside, List.mem_append, or_comm]
      rfl
  | setNotNull table column =>
      cases succeeds
      have nothing : (setNotNull table column (decision.notNull.getD .directUnsafe) caps entry).filterMap
          clearedIndex? = [] := by
        rw [setNotNull]
        split
        · exact adopt_not_null_clears table column _ caps
        · split <;> simp
      rw [nothing]
      rfl
  | dropNotNull table column =>
      obtain ⟨check, -, rfl⟩ := (map_ok_iff _ _ _).mp succeeds
      cases check <;> rfl
  | createTable table columns =>
      cases succeeds
      simp [clearedAside, halfBuilt, wantedIndexes, outlived, clearedIndex?, Step.unwrapped]
  | renameTable table newName =>
      cases succeeds
      split <;> rfl
  | renameColumn table column newName =>
      cases succeeds
      split <;> rfl
  | _ =>
      cases succeeds
      rfl

-- A request to drop an index is refused for the index of a constraint and takes a lock for an index on a
-- partitioned table.
theorem drop_index_free (table : String) (name : Option String) (columns : List String) (planned : List Step)
    (succeeds : dropIndex table name columns entry = .ok planned) : DropsOnlyFree entry planned := by
  rw [dropIndex] at succeeds
  cases resolved : indexTarget table name columns entry with
  | error cause =>
      rw [resolved] at succeeds
      cases succeeds
  | ok target =>
      rw [resolved] at succeeds
      dsimp only at succeeds
      intro cleared member i known
      cases listed : entry.bind (·.index? target) with
      | none =>
          rw [listed] at succeeds
          cases succeeds
          rw [List.mem_singleton.mp member, Option.mem_def, listed] at known
          cases known
      | some j =>
          cases owner : j.constraint with
          | some constraint => simp [listed, owner] at succeeds
          | none =>
              cases partitioned : j.partitioned with
              | true =>
                  simp only [listed, owner, partitioned, if_true] at succeeds
                  cases succeeds
                  cases member
              | false =>
                  simp only [listed, owner, partitioned, Bool.false_eq_true, if_false] at succeeds
                  cases succeeds
                  rw [List.mem_singleton.mp member, Option.mem_def, listed] at known
                  cases known
                  exact ⟨partitioned, owner⟩

-- What is cleared away aside is dropped beside other work whatever is known of it, so the guard of a
-- request to drop an index holds of a plan exactly where the catalog has nothing against it.
theorem drops_only_free_iff (op : Operation) (decision : Decision) (caps : ServerCaps) (catalog : Catalog)
    (planned : List Step) (succeeds : forCatalog op decision caps catalog = .ok planned) :
    DropsOnlyFree (catalog.table? op.table) planned ↔
      ∀ name ∈ clearedAside op caps (catalog.table? op.table), IsFree (catalog.table? op.table) name := by
  rw [for_catalog] at succeeds
  by_cases asked : ∃ table name columns, op = .dropIndex table name columns
  · obtain ⟨table, name, columns, rfl⟩ := asked
    have free := drop_index_free _ table name columns planned succeeds
    exact ⟨fun _ name member => (nomatch member), fun _ => free⟩
  · have other : ∀ table name columns, op ≠ .dropIndex table name columns := by simpa using asked
    have same := cleared_iff caps _ op decision planned succeeds other
    exact ⟨fun free name member => free name ((same name).mpr member),
      fun free name member => free name ((same name).mp member)⟩

def reservations (partitioned : Bool) : TableEntry :=
  ⟨[], [⟨"by_room", ["room", "day"], [], false, false, true, partitioned, none⟩],
    [⟨"room", "integer", true⟩, ⟨"day", "date", true⟩]⟩

def roomRemoval : Operation := .alterTogether "reservations" .index [] [["room", "day"]]

theorem plain_index_removed_freely :
    forCatalog roomRemoval ⟨.unsafeFixable, none⟩ ⟨120000, false⟩ { tables := [("reservations", reservations false)] } =
        .ok [.dropIndexConcurrently "by_room"] ∧
      clearedAside roomRemoval ⟨120000, false⟩ (some (reservations false)) = ["by_room"] ∧
      DropsOnlyFree (some (reservations false)) [.dropIndexConcurrently "by_room"] := by
  have plan : forCatalog roomRemoval ⟨.unsafeFixable, none⟩ ⟨120000, false⟩
      { tables := [("reservations", reservations false)] } = .ok [.dropIndexConcurrently "by_room"] := by decide
  have cleared : clearedAside roomRemoval ⟨120000, false⟩ (some (reservations false)) = ["by_room"] := by decide
  refine ⟨plan, cleared, (drops_only_free_iff _ _ _ _ _ plan).mpr fun name member => ?_⟩
  change name ∈ clearedAside roomRemoval ⟨120000, false⟩ (some (reservations false)) at member
  rw [cleared] at member
  rw [List.mem_singleton.mp member]
  decide

-- By its name the index is dropped under a lock, as part of a removal it is dropped beside other work.
theorem partitioned_index_removed :
    let entry := reservations true
    let catalog : Catalog := { tables := [("reservations", entry)] }
    forCatalog (.dropIndex "reservations" (some "by_room") []) ⟨.unsafeFixable, none⟩ ⟨120000, false⟩ catalog =
        .ok [.wrapped (.dropIndex "by_room" false)] ∧
      forCatalog roomRemoval ⟨.unsafeFixable, none⟩ ⟨120000, false⟩ catalog =
        .ok [.dropIndexConcurrently "by_room"] ∧
      ¬ DropsOnlyFree (some entry) [.dropIndexConcurrently "by_room"] := by
  refine ⟨by decide, by decide, fun free => ?_⟩
  exact absurd (free "by_room" (by decide)) (by decide)

end OnlineDdl.Stepwise
