import OnlineDdl.Proofs.Plan.Dropping
import OnlineDdl.Proofs.Plan.Locality

/-! What is safe as it is asked for is planned as it is asked for. The stepwise rules are taken all the same,
and where nothing calls for steps they come out at the baseline, statement for statement, but for what is
dropped: indexes go beside other work, a key takes its index for pattern searches with it, and a check that
stands for NOT NULL goes in place of the flag. -/

set_option autoImplicit false

namespace OnlineDdl.Stepwise

-- The index for pattern searches on one column: one that is listed, or where nothing is known about the
-- table, the one that may have been generated.
def IsLikeHelper (table : String) (entry : Option TableEntry) (column name : String) : Prop :=
  (∃ i, IsPatternHelper entry column i ∧ i.name = name) ∨
    entry = none ∧ ObjectName.named .patternOps table [column] = name

-- How the plan of an operation that is safe compares with its baseline. Steps are compared as a whole, so
-- that what is sent agrees in its text, its timeouts and its place inside or outside of transactions.
def Follows (entry : Option TableEntry) (base planned : List Step) : Operation → Prop
  | .dropConstraint table name columns kind =>
    ∃ helper : Option String, planned = base ++ helper.toList.map .dropIndexConcurrently ∧
      ∀ like ∈ helper, ∃ column, DropsKey entry name columns kind column ∧ IsLikeHelper table entry column like
  | .dropIndex table name columns =>
    ∃ target, indexTarget table name columns entry = .ok target ∧ base = [.wrapped (.dropIndex target false)] ∧
      planned = if (entry.bind (·.index? target)).any (·.partitioned) then base
        else [.dropIndexConcurrently target]
  | .alterTogether _ .index _ _ =>
    ∃ names : List String, base = names.map (.wrapped <| .dropIndex · false) ∧
      planned = names.map .dropIndexConcurrently
  | .dropNotNull table column =>
    (∀ known ∈ entry, ∀ c ∈ known.constraints, IsNotNullCheck column c →
      planned = [.dropConstraint table c.name]) ∧
      ((∀ known ∈ entry, ∀ c ∈ known.constraints, ¬ IsNotNullCheck column c) → planned = base)
  | _ => planned = base

def groupTarget (table : String) (kind : TogetherKind) (entry : Option TableEntry) (group : List String) :
    Except Precondition String :=
  match kind with
  | .unique => (resolveConstraint table entry group (some .unique)).map (·.name)
  | .index => (resolveIndex table entry group).map (·.name)

def plainRemoval (table : String) (kind : TogetherKind) (name : String) : Step :=
  match kind with
  | .unique => .dropConstraint table name
  | .index => .wrapped (.dropIndex name false)

def gentleRemoval (table : String) (kind : TogetherKind) (name : String) : Step :=
  match kind with
  | .unique => .dropConstraint table name
  | .index => .dropIndexConcurrently name

variable (entry : Option TableEntry) (caps : ServerCaps)

theorem baseline_removal (table : String) (kind : TogetherKind) :
    Baseline.removeGroup table kind entry =
      fun group => (groupTarget table kind entry group).map (plainRemoval table kind) := by
  funext group
  cases kind with
  | unique =>
      rw [Baseline.removeGroup, groupTarget]
      cases resolveConstraint table entry group (some .unique) <;> rfl
  | index =>
      rw [Baseline.removeGroup, groupTarget]
      cases resolveIndex table entry group <;> rfl

theorem stepwise_removal (table : String) (kind : TogetherKind) :
    removeGroup table kind entry =
      fun group => (groupTarget table kind entry group).map (gentleRemoval table kind) := by
  funext group
  cases kind with
  | unique =>
      rw [removeGroup, groupTarget]
      cases resolveConstraint table entry group (some .unique) <;> rfl
  | index =>
      rw [removeGroup, groupTarget]
      cases resolveIndex table entry group <;> rfl

theorem baseline_removals (table : String) (kind : TogetherKind) (remove : List (List String)) :
    remove.mapM (Baseline.removeGroup table kind entry) =
      (remove.mapM (groupTarget table kind entry)).map (List.map (plainRemoval table kind)) := by
  rw [baseline_removal, map_all_map]

theorem stepwise_removals (table : String) (kind : TogetherKind) (remove : List (List String)) :
    remove.mapM (removeGroup table kind entry) =
      (remove.mapM (groupTarget table kind entry)).map (List.map (gentleRemoval table kind)) := by
  rw [stepwise_removal, map_all_map]

theorem plain_column_alike (table : String) (column : ColumnDef) (plain : column.hasInlineObjects = false) :
    Except.ok (addColumn table column caps entry) = Baseline.steps (.addColumn table column) caps entry := by
  simp only [ColumnDef.hasInlineObjects, Bool.or_eq_false_iff, Option.isSome_eq_false_iff,
    Option.isNone_iff_eq_none] at plain
  obtain ⟨⟨⟨keyless, repeating⟩, unindexed⟩, unreferring⟩ := plain
  simp [addColumn, Baseline.steps, columnKey, columnReference, ColumnDef.bareClause, ColumnDef.inlineClause,
    ColumnDef.indexes, ColumnDef.wantsIndex, ColumnDef.patternIndex, ColumnDef.hasInlineObjects,
    ColumnDef.reference, keyless, repeating, unindexed, unreferring]

theorem safe_column_plain (column : ColumnDef) (safe : (judgeColumn column caps).classification = .safe) :
    column.hasInlineObjects = false := by
  by_contra objects
  rw [Bool.not_eq_false] at objects
  rw [judgeColumn, objects] at safe
  split at safe
  · split at safe <;> cases safe
  · split at safe <;> cases safe

theorem drop_constraint_follows (table : String) (name : Option String) (columns : List String)
    (kind : Option ConstraintKind) (base planned : List Step)
    (rendered : Baseline.steps (.dropConstraint table name columns kind) caps entry = .ok base)
    (made : dropConstraint table name columns kind caps entry = .ok planned) :
    Follows entry base planned (.dropConstraint table name columns kind) := by
  obtain ⟨target, meant, rfl⟩ := (map_ok_iff _ _ _).mp rendered
  obtain ⟨same, again, rfl⟩ := (map_ok_iff _ _ _).mp made
  obtain rfl : target = same := Except.ok.inj (meant.symm.trans again)
  refine ⟨orphanedPatternIndex table caps entry target, rfl, fun orphan found => ?_⟩
  cases orphaned_grounds caps entry table name columns kind target orphan meant found with
  | orphaned _ _ _ _ column i key helper => exact ⟨column, key, .inl ⟨i, helper, rfl⟩⟩
  | generated _ _ _ _ column key unknown _ => exact ⟨column, key, .inr ⟨unknown, rfl⟩⟩

theorem drop_index_follows (table : String) (name : Option String) (columns : List String) (base planned : List Step)
    (rendered : Baseline.steps (.dropIndex table name columns) caps entry = .ok base)
    (made : dropIndex table name columns entry = .ok planned) :
    Follows entry base planned (.dropIndex table name columns) := by
  obtain ⟨target, meant, rfl⟩ := (map_ok_iff _ _ _).mp rendered
  refine ⟨target, meant, rfl, ?_⟩
  rw [dropIndex, meant] at made
  dsimp only at made
  cases found : entry.bind (·.index? target) with
  | none =>
      rw [found] at made
      cases made
      rfl
  | some i =>
      rw [found] at made
      dsimp only at made
      split at made
      · cases made
      · cases made
        by_cases partitioned : i.partitioned = true <;> simp [partitioned]

theorem removals_follow (table : String) (kind : TogetherKind) (remove : List (List String)) (base planned : List Step)
    (rendered : Baseline.steps (.alterTogether table kind [] remove) caps entry = .ok base)
    (made : alterTogether table kind [] remove entry = .ok planned) :
    Follows entry base planned (.alterTogether table kind [] remove) := by
  obtain ⟨plain, removed, rfl⟩ := (map_ok_iff _ _ _).mp rendered
  obtain ⟨gentle, removedGently, rfl⟩ := (map_ok_iff _ _ _).mp made
  obtain ⟨names, found, rfl⟩ := (map_ok_iff _ _ _).mp ((baseline_removals entry table kind remove).symm.trans removed)
  rw [stepwise_removals, found] at removedGently
  cases removedGently
  rw [List.map_nil, List.flatMap_nil, List.append_nil, List.append_nil]
  cases kind with
  | unique => rfl
  | index => exact ⟨names, rfl, rfl⟩

theorem drop_not_null_follows (table column : String) (planned : List Step)
    (made : dropNotNull table column entry = .ok planned) :
    Follows entry [.alter table (.dropNotNull column)] planned (.dropNotNull table column) := by
  obtain ⟨check, found, rfl⟩ := (map_ok_iff _ _ _).mp made
  cases entry with
  | none =>
      cases found
      exact ⟨fun known unknown => absurd unknown (Option.not_mem_none known), fun _ => rfl⟩
  | some known =>
      have listed (c : ConstraintInfo) : c ∈ known.constraints.filter (IsNotNullCheck column) ↔
          c ∈ known.constraints ∧ IsNotNullCheck column c := by
        rw [List.mem_filter, decide_eq_true_iff]
      rw [notNullCheck, not_null_checks_on] at found
      rcases all : known.constraints.filter (IsNotNullCheck column) with _ | ⟨sole, _ | ⟨other, rest⟩⟩ <;>
        rw [all] at found listed <;> cases found
      · refine ⟨fun same here c inside fits => ?_, fun _ => rfl⟩
        cases here
        exact absurd ((listed c).mpr ⟨inside, fits⟩) List.not_mem_nil
      · refine ⟨fun same here c inside fits => ?_, fun unlisted => ?_⟩
        · cases here
          rw [List.mem_singleton.mp ((listed c).mpr ⟨inside, fits⟩)]
        · obtain ⟨inside, fits⟩ := (listed sole).mp List.mem_cons_self
          exact absurd fits (unlisted known rfl sole inside)

-- Every operation that is judged safe is planned like its baseline, and so is a new column without keys,
-- references and indexes, however it is judged.
theorem safe_plans_follow_baseline (catalog : Catalog) :
    (∀ op config rows base planned, (judge op config caps rows).classification = .safe →
      Baseline.forCatalog op caps catalog = .ok base →
      forCatalog op (judge op config caps rows) caps catalog = .ok planned →
      Follows (catalog.table? op.table) base planned op) ∧
    ∀ table column decision, column.hasInlineObjects = false →
      forCatalog (.addColumn table column) decision caps catalog =
        Baseline.forCatalog (.addColumn table column) caps catalog := by
  simp only [Baseline.for_catalog, for_catalog]
  refine ⟨fun op config rows base planned safe rendered made => ?_, fun table column decision plain =>
    plain_column_alike _ caps table column plain⟩
  generalize catalog.table? op.table = entry at rendered made ⊢
  have unchanged (same : Baseline.steps op caps entry = .ok planned) : planned = base :=
    Except.ok.inj (same.symm.trans rendered)
  cases op with
  | addColumn table column =>
      have alike := plain_column_alike entry caps table column (safe_column_plain caps column safe)
      exact unchanged (alike.symm.trans made)
  | setNotNull table column =>
      rw [judge] at safe
      generalize NotNullStrategy.select config.notNullMode caps rows = strategy at safe
      cases strategy <;> cases safe
  | dropNotNull table column =>
      cases rendered
      exact drop_not_null_follows entry table column planned made
  | addConstraint table constraint =>
      rw [judge] at safe
      split at safe <;> cases safe
  | dropConstraint table name columns kind =>
      exact drop_constraint_follows entry caps table name columns kind base planned rendered made
  | addIndex table index =>
      by_cases beside : index.concurrently = true
      · rw [steps, if_pos beside] at made
        exact unchanged made
      · rw [judge, if_neg beside] at safe
        cases safe
  | dropIndex table name columns => exact drop_index_follows entry caps table name columns base planned rendered made
  | alterTogether table kind add remove =>
      cases add with
      | cons group others => cases safe
      | nil => exact removals_follow entry caps table kind remove base planned rendered made
  | _ => exact unchanged made

theorem dropped_key_takes_helper :
    let op := Operation.dropConstraint "orders" (some "orders_code") ["code"] (some .unique)
    let helper : IndexInfo := ⟨"orders_code_like", ["code"], ["varchar_pattern_ops"], false, false, true, false, none⟩
    let catalog : Catalog := { tables := [("orders", TableEntry.empty.withIndex helper)] }
    let base := [Step.dropConstraint "orders" "orders_code"]
    let planned := base ++ [.dropIndexConcurrently "orders_code_like"]
    (judge op .default .default .unknown).classification = .safe ∧
      Baseline.forCatalog op .default catalog = .ok base ∧
      forCatalog op (judge op .default .default .unknown) .default catalog = .ok planned ∧
      Follows (catalog.table? op.table) base planned op := by
  intro op helper catalog base planned
  have rendered : Baseline.forCatalog op .default catalog = .ok base := by decide +kernel
  have made : forCatalog op (judge op .default .default .unknown) .default catalog = .ok planned := by decide +kernel
  exact ⟨rfl, rendered, made,
    (safe_plans_follow_baseline .default catalog).1 op .default .unknown base planned rfl rendered made⟩

end OnlineDdl.Stepwise
