import OnlineDdl.Proofs.Plan.Locality
import OnlineDdl.Proofs.Plan.Realization

/-! New columns of a table of which nothing is known: what both plans put on the column. They differ in
one case only, a key that is a reference as well, where the stepwise plan builds an index that the
index of the key makes superfluous. -/

set_option autoImplicit false

namespace OnlineDdl.Stepwise

variable (server : Server)

def newKey (column : ColumnDef) (named : InlineKey → String) : Option Addition :=
  if column.primaryKey then some (.key (named .primaryKey) [column.name] true)
  else if column.unique then some (.key (named .unique) [column.name] false)
  else none

def generatedKeyName (table column : String) : InlineKey → String
  | .primaryKey => primaryKeyName table none [column]
  | .unique => uniqueName table none [column]

def newReference (table : String) (column : ColumnDef) : List Addition :=
  (column.reference table).toList.map fun (name, reference) => .rule (referenceRule name [column.name] reference)

def stepwiseAdditions (table : String) (column : ColumnDef) (caps : ServerCaps) : List Addition :=
  (newKey column (generatedKeyName table column.name)).toList ++
    ((columnIndex table column none).toList.map .index ++ newReference table column) ++
    (column.patternIndex table caps).toList.map .index

def baselineAdditions (t : Table) (column : ColumnDef) (caps : ServerCaps) : List Addition :=
  (newKey column (server.keyName t · column.name)).toList ++ newReference t.name column ++
    (column.indexes t.name caps).map .index

theorem column_key_realizes (table : String) (column : ColumnDef) :
    Realizes server table column.name ((columnKey table column).toList.flatMap (addKey fun _ => none))
      (newKey column (generatedKeyName table column.name)).toList := by
  rw [columnKey, newKey]
  by_cases primary : column.primaryKey = true
  · rw [if_pos primary, if_pos primary, Option.toList_some, List.flatMap_singleton]
    exact add_key_realizes server column.name (.primaryKey table _ [column.name]) rfl rfl
  · rw [if_neg primary, if_neg primary]
    by_cases unique : column.unique = true
    · rw [if_pos unique, if_pos unique, Option.toList_some, List.flatMap_singleton]
      exact add_key_realizes server column.name (.unique table _ [column.name]) rfl rfl
    · rw [if_neg unique, if_neg unique]
      exact realizes_nothing server table column.name

theorem column_reference_realizes (table : String) (column : ColumnDef) :
    Realizes server table column.name (columnReference table column fun _ => none)
      ((columnIndex table column none).toList.map .index ++ newReference table column) := by
  have plain := create_realizes server column.name (.generated table [column.name])
    (.createIndexConcurrently _) true rfl
  rw [columnReference, columnIndex, newReference, ColumnDef.reference]
  cases column.references with
  | some fk =>
      exact realizes_append server table column.name _ _ [_] [_] plain
        (add_reference_realizes server table column.name _ [column.name] _)
  | none =>
      rw [Option.map_none, Option.isSome_none, if_neg Bool.false_ne_true]
      dsimp only
      split
      · exact plain
      · exact realizes_nothing server table column.name

theorem pattern_index_realizes (table : String) (column : ColumnDef) (caps : ServerCaps) :
    Realizes server table column.name ((column.patternIndex table caps).toList.flatMap (buildIndex fun _ => none))
      ((column.patternIndex table caps).toList.map .index) := by
  rw [ColumnDef.patternIndex]
  split
  · cases column.patternOps with
    | none => exact realizes_nothing server table column.name
    | some ops => exact create_realizes server column.name (.patternOps table [column.name] ops) _ true rfl
  · exact realizes_nothing server table column.name

def widened (t : Table) (column : ColumnDef) : Table :=
  { t with columns := t.columns ++ [⟨column.name, column.dataType, !column.nullable⟩] }

theorem widened_column (t : Table) (column : ColumnDef) : (widened t column).hasColumn column.name = true := by
  simp [widened, Table.hasColumn]

theorem stepwise_column_runs (t : Table) (column : ColumnDef) (caps : ServerCaps) :
    t.run server (addColumn t.name column caps fun _ => none) =
      if t.hasColumn column.name then none
      else (widened t column).grow (stepwiseAdditions t.name column caps) := by
  have follows := realizes_append server t.name column.name _ _ _ _
    (realizes_append server t.name column.name _ _ _ _
      (realizes_append server t.name column.name _ _ _ _ (drop_default_realizes server t.name column)
        (column_key_realizes server t.name column))
      (column_reference_realizes server t.name column))
    (pattern_index_realizes server t.name column caps)
  have adds : (Step.alter t.name (.addColumn column.bareClause)).change.effect server t =
      if t.hasColumn column.name then none else some (widened t column) := if_pos rfl
  rw [addColumn, Table.run, List.cons_append, List.cons_append, List.cons_append, Table.runBy, adds]
  by_cases present : t.hasColumn column.name = true
  · rw [if_pos present, if_pos present]
    rfl
  · rw [if_neg present, if_neg present, Option.bind_some, ← Table.run,
      follows (widened t column) rfl (widened_column t column)]
    rfl

def baselinePlan (table : String) (column : ColumnDef) (caps : ServerCaps) : List Step :=
  .alter table (.addColumn (column.inlineClause table)) :: Baseline.dropDefault table column ++
    (column.indexes table caps).map Baseline.createIndex

theorem inline_grows (t : Table) (column : ColumnDef) (table : String) :
    (t.addColumnKey server column.name (column.inlineClause table).key).bind
        (fun keyed => keyed.addColumnReference server column.name (column.reference table)) =
      t.grow ((newKey column (server.keyName t · column.name)).toList ++ newReference table column) := by
  have keyed : t.addColumnKey server column.name (column.inlineClause table).key =
      t.grow (newKey column (server.keyName t · column.name)).toList := by
    rw [ColumnDef.inlineClause, newKey]
    by_cases primary : column.primaryKey = true
    · rw [if_pos primary, if_pos primary, Option.toList_some, Table.grow_one]
      rfl
    · rw [if_neg primary, if_neg primary]
      by_cases unique : column.unique = true
      · rw [if_pos unique, if_pos unique, Option.toList_some, Table.grow_one]
        rfl
      · rw [if_neg unique, if_neg unique]
        rfl
  rw [keyed, Table.grow_append]
  refine Option.bind_congr fun next _ => ?_
  rw [newReference]
  cases column.reference table with
  | none => rfl
  | some named =>
      rw [Option.toList_some, List.map_singleton, Table.grow_one]
      rfl

theorem column_index_own (table : String) (column : ColumnDef) (caps : ServerCaps) (index : IndexSpec)
    (called : index ∈ column.indexes table caps) : index.table = table := by
  rw [ColumnDef.indexes] at called
  rcases List.mem_append.mp called with plain | pattern
  · split at plain
    · rw [List.mem_singleton.mp plain]
      rfl
    · cases plain
  · exact column_pattern_own table column caps index (Option.mem_toList.mp pattern)

theorem baseline_column_runs (t : Table) (column : ColumnDef) (caps : ServerCaps) :
    t.run server (baselinePlan t.name column caps) =
      if t.hasColumn column.name then none
      else (widened t column).grow (baselineAdditions server (widened t column) column caps) := by
  have follows := realizes_append server t.name column.name _ _ _ _ (drop_default_realizes server t.name column)
    (create_all_realizes server t.name column.name (column.indexes t.name caps) Baseline.createIndex
      (column_index_own t.name column caps) fun _ => ⟨false, rfl⟩)
  have adds : (Step.alter t.name (.addColumn (column.inlineClause t.name))).change.effect server t =
      if t.hasColumn column.name then none
      else (widened t column).grow ((newKey column (server.keyName (widened t column) · column.name)).toList ++
        newReference t.name column) := by
    rw [← inline_grows]
    exact if_pos rfl
  rw [baselinePlan, Table.run, List.cons_append, Table.runBy, adds]
  by_cases present : t.hasColumn column.name = true
  · rw [if_pos present, if_pos present]
    rfl
  · rw [if_neg present, if_neg present]
    refine Eq.trans (Option.bind_congr fun next grown => ?_) (Table.grow_append _ _ _).symm
    have kept := Table.grow_adds _ next _ grown
    exact follows next kept.name ((kept.columns column.name).trans (widened_column t column))

-- What is on a column, but for the names of keys and of the indexes behind them.
def unnamedRule (c : HeldConstraint) : HeldConstraint :=
  if c.kind.isIndexBacked then { c with name := "", index := none } else c

def unnamedIndex (i : HeldIndex) : HeldIndex :=
  if i.constraint.isSome then { i with name := "", constraint := some "" } else i

def rulesOn (column : String) (constraints : List HeldConstraint) : List HeldConstraint :=
  (constraints.filter (·.columns.contains column)).map unnamedRule

def indexesOn (column : String) (indexes : List HeldIndex) : List HeldIndex :=
  (indexes.filter (·.columns.contains column)).map unnamedIndex

def AlikeOn (column : String) (a b : Table) : Prop :=
  (rulesOn column a.constraints).Perm (rulesOn column b.constraints) ∧
    (indexesOn column a.indexes).Perm (indexesOn column b.indexes)

def isKeyedReference (column : ColumnDef) : Bool :=
  (column.primaryKey || column.unique) && column.references.isSome

-- The index that only the stepwise plan builds.
def surplus (table : String) (column : ColumnDef) : List IndexSpec :=
  if isKeyedReference column then [.generated table [column.name]] else []

theorem rules_append (column : String) (first second : List HeldConstraint) :
    rulesOn column (first ++ second) = rulesOn column first ++ rulesOn column second := by
  rw [rulesOn, List.filter_append, List.map_append]
  rfl

theorem indexes_append (column : String) (first second : List HeldIndex) :
    indexesOn column (first ++ second) = indexesOn column first ++ indexesOn column second := by
  rw [indexesOn, List.filter_append, List.map_append]
  rfl

theorem column_index_unlisted (table : String) (column : ColumnDef) :
    (columnIndex table column none).toList =
      surplus table column ++ if column.wantsIndex then [.generated table [column.name]] else [] := by
  rw [columnIndex, surplus, isKeyedReference, ColumnDef.wantsIndex]
  cases column.references <;> cases column.primaryKey <;> cases column.unique <;> cases column.index <;> rfl

theorem key_unnamed (column : ColumnDef) (named other : InlineKey → String) :
    rulesOn column.name ((newKey column named).toList.filterMap Addition.rule?) =
        rulesOn column.name ((newKey column other).toList.filterMap Addition.rule?) ∧
      indexesOn column.name ((newKey column named).toList.filterMap Addition.index?) =
        indexesOn column.name ((newKey column other).toList.filterMap Addition.index?) := by
  rw [newKey, newKey]
  by_cases primary : column.primaryKey = true
  · simp [primary, rulesOn, indexesOn, Addition.rule?, Addition.index?, Table.keyConstraint, Table.keyIndex,
      unnamedRule, unnamedIndex, ConstraintKind.isIndexBacked]
  · by_cases unique : column.unique = true
    · simp [primary, unique, rulesOn, indexesOn, Addition.rule?, Addition.index?, Table.keyConstraint,
        Table.keyIndex, unnamedRule, unnamedIndex, ConstraintKind.isIndexBacked]
    · simp [primary, unique]

theorem plain_rules (indexes : List IndexSpec) : (indexes.map Addition.index).filterMap Addition.rule? = [] := by
  simp [Addition.rule?]

theorem plain_indexes (indexes : List IndexSpec) :
    (indexes.map Addition.index).filterMap Addition.index? = indexes.map (·.held true) := by
  rw [List.filterMap_map, ← List.filterMap_eq_map]
  rfl

theorem reference_indexes (table : String) (column : ColumnDef) :
    (newReference table column).filterMap Addition.index? = [] := by
  rw [newReference]
  cases column.reference table <;> rfl

theorem additions_rules (t : Table) (column : ColumnDef) (caps : ServerCaps) :
    rulesOn column.name ((stepwiseAdditions t.name column caps).filterMap Addition.rule?) =
      rulesOn column.name ((baselineAdditions server t column caps).filterMap Addition.rule?) := by
  have keys := (key_unnamed column (generatedKeyName t.name column.name) (server.keyName t · column.name)).1
  simp only [stepwiseAdditions, baselineAdditions, List.filterMap_append, plain_rules, List.append_nil,
    List.nil_append, rules_append, keys]

theorem additions_indexes (t : Table) (column : ColumnDef) (caps : ServerCaps) :
    (indexesOn column.name ((stepwiseAdditions t.name column caps).filterMap Addition.index?)).Perm
      ((surplus t.name column).map (·.held true) ++
        indexesOn column.name ((baselineAdditions server t column caps).filterMap Addition.index?)) := by
  have keys := (key_unnamed column (generatedKeyName t.name column.name) (server.keyName t · column.name)).2
  have extra : indexesOn column.name ((surplus t.name column).map (·.held true)) =
      (surplus t.name column).map (·.held true) := by
    rw [surplus]
    split
    · simp [indexesOn, IndexSpec.held, IndexSpec.generated, IndexSpec.plain, unnamedIndex]
    · rfl
  simp only [stepwiseAdditions, baselineAdditions, List.filterMap_append, plain_indexes, reference_indexes,
    List.nil_append, indexes_append, keys, column_index_unlisted, List.map_append, extra,
    ColumnDef.indexes, List.append_assoc]
  exact List.perm_append_comm_assoc _ _ _

theorem grown_on (column : String) (t u : Table) (additions : List Addition) (grown : t.grow additions = some u) :
    rulesOn column u.constraints =
        rulesOn column t.constraints ++ rulesOn column (additions.filterMap Addition.rule?) ∧
      indexesOn column u.indexes =
        indexesOn column t.indexes ++ indexesOn column (additions.filterMap Addition.index?) := by
  have adds := Table.grow_adds t u additions grown
  rw [adds.constraints, adds.indexes, rules_append, indexes_append]
  exact ⟨rfl, rfl⟩

theorem new_column_ends (t b s : Table) (column : ColumnDef) (caps : ServerCaps)
    (baseline : (widened t column).grow (baselineAdditions server (widened t column) column caps) = some b)
    (stepwise : (widened t column).grow (stepwiseAdditions t.name column caps) = some s) :
    rulesOn column.name s.constraints = rulesOn column.name b.constraints ∧
      (indexesOn column.name s.indexes).Perm
        ((surplus t.name column).map (·.held true) ++ indexesOn column.name b.indexes) := by
  obtain ⟨baseRules, baseIndexes⟩ := grown_on column.name _ b _ baseline
  obtain ⟨stepRules, stepIndexes⟩ := grown_on column.name _ s _ stepwise
  refine ⟨?_, ?_⟩
  · rw [stepRules, baseRules]
    exact congrArg _ (additions_rules server (widened t column) column caps)
  · rw [stepIndexes, baseIndexes]
    exact ((additions_indexes server (widened t column) column caps).append_left _).trans
      (List.perm_append_comm_assoc _ _ _)

theorem alike_iff (t b s : Table) (column : ColumnDef)
    (rules : rulesOn column.name s.constraints = rulesOn column.name b.constraints)
    (indexes : (indexesOn column.name s.indexes).Perm
      ((surplus t.name column).map (·.held true) ++ indexesOn column.name b.indexes)) :
    AlikeOn column.name s b ↔ isKeyedReference column = false := by
  rw [surplus] at indexes
  cases keyed : isKeyedReference column with
  | false =>
      rw [keyed] at indexes
      exact ⟨fun _ => rfl, fun _ => ⟨.of_eq rules, indexes⟩⟩
  | true =>
      rw [keyed] at indexes
      refine ⟨fun alike => ?_, fun differs => (nomatch differs)⟩
      have more := indexes.length_eq
      rw [alike.2.length_eq] at more
      simp at more

def createdIndex? (step : Step) : Option IndexSpec :=
  match step.change with
  | .createIndex index _ => some index
  | _ => none

def BuildsPlain (table column : String) (planned : List Step) : Prop :=
  .generated table [column] ∈ planned.filterMap createdIndex?

theorem stepwise_creates (table : String) (column : ColumnDef) (caps : ServerCaps) :
    (addColumn table column caps fun _ => none).filterMap createdIndex? =
      (columnKey table column).toList.map Key.index ++
        ((columnIndex table column none).toList ++ (column.patternIndex table caps).toList) := by
  have adds : (.alter table (.addColumn column.bareClause) :: Baseline.dropDefault table column).filterMap
      createdIndex? = [] := by
    rw [Baseline.dropDefault]
    split <;> rfl
  have keyed : ((columnKey table column).toList.flatMap (addKey fun _ => none)).filterMap createdIndex? =
      (columnKey table column).toList.map Key.index := by
    cases columnKey table column with
    | none => rfl
    | some key =>
        rw [Option.toList_some, List.flatMap_singleton, addKey, List.filterMap_append]
        split <;> rfl
  have refers : (columnReference table column fun _ => none).filterMap createdIndex? =
      (columnIndex table column none).toList := by
    rw [columnReference, columnIndex, ColumnDef.reference]
    cases column.references with
    | some fk => rfl
    | none =>
        rw [Option.map_none, Option.isSome_none, if_neg Bool.false_ne_true]
        dsimp only
        split <;> rfl
  have patterned : ((column.patternIndex table caps).toList.flatMap (buildIndex fun _ => none)).filterMap createdIndex? =
      (column.patternIndex table caps).toList := by
    cases column.patternIndex table caps <;> rfl
  rw [addColumn, List.filterMap_append, List.filterMap_append, List.filterMap_append, adds, keyed, refers, patterned,
    List.nil_append, List.append_assoc]

theorem baseline_creates (table : String) (column : ColumnDef) (caps : ServerCaps) :
    (baselinePlan table column caps).filterMap createdIndex? = column.indexes table caps := by
  have adds : (.alter table (.addColumn (column.inlineClause table)) :: Baseline.dropDefault table column).filterMap
      createdIndex? = [] := by
    rw [Baseline.dropDefault]
    split <;> rfl
  have creates (indexes : List IndexSpec) : (indexes.map Baseline.createIndex).filterMap createdIndex? = indexes := by
    rw [List.filterMap_map]
    exact List.filterMap_some
  rw [baselinePlan, List.filterMap_append, adds, creates, List.nil_append]

theorem pattern_differs (table : String) (column : ColumnDef) (caps : ServerCaps) :
    .generated table [column.name] ∉ (column.patternIndex table caps).toList := by
  intro member
  rw [ColumnDef.patternIndex] at member
  split at member
  · obtain ⟨ops, -, same⟩ := Option.map_eq_some_iff.mp (Option.mem_toList.mp member)
    cases congrArg IndexSpec.opclasses same
  · cases member

theorem key_differs (table : String) (column : ColumnDef) :
    .generated table [column.name] ∉ (columnKey table column).toList.map Key.index := by
  intro member
  obtain ⟨key, -, same⟩ := List.mem_map.mp member
  cases congrArg IndexSpec.unique same

theorem stepwise_builds_plain (table : String) (column : ColumnDef) (caps : ServerCaps) :
    BuildsPlain table column.name (addColumn table column caps fun _ => none) ↔
      isKeyedReference column = true ∨ column.wantsIndex = true := by
  have key := key_differs table column
  have pattern := pattern_differs table column caps
  rw [BuildsPlain, stepwise_creates, column_index_unlisted, surplus]
  simp only [List.mem_append, key, pattern, or_false, false_or]
  by_cases keyed : isKeyedReference column = true <;> by_cases wanted : column.wantsIndex = true <;>
    simp [keyed, wanted]

theorem baseline_builds_plain (table : String) (column : ColumnDef) (caps : ServerCaps) :
    BuildsPlain table column.name (baselinePlan table column caps) ↔ column.wantsIndex = true := by
  have pattern := pattern_differs table column caps
  rw [BuildsPlain, baseline_creates, ColumnDef.indexes]
  simp only [List.mem_append, pattern, or_false]
  by_cases wanted : column.wantsIndex = true <;> simp [wanted]

theorem keyed_wants_none (column : ColumnDef) (keyed : isKeyedReference column = true) :
    column.wantsIndex = false := by
  rw [isKeyedReference, Bool.and_eq_true, Bool.or_eq_true] at keyed
  rcases keyed.1 with primary | unique
  · simp [ColumnDef.wantsIndex, primary]
  · simp [ColumnDef.wantsIndex, unique]

theorem plain_built_iff (table : String) (column : ColumnDef) (caps : ServerCaps) :
    (BuildsPlain table column.name (addColumn table column caps fun _ => none) ↔
      BuildsPlain table column.name (baselinePlan table column caps)) ↔ isKeyedReference column = false := by
  rw [stepwise_builds_plain, baseline_builds_plain]
  cases keyed : isKeyedReference column with
  | false => simp
  | true => simp [keyed_wants_none column keyed]

def HasRoomFor (t : Table) (column : ColumnDef) (caps : ServerCaps) : Prop :=
  t.hasColumn column.name = false ∧
    ∀ additions ∈ [stepwiseAdditions t.name column caps, baselineAdditions server (widened t column) column caps],
      (additions.map Addition.name).Nodup ∧ ∀ addition ∈ additions, t.isUnused addition.name = true

instance (t : Table) (column : ColumnDef) (caps : ServerCaps) : Decidable (HasRoomFor server t column caps) :=
  inferInstanceAs (Decidable (_ ∧ _))

theorem new_column_accepted (t : Table) (column : ColumnDef) (caps : ServerCaps)
    (room : HasRoomFor server t column caps) :
    ∃ b s, t.run server (baselinePlan t.name column caps) = some b ∧
      t.run server (addColumn t.name column caps fun _ => none) = some s := by
  obtain ⟨absent, fits⟩ := room
  have grows (additions : List Addition) (distinct : (additions.map Addition.name).Nodup)
      (unused : ∀ addition ∈ additions, t.isUnused addition.name = true) :
      ∃ u, (widened t column).grow additions = some u :=
    Table.grow_accepted (widened t column) additions distinct unused
  have first := fits _ List.mem_cons_self
  have second := fits _ (List.mem_cons_of_mem _ List.mem_cons_self)
  obtain ⟨s, stepwise⟩ := grows _ first.1 first.2
  obtain ⟨b, baseline⟩ := grows _ second.1 second.2
  refine ⟨b, s, ?_, ?_⟩
  · rw [baseline_column_runs, absent]
    exact baseline
  · rw [stepwise_column_runs, absent]
    exact stepwise

theorem new_column_compared (t b s : Table) (column : ColumnDef) (caps : ServerCaps)
    (baseline : t.run server (baselinePlan t.name column caps) = some b)
    (stepwise : t.run server (addColumn t.name column caps fun _ => none) = some s) :
    (AlikeOn column.name s b ↔ isKeyedReference column = false) ∧
      rulesOn column.name s.constraints = rulesOn column.name b.constraints ∧
      (indexesOn column.name s.indexes).Perm
        ((surplus t.name column).map (·.held true) ++ indexesOn column.name b.indexes) := by
  rw [baseline_column_runs] at baseline
  rw [stepwise_column_runs] at stepwise
  by_cases present : t.hasColumn column.name = true
  · rw [if_pos present] at baseline
    cases baseline
  · rw [if_neg present] at baseline stepwise
    obtain ⟨rules, indexes⟩ := new_column_ends server t b s column caps baseline stepwise
    exact ⟨alike_iff t b s column rules indexes, rules, indexes⟩

-- Nothing but a key that is a reference as well tells the plans for a new column apart: the stepwise
-- plan then builds a plain index that the baseline does without.
theorem new_column_agrees_iff (t : Table) (column : ColumnDef) (decision : Decision) (caps : ServerCaps)
    (catalog : Catalog) (unlisted : catalog.table? t.name = none) :
    ∃ base planned, Baseline.forCatalog (.addColumn t.name column) caps catalog = .ok base ∧
      forCatalog (.addColumn t.name column) decision caps catalog = .ok planned ∧
      ((BuildsPlain t.name column.name planned ↔ BuildsPlain t.name column.name base) ↔
        isKeyedReference column = false) ∧
      (∀ b s, t.run server base = some b → t.run server planned = some s →
        (AlikeOn column.name s b ↔ isKeyedReference column = false) ∧
        rulesOn column.name s.constraints = rulesOn column.name b.constraints ∧
        (indexesOn column.name s.indexes).Perm
          ((surplus t.name column).map (·.held true) ++ indexesOn column.name b.indexes)) ∧
      (HasRoomFor server t column caps → ∃ b s, t.run server base = some b ∧ t.run server planned = some s) := by
  have plan : forCatalog (.addColumn t.name column) decision caps catalog =
      .ok (addColumn t.name column caps fun _ => none) := by
    rw [for_catalog, Operation.table, unlisted]
    rfl
  refine ⟨baselinePlan t.name column caps, _, rfl, plan, plain_built_iff t.name column caps, fun b s => ?_, ?_⟩
  · exact new_column_compared server t b s column caps
  · exact new_column_accepted server t column caps

def profiles : Table := ⟨"profiles", [], [], [⟨"id", "integer", true⟩]⟩

def profileServer : Server :=
  ⟨fun _ => [], fun _ => Table.keyIndex "" [] false, fun t _ column => t.name ++ "_" ++ column ++ "_key"⟩

-- The server and the plan name the key differently; the pattern search index comes with both.
theorem unique_column_agrees :
    let column := { ColumnDef.plain "handle" "varchar(40)" with unique := true }
    Catalog.empty.table? profiles.name = none ∧
      ∃ base planned b s, Baseline.forCatalog (.addColumn "profiles" column) .default .empty = .ok base ∧
        forCatalog (.addColumn "profiles" column) ⟨.unsafeFixable, none⟩ .default .empty = .ok planned ∧
        profiles.run profileServer base = some b ∧ profiles.run profileServer planned = some s ∧
        AlikeOn "handle" s b := by
  intro column
  obtain ⟨base, planned, baseline, stepwise, -, compared, accepted⟩ :=
    new_column_agrees_iff profileServer profiles column ⟨.unsafeFixable, none⟩ .default .empty rfl
  obtain ⟨b, s, based, stepped⟩ := accepted (by decide +kernel)
  exact ⟨rfl, base, planned, b, s, baseline, stepwise, based, stepped, (compared b s based stepped).1.mpr rfl⟩

-- A column that refers to one row each: the index behind its key leads with the column already.
theorem one_to_one_column_differs :
    let column := { (ColumnDef.plain "user_id" "integer").refersTo "users" "id" with unique := true }
    ∃ base planned b s, Baseline.forCatalog (.addColumn "profiles" column) .default .empty = .ok base ∧
      forCatalog (.addColumn "profiles" column) ⟨.unsafeFixable, none⟩ .default .empty = .ok planned ∧
      profiles.run profileServer base = some b ∧ profiles.run profileServer planned = some s ∧
      BuildsPlain "profiles" "user_id" planned ∧ ¬ BuildsPlain "profiles" "user_id" base ∧
      ¬ AlikeOn "user_id" s b := by
  intro column
  obtain ⟨b, s, based, stepped⟩ := new_column_accepted profileServer profiles column .default (by decide +kernel)
  have compared := new_column_compared profileServer profiles b s column .default based stepped
  have surplusBuilt := (stepwise_builds_plain "profiles" column .default).mpr (.inl (by decide))
  refine ⟨_, _, b, s, rfl, rfl, based, stepped, surplusBuilt, fun built => ?_, fun alike => ?_⟩
  · exact absurd ((baseline_builds_plain "profiles" column .default).mp built) (by decide)
  · exact absurd (compared.1.mp alike) (by decide)

end OnlineDdl.Stepwise
