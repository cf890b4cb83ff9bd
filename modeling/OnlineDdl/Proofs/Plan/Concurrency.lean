import OnlineDdl.Proofs.Outcome
import OnlineDdl.Proofs.Plan.Locks
import OnlineDdl.Proofs.Plan.Policy
import OnlineDdl.Proofs.Run.Restoring
import OnlineDdl.Proofs.Schema.Wording
import OnlineDdl.Proofs.Plan.Locality

/-! Work beside other work: indexes built and dropped concurrently, and validations. Statements that the
server refuses inside a transaction are told by their text, and none of this work meets a lock timeout. -/

set_option autoImplicit false

namespace OnlineDdl

def IsOrdinary : Ddl → Prop
  | .createIndex _ concurrently => concurrently = false
  | .dropIndex _ concurrently => concurrently = false
  | .alterTable _ (.validateConstraint _) => False
  | _ => True

inductive Made : Step → Prop where
  | created (index : IndexSpec) : Made (.createIndexConcurrently index)
  | dropped (name : String) : Made (.dropIndexConcurrently name)
  | validated (table name : String) : Made (.validate table name)
  | ordinary (change : Ddl) (timeout : TimeoutClass) (plain : IsOrdinary change) : Made ⟨change, timeout, false⟩

def AllMade (steps : List Step) : Prop := ∀ step ∈ steps, Made step

theorem all_made_append (a b : List Step) (first : AllMade a) (second : AllMade b) : AllMade (a ++ b) :=
  List.forall_mem_append.mpr ⟨first, second⟩

theorem all_made_one (step : Step) (made : Made step) : AllMade [step] := List.forall_mem_singleton.mpr made

theorem all_made_map {α : Type} (step : α → Step) (each : ∀ a, Made (step a)) (parts : List α) :
    AllMade (parts.map step) :=
  List.forall_mem_map.mpr fun part _ => each part

theorem all_made_flat {α : Type} (plan : α → List Step) (each : ∀ a, AllMade (plan a)) (parts : List α) :
    AllMade (parts.flatMap plan) := by
  intro step member
  obtain ⟨part, -, inside⟩ := List.mem_flatMap.mp member
  exact each part step inside

namespace Baseline

theorem drop_default_made (table : String) (column : ColumnDef) : AllMade (dropDefault table column) := by
  rw [dropDefault]
  split
  · exact all_made_one _ (.ordinary _ _ trivial)
  · exact List.forall_mem_nil _

theorem add_constraint_made (table : String) (constraint : ConstraintDef) (step : Step)
    (planned : addConstraint table constraint = .ok step) : Made step := by
  cases constraint with
  | check name columns expression =>
      obtain ⟨name, -, rfl⟩ := (map_ok_iff _ _ _).mp planned
      exact .ordinary _ _ trivial
  | unique name columns condition deferrable =>
      cases condition with
      | none =>
          rw [← Except.ok.inj planned]
          exact .ordinary _ _ trivial
      | some condition =>
          rw [← Except.ok.inj planned]
          exact .ordinary _ _ rfl
  | primaryKey name columns =>
      rw [← Except.ok.inj planned]
      exact .ordinary _ _ trivial
  | foreignKey name columns toTable toColumns onDelete deferrable =>
      rw [← Except.ok.inj planned]
      exact .ordinary _ _ trivial
  | exclusion name expression =>
      rw [← Except.ok.inj planned]
      exact .ordinary _ _ trivial

theorem remove_group_made (table : String) (kind : TogetherKind) (entry : Option TableEntry) (group : List String)
    (step : Step) (planned : removeGroup table kind entry group = .ok step) : Made step := by
  cases kind with
  | unique =>
      obtain ⟨c, -, rfl⟩ := (map_ok_iff _ _ _).mp planned
      exact .ordinary _ _ trivial
  | index =>
      obtain ⟨i, -, rfl⟩ := (map_ok_iff _ _ _).mp planned
      exact .ordinary _ _ rfl

theorem add_group_made (table : String) (kind : TogetherKind) (group : List String) :
    Made (addGroup table kind group) := by
  cases kind with
  | unique => exact .ordinary _ _ trivial
  | index => exact .ordinary _ _ rfl

theorem steps_made (op : Operation) (caps : ServerCaps) (entry : Option TableEntry) (planned : List Step)
    (succeeds : steps op caps entry = .ok planned) : AllMade planned := by
  have plain (table : String) (action : TableAction) (other : IsOrdinary (.alterTable table action)) :
      AllMade [.alter table action] := all_made_one _ (.ordinary _ _ other)
  cases op with
  | createTable table columns =>
      rw [← Except.ok.inj succeeds]
      refine List.forall_mem_cons.mpr ⟨.ordinary _ _ trivial, all_made_map _ (fun index => ?_) _⟩
      exact .ordinary _ _ rfl
  | dropTable table cascade =>
      rw [← Except.ok.inj succeeds]
      exact all_made_one _ (.ordinary _ _ trivial)
  | renameTable table newName =>
      rw [← Except.ok.inj succeeds]
      split
      · exact List.forall_mem_nil _
      · exact plain table _ trivial
  | renameColumn table column newName =>
      rw [← Except.ok.inj succeeds]
      split
      · exact List.forall_mem_nil _
      · exact plain table _ trivial
  | addColumn table column =>
      rw [← Except.ok.inj succeeds]
      refine List.forall_mem_cons.mpr ⟨.ordinary _ _ trivial, ?_⟩
      refine all_made_append _ _ (drop_default_made table column) (all_made_map _ (fun index => ?_) _)
      exact .ordinary _ _ rfl
  | addConstraint table constraint =>
      obtain ⟨step, built, rfl⟩ := (map_ok_iff _ _ _).mp succeeds
      exact all_made_one step (add_constraint_made table constraint step built)
  | dropConstraint table name columns kind =>
      obtain ⟨target, -, rfl⟩ := (map_ok_iff _ _ _).mp succeeds
      exact plain table _ trivial
  | addIndex table index =>
      obtain ⟨spec, -, rfl⟩ := (map_ok_iff _ _ _).mp succeeds
      split
      · exact all_made_one _ (.created spec)
      · exact all_made_one _ (.ordinary _ _ rfl)
  | dropIndex table name columns =>
      obtain ⟨target, -, rfl⟩ := (map_ok_iff _ _ _).mp succeeds
      exact all_made_one _ (.ordinary _ _ rfl)
  | alterTogether table kind add remove =>
      obtain ⟨removals, removed, rfl⟩ := (map_ok_iff _ _ _).mp succeeds
      refine all_made_append _ _ (fun step member => ?_) (all_made_map _ (add_group_made table kind) add)
      obtain ⟨group, -, built⟩ := map_all_member _ _ _ removed step member
      exact remove_group_made table kind entry group step built
  | _ =>
      rw [← Except.ok.inj succeeds]
      exact plain _ _ trivial

end Baseline

namespace Stepwise

theorem build_index_made (entry : Option TableEntry) (index : IndexSpec) : AllMade (buildIndex entry index) := by
  rw [buildIndex]
  split
  · exact all_made_one _ (.created index)
  · split
    · exact List.forall_mem_nil _
    · exact List.forall_mem_cons.mpr ⟨.dropped index.name, all_made_one _ (.created index)⟩

theorem add_not_valid_made (entry : Option TableEntry) (table name : String) (body : ConstraintBody) :
    AllMade (addNotValid entry table name body) := by
  have validates : AllMade [.validate table name] := all_made_one _ (.validated table name)
  rw [addNotValid]
  split
  · exact List.forall_mem_cons.mpr ⟨.ordinary _ _ trivial, validates⟩
  · split
    · exact List.forall_mem_nil _
    · exact validates

theorem add_key_made (entry : Option TableEntry) (key : Key) : AllMade (addKey entry key) := by
  refine all_made_append _ _ (build_index_made entry key.index) ?_
  split
  · exact List.forall_mem_nil _
  · exact all_made_one _ (.ordinary _ _ trivial)

theorem add_foreign_key_made (entry : Option TableEntry) (table name : String) (columns : List String)
    (reference : Reference) : AllMade (addForeignKey entry table name columns reference) := by
  refine all_made_append _ _ ?_ (add_not_valid_made entry table name _)
  split
  · exact List.forall_mem_nil _
  · exact build_index_made entry _

theorem add_constraint_made (table : String) (entry : Option TableEntry) (constraint : ConstraintDef)
    (planned : List Step) (succeeds : addConstraint table entry constraint = .ok planned) : AllMade planned := by
  cases constraint with
  | check name columns expression =>
      obtain ⟨name, -, rfl⟩ := (map_ok_iff _ _ _).mp succeeds
      exact add_not_valid_made entry table name _
  | unique name columns condition deferrable =>
      rw [← Except.ok.inj succeeds]
      exact add_key_made entry _
  | primaryKey name columns =>
      rw [← Except.ok.inj succeeds]
      refine all_made_append _ _ (add_key_made entry _) (all_made_map _ (fun index => ?_) _)
      exact .dropped index.name
  | foreignKey name columns toTable toColumns onDelete deferrable =>
      rw [← Except.ok.inj succeeds]
      exact add_foreign_key_made entry table _ columns _
  | exclusion name expression =>
      rw [← Except.ok.inj succeeds]
      exact all_made_one _ (.ordinary _ _ trivial)

theorem column_reference_made (table : String) (column : ColumnDef) (entry : Option TableEntry) :
    AllMade (columnReference table column entry) := by
  rw [columnReference]
  split
  · exact add_foreign_key_made entry table _ _ _
  · split
    · exact build_index_made entry _
    · exact List.forall_mem_nil _

theorem add_column_made (table : String) (column : ColumnDef) (caps : ServerCaps) (entry : Option TableEntry) :
    AllMade (addColumn table column caps entry) := by
  have added : AllMade (.alter table (.addColumn column.bareClause) :: Baseline.dropDefault table column) :=
    List.forall_mem_cons.mpr ⟨.ordinary _ _ trivial, Baseline.drop_default_made table column⟩
  have keyed := all_made_append _ _ added (all_made_flat _ (add_key_made entry) (columnKey table column).toList)
  exact all_made_append _ _ (all_made_append _ _ keyed (column_reference_made table column entry))
    (all_made_flat _ (build_index_made entry) _)

theorem set_not_null_made (table column : String) (strategy : NotNullStrategy) (caps : ServerCaps)
    (entry : Option TableEntry) : AllMade (setNotNull table column strategy caps entry) := by
  have adopts : AllMade (adoptNotNull table column strategy caps) := by
    intro step member
    rcases adopt_not_null_steps table column strategy caps step member with rfl | rfl | rfl <;>
      exact .ordinary _ _ trivial
  rw [setNotNull]
  split
  · exact adopts
  · split
    · exact List.forall_mem_nil _
    · exact all_made_append _ _ (add_not_valid_made entry table _ _) adopts

theorem drop_index_made (table : String) (name : Option String) (columns : List String) (entry : Option TableEntry)
    (planned : List Step) (succeeds : dropIndex table name columns entry = .ok planned) : AllMade planned := by
  rw [dropIndex] at succeeds
  split at succeeds
  · cases succeeds
  · split at succeeds
    · rw [← Except.ok.inj succeeds]
      exact all_made_one _ (.dropped _)
    · split at succeeds
      · cases succeeds
      · rw [← Except.ok.inj succeeds]
        split
        · exact all_made_one _ (.ordinary _ _ rfl)
        · exact all_made_one _ (.dropped _)

theorem remove_group_made (table : String) (kind : TogetherKind) (entry : Option TableEntry) (group : List String)
    (step : Step) (planned : removeGroup table kind entry group = .ok step) : Made step := by
  cases kind with
  | unique =>
      obtain ⟨c, -, rfl⟩ := (map_ok_iff _ _ _).mp planned
      exact .ordinary _ _ trivial
  | index =>
      obtain ⟨i, -, rfl⟩ := (map_ok_iff _ _ _).mp planned
      exact .dropped i.name

theorem add_group_made (table : String) (kind : TogetherKind) (entry : Option TableEntry) (group : List String) :
    AllMade (addGroup table kind entry group) := by
  cases kind with
  | unique => exact add_key_made entry _
  | index => exact build_index_made entry _

theorem steps_made (op : Operation) (decision : Decision) (caps : ServerCaps) (entry : Option TableEntry)
    (planned : List Step) (succeeds : steps op decision caps entry = .ok planned) : AllMade planned := by
  have unchanged := Baseline.steps_made op caps entry planned
  cases op with
  | addColumn table column =>
      rw [← Except.ok.inj succeeds]
      exact add_column_made table column caps entry
  | setNotNull table column =>
      rw [← Except.ok.inj succeeds]
      exact set_not_null_made table column _ caps entry
  | dropNotNull table column =>
      obtain ⟨check, -, rfl⟩ := (map_ok_iff _ _ _).mp succeeds
      cases check <;> exact all_made_one _ (.ordinary _ _ trivial)
  | addConstraint table constraint => exact add_constraint_made table entry constraint planned succeeds
  | dropConstraint table name columns kind =>
      obtain ⟨target, -, rfl⟩ := (map_ok_iff _ _ _).mp succeeds
      exact List.forall_mem_cons.mpr ⟨.ordinary _ _ trivial, all_made_map _ .dropped _⟩
  | addIndex table index =>
      rw [steps] at succeeds
      split at succeeds
      · exact unchanged succeeds
      · obtain ⟨spec, -, rfl⟩ := (map_ok_iff _ _ _).mp succeeds
        exact all_made_append _ _ (build_index_made entry spec) (all_made_flat _ (build_index_made entry) _)
  | dropIndex table name columns => exact drop_index_made table name columns entry planned succeeds
  | alterTogether table kind add remove =>
      obtain ⟨removals, removed, rfl⟩ := (map_ok_iff _ _ _).mp succeeds
      refine all_made_append _ _ (fun step member => ?_) (all_made_flat _ (add_group_made table kind entry) add)
      obtain ⟨group, -, built⟩ := map_all_member _ _ _ removed step member
      exact remove_group_made table kind entry group step built
  | _ => exact unchanged succeeds

end Stepwise

structure WellMarked (s : Statement) : Prop where
  outside : s.outsideTransaction = true ↔ CreatesConcurrently s.sql ∨ DropsConcurrently s.sql
  created : CreatesConcurrently s.sql → s.timeout = .flexibleWrapped
  dropped : DropsConcurrently s.sql → s.timeout = .unwrapped

theorem well_marked_iff (step : Step) : WellMarked step.statement ↔
    (step.outsideTransaction = true ↔
      (∃ index, step.change = .createIndex index true) ∨ ∃ name, step.change = .dropIndex name true) ∧
    ((∃ index, step.change = .createIndex index true) → step.timeout = .flexibleWrapped) ∧
    ((∃ name, step.change = .dropIndex name true) → step.timeout = .unwrapped) := by
  rw [← creates_concurrently_iff, ← drops_concurrently_iff]
  exact ⟨fun marked => ⟨marked.outside, marked.created, marked.dropped⟩,
    fun ⟨outside, created, dropped⟩ => ⟨outside, created, dropped⟩⟩

theorem made_well_marked (step : Step) (made : Made step) : WellMarked step.statement := by
  rw [well_marked_iff]
  cases made with
  | created index => simp [Step.createIndexConcurrently]
  | dropped name => simp [Step.dropIndexConcurrently]
  | validated table name => simp [Step.validate, Step.flexible]
  | ordinary change timeout plain => cases change <;> simp_all [IsOrdinary]

theorem validation_flexible (step : Step) (made : Made step) (validates : Validates step.change.sql) :
    step.timeout = .flexibleWrapped := by
  obtain ⟨table, name, same⟩ := (validates_iff step.change).mp validates
  cases made with
  | validated own rule => rfl
  | ordinary change timeout plain =>
      obtain rfl : change = _ := same
      cases plain
  | created index => cases same
  | dropped index => cases same

namespace Timeout

theorem settings_left_set (isSet : Finset Parameter) (settings : List Setting) :
    (settings.map fun s => Statement.session s.sql .timeoutSet).foldl leftSet isSet =
      isSet ∪ (settings.map Setting.parameter).toFinset := by
  induction settings generalizing isSet with
  | nil => simp
  | cons s rest ih => simp [setting_left_set, ih, Finset.insert_union]

theorem restored_all_left_set (config : PlannerConfig) (isSet : Finset Parameter) (parameters : List Parameter) :
    (parameters.map fun p => Statement.session (restored config p).sql .timeoutReset).foldl leftSet isSet =
      isSet \ parameters.toFinset := by
  induction parameters generalizing isSet with
  | nil => simp
  | cons p rest ih =>
      rw [List.map_cons, List.foldl_cons, restored_left_set, ih, List.toFinset_cons, Finset.sdiff_insert,
        Finset.erase_sdiff_comm]

theorem opened_left_set (config : PlannerConfig) (region : Option Region) :
    (openAll config region).foldl leftSet ∅ = regionParameters config region := by
  cases region with
  | none => rfl
  | some region =>
      rw [openAll, Option.toList_some, List.flatMap_singleton, settings_left_set, Finset.empty_union]
      rfl

theorem closed_left_set (config : PlannerConfig) (region : Option Region) :
    (closeAll config region).foldl leftSet (regionParameters config region) = ∅ := by
  cases region with
  | none => rfl
  | some region =>
      rw [closeAll, Option.toList_some, List.flatMap_singleton, closing_opening, List.map_map]
      have left := restored_all_left_set config (regionParameters config (some region))
        ((opening config region).map Setting.parameter)
      rw [List.map_map] at left
      exact left.trans (Finset.sdiff_self _)

def EachWithin (config : PlannerConfig) (isSet : Finset Parameter) : List Statement → Prop
  | [] => True
  | s :: rest =>
    (s.isDdl = true → isSet = regionParameters config (regionOf config s)) ∧
      EachWithin config (leftSet isSet s) rest

theorem each_within_append (config : PlannerConfig) (isSet : Finset Parameter) (a b : List Statement) :
    EachWithin config isSet (a ++ b) ↔
      EachWithin config isSet a ∧ EachWithin config (a.foldl leftSet isSet) b := by
  induction a generalizing isSet with
  | nil => exact (iff_of_eq (true_and _)).symm
  | cons s rest ih => rw [List.cons_append, EachWithin, ih, EachWithin, and_assoc]; rfl

theorem each_within_settings (config : PlannerConfig) (isSet : Finset Parameter) (settings : List Setting)
    (role : StatementRole) (other : role ≠ .ddl) :
    EachWithin config isSet (settings.map fun s => .session s.sql role) := by
  induction settings generalizing isSet with
  | nil => trivial
  | cons s rest ih =>
      refine ⟨fun ddl => ?_, ih _⟩
      simp [Statement.isDdl, Statement.session, other] at ddl

theorem wrap_from_within (config : PlannerConfig) (current : Option Region) (plan : List Statement)
    (ddl : ∀ s ∈ plan, s.isDdl = true) :
    EachWithin config (regionParameters config current) (wrapFrom config current plan) := by
  have closed (region : Option Region) (isSet : Finset Parameter) :
      EachWithin config isSet (closeAll config region) :=
    each_within_settings config isSet _ .timeoutReset (by decide)
  have opened (region : Option Region) (isSet : Finset Parameter) :
      EachWithin config isSet (openAll config region) :=
    each_within_settings config isSet _ .timeoutSet (by decide)
  induction plan generalizing current with
  | nil => exact closed current _
  | cons s rest ih =>
      have later : EachWithin config (regionParameters config (regionOf config s))
          (s :: wrapFrom config (regionOf config s) rest) := by
        refine ⟨fun _ => rfl, ?_⟩
        rw [ddl_left_set _ s (ddl s List.mem_cons_self)]
        exact ih _ fun other member => ddl other (List.mem_cons_of_mem s member)
      rw [wrapFrom]
      split
      · next same => rwa [same] at later
      · rw [List.append_assoc, each_within_append, each_within_append, closed_left_set, opened_left_set]
        exact ⟨closed current _, opened _ _, later⟩

theorem wrapped_within (config : PlannerConfig) (plan : Plan) (ddl : ∀ s ∈ plan, s.isDdl = true)
    (before after : List Statement) (s : Statement) (divided : wrap config plan = before ++ s :: after)
    (change : s.isDdl = true) : stillSet before = regionParameters config (regionOf config s) := by
  have within := wrap_from_within config none plan ddl
  rw [← wrap, divided, each_within_append] at within
  exact within.2.1 change

theorem setting_begins (setting : Setting) : Begins "SET " setting.sql :=
  begins_more _ _ _ (begins_more _ _ _ (begins_more _ _ _ (begins_ahead _ _)))

theorem setting_apart (setting : Setting) :
    ¬ (CreatesConcurrently setting.sql ∨ DropsConcurrently setting.sql ∨ Validates setting.sql) := by
  have apart (lead : String) (begins : Begins lead setting.sql) : Comparable "SET " lead :=
    begins_comparable _ _ _ (setting_begins setting) begins
  rintro ((created | created) | dropped | ⟨table, name, same⟩)
  · exact absurd (apart _ created) (by decide)
  · exact absurd (apart _ created) (by decide)
  · exact absurd (apart _ dropped) (by decide)
  · have alters := ddl_begins (.alterTable table (.validateConstraint name))
    exact absurd (apart "ALTER TABLE " (same ▸ alters)) (by decide)

def IsSetting (s : Statement) : Prop := ∃ setting : Setting, s.sql = setting.sql

theorem settings_are_settings (settings : List Setting) (role : StatementRole) (s : Statement)
    (member : s ∈ settings.map fun setting => .session setting.sql role) : IsSetting s := by
  obtain ⟨setting, -, rfl⟩ := List.mem_map.mp member
  exact ⟨setting, rfl⟩

theorem wrap_from_member (config : PlannerConfig) (current : Option Region) (plan : List Statement) (s : Statement)
    (member : s ∈ wrapFrom config current plan) : s ∈ plan ∨ IsSetting s := by
  induction plan generalizing current with
  | nil => exact .inr (settings_are_settings _ _ s member)
  | cons head rest ih =>
      have later (region : Option Region) (inside : s ∈ head :: wrapFrom config region rest) :
          s ∈ head :: rest ∨ IsSetting s := by
        rcases List.mem_cons.mp inside with same | further
        · exact .inl (same ▸ List.mem_cons_self)
        · exact (ih region further).imp_left (List.mem_cons_of_mem head)
      rw [wrapFrom] at member
      split at member
      · exact later current member
      · rcases List.mem_append.mp member with brackets | inside
        · rcases List.mem_append.mp brackets with closes | opens
          · exact .inr (settings_are_settings _ _ s closes)
          · exact .inr (settings_are_settings _ _ s opens)
        · exact later _ inside

theorem flexible_unbounded (config : PlannerConfig) (s : Statement) (flexible : s.timeout = .flexibleWrapped) :
    .lockTimeout ∉ regionParameters config (regionOf config s) := by
  rw [regionOf, flexible]
  split
  · dsimp only
    split <;> simp [regionParameters, opening]
  · simp [regionParameters]

theorem unwrapped_unbounded (config : PlannerConfig) (s : Statement) (unwrapped : s.timeout = .unwrapped) :
    regionParameters config (regionOf config s) = ∅ := by
  rw [regionOf, unwrapped]
  split <;> rfl

end Timeout

-- Work beside other work meets no lock timeout where it stands, and a concurrent drop no timeout at all.
def RunsBeside (statements : Plan) : Prop :=
  ∀ before s after, statements = before ++ s :: after →
    (CreatesConcurrently s.sql ∨ DropsConcurrently s.sql ∨ Validates s.sql →
      .lockTimeout ∉ Timeout.stillSet before) ∧
    (DropsConcurrently s.sql → Timeout.stillSet before = ∅)

theorem wrapped_runs_beside (config : PlannerConfig) (planned : List Step) (made : AllMade planned) :
    RunsBeside (Timeout.wrap config (Plan.ofSteps planned)) := by
  intro before s after divided
  have member : s ∈ Timeout.wrap config (Plan.ofSteps planned) := by simp [divided]
  rcases Timeout.wrap_from_member config none _ s member with inside | ⟨setting, same⟩
  · obtain ⟨step, listed, rfl⟩ := List.mem_map.mp inside
    have marked := made_well_marked step (made step listed)
    have ddl : ∀ s ∈ Plan.ofSteps planned, s.isDdl = true := by
      simp [Plan.ofSteps, Step.statement, Statement.isDdl]
    have within := Timeout.wrapped_within config _ ddl before after step.statement divided rfl
    have free (dropped : DropsConcurrently step.statement.sql) : Timeout.stillSet before = ∅ :=
      within.trans (Timeout.unwrapped_unbounded config _ (marked.dropped dropped))
    refine ⟨?_, free⟩
    rintro (created | dropped | validates)
    · rw [within]
      exact Timeout.flexible_unbounded config _ (marked.created created)
    · rw [free dropped]
      exact Finset.notMem_empty _
    · rw [within]
      exact Timeout.flexible_unbounded config _ (validation_flexible step (made step listed) validates)
  · have apart := Timeout.setting_apart setting
    rw [← same] at apart
    exact ⟨fun beside => absurd beside apart, fun dropped => absurd (.inr (.inl dropped)) apart⟩

theorem compiled_wraps (op : Operation) (config : PlannerConfig) (caps : ServerCaps) (catalog : Catalog)
    (rows : RowEstimate) (compiled : Compiled) (succeeds : compileWith op config caps catalog rows = .ok compiled) :
    ∃ planned, (Baseline.forCatalog op caps catalog = .ok planned ∨
        Stepwise.forCatalog op (judge op config caps rows) caps catalog = .ok planned) ∧
      compiled.statements = Timeout.wrap config (Plan.ofSteps planned) := by
  obtain ⟨base, planned, rendered, rfl | stepwise, rfl⟩ :=
    compile_with_parts op config caps catalog rows compiled succeeds
  · exact ⟨planned, .inl rendered, rfl⟩
  · exact ⟨planned, .inr stepwise, rfl⟩

theorem compile_succeeds {σ : Type} (config : PlannerConfig) (caps : ServerCaps) (catalog : Catalog)
    (estimateRows : String → Session σ RowEstimate) (op : Operation) (s t : σ) (compiled : Compiled)
    (succeeds : (compile config caps catalog estimateRows op).run s = (.ok compiled, t)) :
    ∃ rows, compileWith op config (config.serverCaps caps) catalog rows = .ok compiled := by
  by_cases needed : needsRowEstimate op config = true
  · rcases answered : (estimateRows op.table).run s with ⟨failure | rows, u⟩
    · rw [compile_unestimated config caps catalog estimateRows op s u failure needed answered] at succeeds
      cases succeeds
    · have estimated : Estimated config estimateRows op s rows u := by rwa [Estimated, if_pos needed]
      rw [compile_estimated config caps catalog estimateRows op s u rows estimated] at succeeds
      exact ⟨rows, (Prod.mk.inj succeeds).1⟩
  · have unasked : Estimated config estimateRows op s .unknown s := by simp [Estimated, needed]
    rw [compile_estimated config caps catalog estimateRows op s s .unknown unasked] at succeeds
    exact ⟨.unknown, (Prod.mk.inj succeeds).1⟩

theorem concurrent_work_runs_beside (op : Operation) (caps : ServerCaps) (catalog : Catalog) :
    (∀ decision planned, Baseline.forCatalog op caps catalog = .ok planned ∨
        Stepwise.forCatalog op decision caps catalog = .ok planned →
      ∀ s ∈ Plan.ofSteps planned, WellMarked s) ∧
    ∀ (σ : Type) (config : PlannerConfig) (estimateRows : String → Session σ RowEstimate) (s t : σ)
      (compiled : Compiled), (compile config caps catalog estimateRows op).run s = (.ok compiled, t) →
      RunsBeside compiled.statements := by
  have made (caps : ServerCaps) (decision : Decision) (planned : List Step)
      (succeeds : Baseline.forCatalog op caps catalog = .ok planned ∨
        Stepwise.forCatalog op decision caps catalog = .ok planned) : AllMade planned := by
    rw [Baseline.for_catalog, Stepwise.for_catalog] at succeeds
    rcases succeeds with base | stepwise
    · exact Baseline.steps_made op caps _ planned base
    · exact Stepwise.steps_made op decision caps _ planned stepwise
  constructor
  · intro decision planned succeeds s member
    obtain ⟨step, listed, rfl⟩ := List.mem_map.mp member
    exact made_well_marked step (made caps decision planned succeeds step listed)
  · intro σ config estimateRows s t compiled succeeds
    obtain ⟨rows, compiles⟩ := compile_succeeds config caps catalog estimateRows op s t compiled succeeds
    obtain ⟨planned, planning, wraps⟩ := compiled_wraps op config _ catalog rows compiled compiles
    rw [wraps]
    exact wrapped_runs_beside config planned (made _ _ planned planning)

-- A unique index whose build stopped halfway makes way and is built anew, and then a lock timeout bounds
-- the statement that makes it a constraint.
theorem rebuilt_index_runs_beside :
    let config : PlannerConfig := ⟨some 2000, none, true, 600000, false, .never, .default, none⟩
    let catalog : Catalog := { tables := [("seats",
      ⟨[], [⟨"seats_number", ["number"], [], true, false, false, false, none⟩], []⟩)] }
    let op := Operation.addConstraint "seats" (.unique (some "seats_number") ["number"] none none)
    let unasked : String → Session Unit RowEstimate := fun _ => pure .unknown
    let index := IndexSpec.uniqueOn "seats_number" "seats" ["number"] none
    let planned := [.dropIndexConcurrently "seats_number", .createIndexConcurrently index,
      .alter "seats" (.addConstraint "seats_number" (.usingIndex false "seats_number" none) false)]
    let statements := Timeout.wrap config (Plan.ofSteps planned)
    (Stepwise.forCatalog op (judge op config .default .unknown) .default catalog = .ok planned ∧
      ∀ s ∈ Plan.ofSteps planned, WellMarked s) ∧
    (∃ compiled, (compile config .default catalog unasked op).run () = (.ok compiled, ()) ∧
      compiled.statements = statements ∧ RunsBeside statements) ∧
    ∃ before after s, statements = before ++ s :: after ∧ .lockTimeout ∈ Timeout.stillSet before := by
  intro config catalog op unasked index planned statements
  obtain ⟨marks, runs⟩ := concurrent_work_runs_beside op .default catalog
  have plans : Stepwise.forCatalog op (judge op config .default .unknown) .default catalog = .ok planned := by
    decide +kernel
  have compiles : (compile config .default catalog unasked op).run () =
      (.ok ⟨"add_constraint", "seats", .unsafeFixable, .proceed, none,
        ["ALTER TABLE \"seats\" ADD CONSTRAINT \"seats_number\" UNIQUE (\"number\");"], statements⟩, ()) := by
    rw [compile_estimated config .default catalog unasked op () () .unknown ⟨rfl, rfl⟩]
    exact congrArg (·, ()) (by decide +kernel)
  refine ⟨⟨plans, marks _ planned (.inr plans)⟩,
    ⟨_, compiles, rfl, runs Unit config unasked () () _ compiles⟩, ?_⟩
  exact ⟨statements.take 5, statements.drop 6, _, rfl, by decide +kernel⟩

end OnlineDdl
