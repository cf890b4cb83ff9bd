import OnlineDdl.Proofs.Plan.Contents
import OnlineDdl.Proofs.Plan.Refinement
import OnlineDdl.Proofs.Plan.Locality

/-! What a plan leaves out because it is there already. Indexes and constraints are told by their names
alone: a valid index of the wanted name is taken for the wanted index, and a constraint of the wanted
name for the wanted constraint, whatever they are on. -/

set_option autoImplicit false

namespace OnlineDdl.Stepwise

def isResumed (op : Operation) (decision : Decision) : Bool :=
  match op with
  | .setNotNull _ _ =>
    decision.notNull == some .constraintAssisted || decision.notNull == some .catalogUpdate
  | _ => isStepwiseAddition op

structure WantedRule where
  name : String
  kind : ConstraintKind
  columns : List String
deriving DecidableEq, Repr

-- A unique constraint with a condition is an index and no constraint.
def wantedRules : Operation → List WantedRule
  | .addConstraint table (.check name columns _) =>
    (checkName table name columns).toOption.toList.map fun name => ⟨name, .check, columns⟩
  | .addConstraint table (.unique name columns none _) =>
    [⟨uniqueName table name columns, .unique, columns⟩]
  | .addConstraint table (.primaryKey name columns) =>
    [⟨primaryKeyName table name columns, .primaryKey, columns⟩]
  | .addConstraint table (.foreignKey name columns toTable toColumns _ _) =>
    [⟨foreignKeyName table name columns toTable toColumns, .foreignKey, columns⟩]
  | .setNotNull table column => [⟨notNullHelper table column, .check, [column]⟩]
  | _ => []

def isSetAlready (op : Operation) (entry : Option TableEntry) : Bool :=
  match op with
  | .setNotNull table column => isNotNullDone table column entry
  | _ => false

def Matches (index : IndexSpec) (i : IndexInfo) : Prop := i.columns = index.columns ∧ i.unique = index.unique

def Fits (rule : WantedRule) (c : ConstraintInfo) : Prop :=
  c.kind = rule.kind ∧ (rule.columns ≠ [] → c.columns = rule.columns)

instance (index : IndexSpec) : DecidablePred (Matches index) := fun _ => inferInstanceAs (Decidable (_ ∧ _))

instance (rule : WantedRule) : DecidablePred (Fits rule) := fun _ => inferInstanceAs (Decidable (_ ∧ _))

def OmitsFinished (op : Operation) (caps : ServerCaps) (entry : Option TableEntry) (steps : List Step) : Prop :=
  (∀ index ∈ wantedIndexes op caps entry, ∀ i ∈ entry.bind (·.index? index.name),
    index.name ∉ steps.filterMap builtIndex? → i.valid = true ∧ Matches index i) ∧
  ∀ rule ∈ wantedRules op, ∀ c ∈ entry.bind (·.constraint? rule.name),
    rule.name ∉ steps.filterMap addedRule? → Fits rule c

def NamesFit (op : Operation) (caps : ServerCaps) (entry : Option TableEntry) : Prop :=
  (∀ index ∈ wantedIndexes op caps entry, ∀ i ∈ entry.bind (·.index? index.name),
    i.valid = true → Matches index i) ∧
  ∀ rule ∈ wantedRules op, ∀ c ∈ entry.bind (·.constraint? rule.name), Fits rule c

instance (op : Operation) (caps : ServerCaps) (entry : Option TableEntry) (steps : List Step) :
    Decidable (OmitsFinished op caps entry steps) :=
  inferInstanceAs (Decidable (_ ∧ _))

instance (op : Operation) (caps : ServerCaps) (entry : Option TableEntry) : Decidable (NamesFit op caps entry) :=
  inferInstanceAs (Decidable (_ ∧ _))

theorem set_not_null_resumed (table column : String) (decision : Decision) (caps : ServerCaps)
    (entry : Option TableEntry) (resumed : isResumed (.setNotNull table column) decision = true) :
    ∃ strategy, setNotNull table column (decision.notNull.getD .directUnsafe) caps entry =
      if isNotNullDone table column entry then []
      else addNotValid entry table (notNullHelper table column) (.notNull column)
        ++ adoptNotNull table column strategy caps := by
  rw [isResumed, Bool.or_eq_true, beq_iff_eq, beq_iff_eq] at resumed
  rcases resumed with chosen | chosen <;> exact ⟨_, by rw [chosen]; rfl⟩

theorem addition_builds (op : Operation) (decision : Decision) (caps : ServerCaps) (entry : Option TableEntry)
    (planned : List Step) (resumed : isResumed op decision = true)
    (succeeds : steps op decision caps entry = .ok planned) :
    planned.filterMap builtIndex? =
      ((wantedIndexes op caps entry).map (·.name)).filter fun name => knownIndex entry name != some true := by
  cases op with
  | addIndex table index =>
      have plainly : index.concurrently = false := by simpa [isResumed, isStepwiseAddition] using resumed
      rw [steps, if_neg (by simp [plainly]), addIndex] at succeeds
      obtain ⟨spec, defined, rfl⟩ := (map_ok_iff _ _ _).mp succeeds
      rw [wantedIndexes, if_neg (by simp [plainly]), defined]
      exact build_all_builds entry (spec :: (requestedPatternIndex table index caps).toList)
  | addConstraint table constraint =>
      rw [steps] at succeeds
      cases constraint with
      | check name columns expression =>
          obtain ⟨name, -, rfl⟩ := (map_ok_iff _ _ _).mp succeeds
          simp [wantedIndexes]
      | unique name columns condition deferrable =>
          cases succeeds
          rw [add_key_builds, build_index_builds]
          rfl
      | primaryKey name columns =>
          rw [promotion_parts] at succeeds
          cases succeeds
          rw [List.filterMap_append, drops_build, List.append_nil, add_key_builds, build_index_builds]
          rfl
      | foreignKey name columns toTable toColumns onDelete deferrable =>
          cases succeeds
          rw [addForeignKey, List.filterMap_append, add_not_valid_builds, List.append_nil, wantedIndexes]
          by_cases supported : (entry.bind (·.supportingIndex? columns)).isSome = true
          · simp [supported]
          · simp [supported, IndexSpec.generated]
      | exclusion name expression => cases resumed
  | setNotNull table column =>
      obtain ⟨strategy, plan⟩ := set_not_null_resumed table column decision caps entry resumed
      rw [steps, plan] at succeeds
      cases succeeds
      by_cases done : isNotNullDone table column entry = true <;> simp [done, wantedIndexes]
  | _ => cases resumed

theorem addition_adds (op : Operation) (decision : Decision) (caps : ServerCaps) (entry : Option TableEntry)
    (planned : List Step) (resumed : isResumed op decision = true)
    (succeeds : steps op decision caps entry = .ok planned) :
    planned.filterMap addedRule? =
      if isSetAlready op entry then []
      else ((wantedRules op).map (·.name)).filter fun name => knownRule entry name == none := by
  cases op with
  | addIndex table index =>
      have plainly : index.concurrently = false := by simpa [isResumed, isStepwiseAddition] using resumed
      rw [steps, if_neg (by simp [plainly]), addIndex] at succeeds
      obtain ⟨spec, defined, rfl⟩ := (map_ok_iff _ _ _).mp succeeds
      simpa [wantedRules] using build_all_adds entry (spec :: (requestedPatternIndex table index caps).toList)
  | addConstraint table constraint =>
      rw [steps] at succeeds
      have unset : isSetAlready (.addConstraint table constraint) entry = false := rfl
      rw [unset, if_neg Bool.false_ne_true]
      cases constraint with
      | check name columns expression =>
          obtain ⟨name, named, rfl⟩ := (map_ok_iff _ _ _).mp succeeds
          simp [wantedRules, named, Except.toOption, List.filter_cons]
      | unique name columns condition deferrable =>
          cases succeeds
          rw [add_key_adds]
          cases condition with
          | none =>
              cases known : knownRule entry (uniqueName table name columns) <;>
                simp [wantedRules, Key.unique, known]
          | some condition => rfl
      | primaryKey name columns =>
          rw [promotion_parts] at succeeds
          cases succeeds
          rw [List.filterMap_append, drops_add, List.append_nil, add_key_adds]
          cases known : knownRule entry (primaryKeyName table name columns) <;>
            simp [wantedRules, Key.primaryKey, known]
      | foreignKey name columns toTable toColumns onDelete deferrable =>
          cases succeeds
          by_cases supported : (entry.bind (·.supportingIndex? columns)).isSome = true <;>
            simp [addForeignKey, wantedRules, supported, List.filter_cons]
      | exclusion name expression => cases resumed
  | setNotNull table column =>
      obtain ⟨strategy, plan⟩ := set_not_null_resumed table column decision caps entry resumed
      rw [steps, plan] at succeeds
      cases succeeds
      by_cases done : isNotNullDone table column entry = true <;>
        simp [done, isSetAlready, wantedRules, List.filter_cons]
  | _ => cases resumed

theorem add_not_valid_validates (entry : Option TableEntry) (table name : String) (body : ConstraintBody)
    (unchecked : knownRule entry name = some false) :
    .validate table name ∈ addNotValid entry table name body := by
  rw [add_not_valid_known_as, unchecked]
  exact List.mem_singleton_self _

theorem addition_validates (op : Operation) (decision : Decision) (caps : ServerCaps) (entry : Option TableEntry)
    (planned : List Step) (resumed : isResumed op decision = true)
    (succeeds : steps op decision caps entry = .ok planned) (rule : WantedRule) (wanted : rule ∈ wantedRules op)
    (plain : rule.kind.isIndexBacked = false) (unchecked : knownRule entry rule.name = some false) :
    .validate op.table rule.name ∈ planned := by
  cases op with
  | addConstraint table constraint =>
      rw [steps] at succeeds
      cases constraint with
      | check name columns expression =>
          obtain ⟨name, named, rfl⟩ := (map_ok_iff _ _ _).mp succeeds
          simp only [wantedRules, named, Except.toOption, Option.toList_some, List.map_cons, List.map_nil,
            List.mem_singleton] at wanted
          subst wanted
          exact add_not_valid_validates entry table name _ unchecked
      | unique name columns condition deferrable =>
          cases condition with
          | none =>
              rw [List.mem_singleton.mp wanted] at plain
              cases plain
          | some condition => cases wanted
      | primaryKey name columns =>
          rw [List.mem_singleton.mp wanted] at plain
          cases plain
      | foreignKey name columns toTable toColumns onDelete deferrable =>
          cases succeeds
          rw [List.mem_singleton.mp wanted] at unchecked ⊢
          exact List.mem_append_right _ (add_not_valid_validates entry table _ _ unchecked)
      | exclusion name expression => cases resumed
  | setNotNull table column =>
      obtain ⟨strategy, plan⟩ := set_not_null_resumed table column decision caps entry resumed
      rw [List.mem_singleton.mp wanted] at unchecked ⊢
      have undone : isNotNullDone table column entry = false := by
        obtain ⟨c, known, -⟩ := Option.map_eq_some_iff.mp unchecked
        change entry.bind (·.constraint? (notNullHelper table column)) = some c at known
        simp [isNotNullDone, known]
      rw [steps, plan, undone] at succeeds
      cases succeeds
      exact List.mem_append_left _ (add_not_valid_validates entry table _ _ unchecked)
  | addIndex table index => cases wanted
  | _ => cases resumed

theorem index_known_iff (entry : Option TableEntry) (name : String) (valid : Bool) :
    knownIndex entry name = some valid ↔ ∃ i, entry.bind (·.index? name) = some i ∧ i.valid = valid :=
  Option.map_eq_some_iff

theorem index_left_out_iff (op : Operation) (decision : Decision) (caps : ServerCaps) (entry : Option TableEntry)
    (planned : List Step) (resumed : isResumed op decision = true)
    (succeeds : steps op decision caps entry = .ok planned) (index : IndexSpec)
    (wanted : index ∈ wantedIndexes op caps entry) :
    index.name ∉ planned.filterMap builtIndex? ↔ knownIndex entry index.name = some true := by
  rw [addition_builds op decision caps entry planned resumed succeeds]
  simp only [List.mem_filter, bne_iff_ne, not_and, not_not]
  exact ⟨fun left => left (List.mem_map_of_mem wanted), fun known _ => known⟩

theorem rule_left_out_iff (op : Operation) (decision : Decision) (caps : ServerCaps) (entry : Option TableEntry)
    (planned : List Step) (resumed : isResumed op decision = true)
    (succeeds : steps op decision caps entry = .ok planned) (rule : WantedRule) (wanted : rule ∈ wantedRules op) :
    rule.name ∉ planned.filterMap addedRule? ↔
      isSetAlready op entry = true ∨ (entry.bind (·.constraint? rule.name)).isSome := by
  rw [addition_adds op decision caps entry planned resumed succeeds]
  by_cases done : isSetAlready op entry = true
  · simp [done]
  · simp only [done, Bool.false_eq_true, if_false, List.mem_filter, beq_iff_eq, not_and, false_or]
    rw [knownRule, Option.map_eq_none_iff, ← ne_eq, Option.isSome_iff_ne_none]
    exact ⟨fun left => left (List.mem_map_of_mem wanted), fun known _ => known⟩

theorem omits_finished_iff (op : Operation) (decision : Decision) (caps : ServerCaps) (entry : Option TableEntry)
    (planned : List Step) (resumed : isResumed op decision = true)
    (succeeds : steps op decision caps entry = .ok planned) :
    OmitsFinished op caps entry planned ↔ NamesFit op caps entry := by
  have indexes := index_left_out_iff op decision caps entry planned resumed succeeds
  have rules := rule_left_out_iff op decision caps entry planned resumed succeeds
  constructor
  · rintro ⟨finished, settled⟩
    refine ⟨fun index wanted i known valid => ?_, fun rule wanted c known => ?_⟩
    · have omitted := (indexes index wanted).mpr ((index_known_iff _ _ _).mpr ⟨i, known, valid⟩)
      exact (finished index wanted i known omitted).2
    · exact settled rule wanted c known ((rules rule wanted).mpr (.inr (Option.isSome_of_mem known)))
  · rintro ⟨indexesFit, rulesFit⟩
    refine ⟨fun index wanted i known omitted => ?_, fun rule wanted c known _ => rulesFit rule wanted c known⟩
    obtain ⟨j, same, valid⟩ := (index_known_iff _ _ _).mp ((indexes index wanted).mp omitted)
    rw [known] at same
    cases same
    exact ⟨valid, indexesFit index wanted i known valid⟩

-- An index is left out exactly where a valid index has its name, and a constraint where a constraint has
-- its name or the column is settled without one. That amounts to finished work exactly where the names
-- stand for what is wanted.
theorem omission_goes_by_name (op : Operation) (decision : Decision) (caps : ServerCaps) (catalog : Catalog)
    (planned : List Step) (resumed : isResumed op decision = true)
    (succeeds : forCatalog op decision caps catalog = .ok planned) :
    (∀ index ∈ wantedIndexes op caps (catalog.table? op.table),
      index.name ∉ planned.filterMap builtIndex? ↔
        ∃ i, (catalog.table? op.table).bind (·.index? index.name) = some i ∧ i.valid = true) ∧
    (∀ rule ∈ wantedRules op,
      (rule.name ∉ planned.filterMap addedRule? ↔
        isSetAlready op (catalog.table? op.table) = true ∨
          ((catalog.table? op.table).bind (·.constraint? rule.name)).isSome) ∧
      (rule.kind.isIndexBacked = false → knownRule (catalog.table? op.table) rule.name = some false →
        .validate op.table rule.name ∈ planned)) ∧
    (OmitsFinished op caps (catalog.table? op.table) planned ↔ NamesFit op caps (catalog.table? op.table)) := by
  rw [for_catalog] at succeeds
  refine ⟨fun index wanted => ?_, fun rule wanted => ⟨?_, ?_⟩, ?_⟩
  · rw [← index_known_iff]
    exact index_left_out_iff op decision caps _ planned resumed succeeds index wanted
  · exact rule_left_out_iff op decision caps _ planned resumed succeeds rule wanted
  · exact addition_validates op decision caps _ planned resumed succeeds rule wanted
  · exact omits_finished_iff op decision caps _ planned resumed succeeds

-- A reference that was added unchecked, and an index for it that was not built to the end.
def halfDone : TableEntry :=
  ⟨[⟨"orders_customer", .foreignKey, ["customer_id"], false, none⟩],
    [⟨(IndexSpec.generated "orders" ["customer_id"]).name, ["customer_id"], [], false, false, false, false, none⟩],
    [⟨"customer_id", "integer", true⟩]⟩

def customerReference : Operation :=
  .addConstraint "orders" (.foreignKey (some "orders_customer") ["customer_id"] "customers" ["id"] none false)

theorem half_done_reference_finished :
    let index := IndexSpec.generated "orders" ["customer_id"]
    let planned := [.dropIndexConcurrently index.name, .createIndexConcurrently index,
      .validate "orders" "orders_customer"]
    forCatalog customerReference ⟨.unsafeFixable, none⟩ ⟨120000, false⟩ { tables := [("orders", halfDone)] } =
      .ok planned ∧
      OmitsFinished customerReference ⟨120000, false⟩ (some halfDone) planned := by
  intro index planned
  have plan : forCatalog customerReference ⟨.unsafeFixable, none⟩ ⟨120000, false⟩ { tables := [("orders", halfDone)] } =
      .ok planned := by decide +kernel
  have fit : NamesFit customerReference ⟨120000, false⟩ (some halfDone) := by decide +kernel
  exact ⟨plan, (omission_goes_by_name _ _ _ _ _ rfl plan).2.2.mpr fit⟩

-- An index and a constraint on another column have the name of the key that is wanted.
def misnamed : TableEntry :=
  ⟨[⟨"orders_code", .check, ["total"], true, none⟩],
    [⟨"orders_code", ["total"], [], false, false, true, false, none⟩],
    [⟨"code", "text", false⟩, ⟨"total", "integer", false⟩]⟩

def codeKey : Operation := .addConstraint "orders" (.unique (some "orders_code") ["code"] none none)

theorem misnamed_key_left_out :
    forCatalog codeKey ⟨.unsafeFixable, none⟩ ⟨120000, false⟩ { tables := [("orders", misnamed)] } = .ok [] ∧
      ¬ OmitsFinished codeKey ⟨120000, false⟩ (some misnamed) [] := by
  exact ⟨by decide +kernel, by decide +kernel⟩

end OnlineDdl.Stepwise
