import OnlineDdl.Plan.Stepwise
import OnlineDdl.Proofs.Outcome
import OnlineDdl.Proofs.Plan.Locality
import OnlineDdl.Proofs.Plan.Promotion

/-! New constraints and indexes: the stepwise plan ends where the baseline ends, but for the indexes
that it builds or clears away on purpose. -/

set_option autoImplicit false

namespace OnlineDdl.Stepwise

variable (server : Server)

-- The indexes that a plan builds beyond what is asked for: one that a reference needs, unless a valid
-- index leads with its columns already, and one for searches by leading characters.
def extraIndexes (op : Operation) (caps : ServerCaps) (t : Table) : List IndexSpec :=
  match op with
  | .addConstraint table (.foreignKey _ columns _ _ _ _) =>
    if t.indexes.any fun i => i.valid && columns.isPrefixOf i.columns then []
    else [.generated table columns]
  | .addIndex table index =>
    match index.columns, index.patternOps with
    | [column], some ops => if caps.cCollation then [] else [.patternOps table [column] ops]
    | _, _ => []
  | _ => []

-- The index that a primary key on a column makes superfluous where the column was unique before.
def supersededNames (op : Operation) (t : Table) : List String :=
  match op with
  | .addConstraint _ (.primaryKey _ [column]) =>
    if t.constraints.any fun c => c.kind == .unique && c.columns == [column] then
      (t.indexes.find? fun i => i.isPatternOps && i.columns == [column]).toList.map (·.name)
    else []
  | _ => []

def mainName : Operation → Option String
  | .addConstraint table (.check name columns _) => (checkName table name columns).toOption
  | .addConstraint table (.unique name columns _ _) => some (uniqueName table name columns)
  | .addConstraint table (.primaryKey name columns) => some (primaryKeyName table name columns)
  | .addConstraint table (.foreignKey name columns toTable toColumns _ _) =>
    some (foreignKeyName table name columns toTable toColumns)
  | .addIndex table index => some (index.name.getD (ObjectName.named .index table index.columns))
  | _ => none

def newNames (op : Operation) (caps : ServerCaps) (t : Table) : List String :=
  (mainName op).toList ++ (extraIndexes op caps t).map (·.name)

def Fresh (names : List String) (t : Table) : Prop :=
  names.Nodup ∧ ∀ name ∈ names, t.hasConstraint name = false ∧ t.hasIndex name = false

def isStepwiseAddition : Operation → Bool
  | .addConstraint _ (.exclusion _ _) => false
  | .addConstraint _ _ => true
  | .addIndex _ index => !index.concurrently
  | _ => false

def isWellPosed : Operation → Bool
  | .addConstraint _ (.check name columns _) => name.isSome || !columns.isEmpty
  | .addIndex _ index => index.opclasses.isEmpty || index.opclasses.length == index.columns.length
  | _ => true

-- The table that a plan ends with: what the baseline makes of it, less what is superseded, with the
-- extra indexes behind.
def AgreesWith (op : Operation) (caps : ServerCaps) (t b s : Table) : Prop :=
  s.name = b.name ∧ s.constraints = b.constraints ∧ s.columns = b.columns ∧
    s.indexes = (b.indexes.filter fun i => !(supersededNames op t).contains i.name) ++
      (extraIndexes op caps t).map (·.held true)

theorem agrees_plainly (op : Operation) (caps : ServerCaps) (t b : Table) (nothing : extraIndexes op caps t = [])
    (remains : supersededNames op t = []) : AgreesWith op caps t b b := by
  refine ⟨rfl, rfl, rfl, ?_⟩
  rw [nothing, remains]
  simp

def Refines (op : Operation) (caps : ServerCaps) (t : Table) (base steps : List Step) : Prop :=
  ∃ b s, t.run server base = some b ∧ t.run server steps = some s ∧ AgreesWith op caps t b s

theorem check_refines (t : Table) (caps : ServerCaps) (given : Option String) (columns : List String)
    (name expression : String) (free : t.hasConstraint name = false) :
    Refines server (.addConstraint t.name (.check given columns expression)) caps t
      [.alter t.name (.addConstraint name (.check expression) false)]
      (addNotValid (some t.entry) t.name name (.check expression)) := by
  obtain ⟨states, started, resumable⟩ := add_check_resumable server t name expression free
  refine ⟨t.withConstraint (checkRule server name expression), _, run_one server t _ _ ?_,
    strict_run_accepted server t _ _ (resumable.finishes t started), agrees_plainly _ caps t _ rfl rfl⟩
  simp [Step.alter, Step.wrapped, Ddl.effect, TableAction.effect, Table.addConstraint, Table.addRule, free,
    checkRule]

theorem unique_refines (t : Table) (caps : ServerCaps) (given : Option String) (columns : List String)
    (name : String) (deferrable : Option Deferrable) (freeConstraint : t.hasConstraint name = false)
    (freeIndex : t.hasIndex name = false) :
    Refines server (.addConstraint t.name (.unique given columns none deferrable)) caps t
      [.alter t.name (.addConstraint name (.unique columns deferrable) false)]
      (addKey (some t.entry) { Key.unique t.name name columns with condition := none, deferrable }) := by
  have keyed := add_key_resumable server t { Key.unique t.name name columns with condition := none, deferrable }
    rfl rfl freeIndex freeConstraint
  refine ⟨t.withKey name columns false deferrable, _, run_one server t _ _ ?_,
    strict_run_accepted server t _ _ (keyed.finishes t (.inl .absent)), agrees_plainly _ caps t _ rfl rfl⟩
  simp [Step.alter, Step.wrapped, Ddl.effect, TableAction.effect, Table.addConstraint, Table.addKey,
    freeConstraint, freeIndex]

theorem partial_unique_refines (t : Table) (caps : ServerCaps) (given : Option String) (columns : List String)
    (name condition : String) (deferrable : Option Deferrable) (free : t.hasIndex name = false) :
    Refines server (.addConstraint t.name (.unique given columns (some condition) deferrable)) caps t
      [Baseline.createIndex (.uniqueOn name t.name columns (some condition))]
      (addKey (some t.entry)
        { Key.unique t.name name columns with condition := some condition, deferrable }) := by
  have built := add_partial_key_resumable server t
    { Key.unique t.name name columns with condition := some condition, deferrable } rfl rfl free
  refine ⟨t.withIndex ((IndexSpec.uniqueOn name t.name columns (some condition)).held true), _,
    run_one server t _ _ ?_, strict_run_accepted server t _ _ (built.finishes t .absent),
    agrees_plainly _ caps t _ rfl rfl⟩
  simp [Baseline.createIndex, Step.wrapped, Ddl.effect, IndexSpec.uniqueOn, Table.createIndex, free]

theorem superseded_names (t : Table) (table : String) (given : Option String) (columns : List String) :
    supersededNames (.addConstraint table (.primaryKey given columns)) t =
      (promotedPatternIndex (some t.entry) columns).toList.map (·.name) := by
  cases columns with
  | nil => rfl
  | cons column others =>
      cases others with
      | cons _ _ => rfl
      | nil =>
          have rules : (t.entry.constraintsOn [column] (some .unique)).isEmpty =
              !t.constraints.any fun c => c.kind == .unique && c.columns == [column] := by
            rw [Bool.eq_iff_iff, TableEntry.constraintsOn, Table.entry, List.filter_map, List.isEmpty_map,
              List.isEmpty_iff, List.filter_eq_nil_iff]
            simp [and_comm]
          have chosen : (t.entry.patternOpsIndex? column).map (·.name) =
              (t.indexes.find? fun i => i.isPatternOps && i.columns == [column]).map (·.name) := by
            rw [TableEntry.patternOpsIndex?, Table.entry, List.find?_map, Option.map_map]
            rfl
          rw [supersededNames, promotedPatternIndex, rules]
          cases t.constraints.any fun c => c.kind == .unique && c.columns == [column] with
          | false => rfl
          | true =>
              have listed := congrArg Option.toList chosen
              simpa [Option.toList_map] using listed.symm

theorem promoted_agrees (t : Table) (caps : ServerCaps) (given : Option String) (name : String)
    (columns : List String) :
    AgreesWith (.addConstraint t.name (.primaryKey given columns)) caps t (t.withKey name columns true none)
      (promoted (t.withKey name columns true none) columns) := by
  rw [promoted, promoted_key_added]
  cases chosen : promotedPatternIndex (some t.entry) columns with
  | none =>
      apply agrees_plainly _ caps t _ rfl
      rw [superseded_names, chosen]
      rfl
  | some i =>
      refine ⟨rfl, rfl, rfl, ?_⟩
      rw [superseded_names, chosen]
      simp [extraIndexes, Table.withoutIndex, bne, Bool.beq_eq_decide_eq]

theorem primary_key_refines (t : Table) (caps : ServerCaps) (given : Option String) (columns : List String)
    (name : String) (freeConstraint : t.hasConstraint name = false) (freeIndex : t.hasIndex name = false) :
    Refines server (.addConstraint t.name (.primaryKey given columns)) caps t
      [.alter t.name (.addConstraint name (.primaryKey columns) false)]
      (addKey (some t.entry) (.primaryKey t.name name columns) ++ superseded columns t.entry) := by
  refine ⟨t.withKey name columns true none, _, run_one server t _ _ ?_,
    strict_run_accepted server t _ _ (primary_key_runs server t name columns freeIndex freeConstraint),
    promoted_agrees t caps given name columns⟩
  simp [Step.alter, Step.wrapped, Ddl.effect, TableAction.effect, Table.addConstraint, Table.addKey,
    freeConstraint, freeIndex]

theorem supporting_index_none (t : Table) (columns : List String) :
    (t.entry.supportingIndex? columns).isSome = t.indexes.any fun i => i.valid && columns.isPrefixOf i.columns := by
  rw [TableEntry.supportingIndex?, Table.entry, List.find?_map, Option.isSome_map, Bool.eq_iff_iff,
    List.find?_isSome, List.any_eq_true]
  rfl

theorem foreign_key_refines (t : Table) (caps : ServerCaps) (given : Option String) (columns : List String)
    (toTable : String) (toColumns : List String) (onDelete : Option String) (deferrable : Bool) (name : String)
    (freeConstraint : t.hasConstraint name = false)
    (freeIndex : t.entry.supportingIndex? columns = none →
      t.hasIndex (IndexSpec.generated t.name columns).name = false) :
    Refines server (.addConstraint t.name (.foreignKey given columns toTable toColumns onDelete deferrable)) caps t
      [.alter t.name (.addConstraint name (.foreignKey columns ⟨toTable, toColumns, onDelete, deferrable⟩) false)]
      (addForeignKey (some t.entry) t.name name columns ⟨toTable, toColumns, onDelete, deferrable⟩) := by
  obtain ⟨states, started, resumable⟩ := add_foreign_key_resumable server t name columns
    ⟨toTable, toColumns, onDelete, deferrable⟩ freeConstraint freeIndex
  refine ⟨t.withConstraint (referenceRule name columns ⟨toTable, toColumns, onDelete, deferrable⟩), _,
    run_one server t _ _ ?_, strict_run_accepted server t _ _ (resumable.finishes t started), ?_⟩
  · simp [Step.alter, Step.wrapped, Ddl.effect, TableAction.effect, Table.addConstraint, Table.addRule,
      freeConstraint, referenceRule]
  · have looked := supporting_index_none t columns
    rw [supported]
    cases known : (t.entry.supportingIndex? columns).isSome with
    | true =>
        apply agrees_plainly _ caps t _ _ rfl
        rw [extraIndexes, ← looked, known]
        rfl
    | false =>
        refine ⟨rfl, rfl, rfl, ?_⟩
        rw [extraIndexes, ← looked, known]
        simp [supersededNames, Table.withConstraint, Table.withIndex]

theorem requested_extra (table : String) (index : IndexDef) (caps : ServerCaps) (t : Table) :
    extraIndexes (.addIndex table index) caps t = (requestedPatternIndex table index caps).toList := by
  rw [extraIndexes, requestedPatternIndex]
  cases index.columns with
  | nil => rfl
  | cons column others =>
      cases others with
      | cons _ _ => cases index.patternOps <;> rfl
      | nil =>
          cases index.patternOps with
          | none => cases caps.cCollation <;> rfl
          | some ops => cases caps.cCollation <;> rfl

theorem index_refines (t : Table) (caps : ServerCaps) (index : IndexDef) (spec : IndexSpec)
    (own : spec.table = t.name) (free : t.hasIndex spec.name = false)
    (spare : ∀ other ∈ requestedPatternIndex t.name index caps,
      other.table = t.name ∧ spec.name ≠ other.name ∧ t.hasIndex other.name = false) :
    Refines server (.addIndex t.name index) caps t [Baseline.createIndex spec]
      (buildIndex (some t.entry) spec ++
        (requestedPatternIndex t.name index caps).toList.flatMap (buildIndex (some t.entry))) := by
  obtain ⟨states, started, resumable⟩ := add_index_resumable server t spec _ own free spare
  refine ⟨t.withIndex (spec.held true), _, run_one server t _ _ ?_,
    strict_run_accepted server t _ _ (resumable.finishes t started), rfl, rfl, rfl, ?_⟩
  · simp [Baseline.createIndex, Step.wrapped, Ddl.effect, own, Table.createIndex, free]
  · rw [requested_extra]
    simp [supersededNames, Table.withIndex]

theorem checked_name (table : String) (name : Option String) (columns : List String) :
    (name.isSome || !columns.isEmpty) = true ↔ ∃ chosen, checkName table name columns = .ok chosen := by
  cases name with
  | some name => simp [checkName]
  | none => cases columns <;> simp [checkName]

theorem opclasses_fit (table : String) (index : IndexDef) :
    isWellPosed (.addIndex table index) = true ↔ ∃ spec, IndexSpec.ofDef table index = .ok spec := by
  rw [isWellPosed, IndexSpec.ofDef]
  cases index.opclasses.isEmpty <;> cases same : index.opclasses.length == index.columns.length <;>
    simp [bne, same]

theorem fresh_main (op : Operation) (caps : ServerCaps) (t : Table) (name : String)
    (fresh : Fresh (newNames op caps t) t) (called : mainName op = some name) :
    t.hasConstraint name = false ∧ t.hasIndex name = false := by
  apply fresh.2
  simp [newNames, called]

theorem fresh_extra (op : Operation) (caps : ServerCaps) (t : Table) (name : String) (index : IndexSpec)
    (fresh : Fresh (newNames op caps t) t) (called : mainName op = some name)
    (extra : index ∈ extraIndexes op caps t) :
    name ≠ index.name ∧ t.hasIndex index.name = false := by
  have member : index.name ∈ (extraIndexes op caps t).map (·.name) := List.mem_map_of_mem extra
  obtain ⟨distinct, free⟩ := fresh
  rw [newNames, called] at distinct free
  refine ⟨fun same => ?_, (free index.name (List.mem_append_right _ member)).2⟩
  have apart := (List.nodup_cons.mp distinct).1
  exact apart (same ▸ member)

theorem index_spare (index : IndexDef) (caps : ServerCaps) (t : Table) (spec : IndexSpec)
    (defined : IndexSpec.ofDef t.name index = .ok spec) (fresh : Fresh (newNames (.addIndex t.name index) caps t) t) :
    spec.table = t.name ∧ t.hasIndex spec.name = false ∧
      ∀ other ∈ requestedPatternIndex t.name index caps,
        other.table = t.name ∧ spec.name ≠ other.name ∧ t.hasIndex other.name = false := by
  have named : mainName (.addIndex t.name index) = some spec.name := by
    rw [IndexSpec.ofDef] at defined
    split at defined
    · cases defined
    · cases defined
      rfl
  refine ⟨defined_index_own t.name index spec defined, (fresh_main _ caps t _ fresh named).2, fun other requested => ?_⟩
  have extra : other ∈ extraIndexes (.addIndex t.name index) caps t := by
    rw [requested_extra]
    exact Option.mem_toList.mpr requested
  exact ⟨requested_pattern_own t.name index caps other requested, fresh_extra _ caps t _ other fresh named extra⟩

theorem support_spare (t : Table) (caps : ServerCaps) (given : Option String) (columns : List String)
    (toTable : String) (toColumns : List String) (onDelete : Option String) (deferrable : Bool)
    (fresh : Fresh (newNames (.addConstraint t.name
      (.foreignKey given columns toTable toColumns onDelete deferrable)) caps t) t)
    (unsupported : t.entry.supportingIndex? columns = none) :
    t.hasIndex (IndexSpec.generated t.name columns).name = false := by
  have looked := supporting_index_none t columns
  rw [unsupported] at looked
  refine (fresh_extra _ caps t _ (.generated t.name columns) fresh rfl ?_).2
  rw [extraIndexes, ← looked]
  exact List.mem_singleton_self _

-- Either both planners refuse an operation for the same reason, or both plans run to agreeing ends.
def PlansRefine (op : Operation) (decision : Decision) (caps : ServerCaps) (t : Table) : Prop :=
  if isWellPosed op then
    ∃ base planned, Baseline.steps op caps (some t.entry) = .ok base ∧
      steps op decision caps (some t.entry) = .ok planned ∧ Refines server op caps t base planned
  else
    ∃ cause, Baseline.steps op caps (some t.entry) = .error cause ∧
      steps op decision caps (some t.entry) = .error cause

theorem index_plans_refine (index : IndexDef) (decision : Decision) (caps : ServerCaps) (t : Table)
    (plainly : index.concurrently = false)
    (fresh : Fresh (newNames (.addIndex t.name index) caps t) t) :
    PlansRefine server (.addIndex t.name index) decision caps t := by
  have fits := opclasses_fit t.name index
  rw [PlansRefine]
  simp only [Baseline.steps, steps, plainly, addIndex]
  cases defined : IndexSpec.ofDef t.name index with
  | error cause =>
      have illPosed : isWellPosed (.addIndex t.name index) = false := by
        rw [Bool.eq_false_iff, ne_eq, fits, defined]
        rintro ⟨spec, same⟩
        cases same
      rw [illPosed]
      exact ⟨cause, rfl, rfl⟩
  | ok spec =>
      obtain ⟨own, free, spare⟩ := index_spare index caps t spec defined fresh
      rw [fits.mpr ⟨spec, defined⟩]
      exact ⟨_, _, rfl, rfl, index_refines server t caps index spec own free spare⟩

theorem constraint_plans_refine (constraint : ConstraintDef) (decision : Decision) (caps : ServerCaps) (t : Table)
    (adds : isStepwiseAddition (.addConstraint t.name constraint) = true)
    (fresh : Fresh (newNames (.addConstraint t.name constraint) caps t) t) :
    PlansRefine server (.addConstraint t.name constraint) decision caps t := by
  rw [PlansRefine]
  simp only [Baseline.steps, steps]
  cases constraint with
  | check given columns expression =>
      have nameable := checked_name t.name given columns
      rw [Baseline.addConstraint, addConstraint, isWellPosed]
      cases called : checkName t.name given columns with
      | error cause =>
          have nameless : (given.isSome || !columns.isEmpty) = false := by
            rw [Bool.eq_false_iff, ne_eq, nameable, called]
            rintro ⟨name, same⟩
            cases same
          rw [nameless]
          exact ⟨cause, rfl, rfl⟩
      | ok name =>
          have free := fresh_main _ caps t name fresh (by rw [mainName, called]; rfl)
          rw [nameable.mpr ⟨name, called⟩]
          exact ⟨_, _, rfl, rfl, check_refines server t caps given columns name expression free.1⟩
  | unique given columns condition deferrable =>
      have free := fresh_main _ caps t (uniqueName t.name given columns) fresh rfl
      cases condition with
      | none => exact ⟨_, _, rfl, rfl, unique_refines server t caps given columns _ deferrable free.1 free.2⟩
      | some condition =>
          exact ⟨_, _, rfl, rfl, partial_unique_refines server t caps given columns _ condition deferrable free.2⟩
  | primaryKey given columns =>
      have free := fresh_main _ caps t (primaryKeyName t.name given columns) fresh rfl
      exact ⟨_, _, rfl, rfl, primary_key_refines server t caps given columns _ free.1 free.2⟩
  | foreignKey given columns toTable toColumns onDelete deferrable =>
      have free := fresh_main _ caps t (foreignKeyName t.name given columns toTable toColumns) fresh rfl
      exact ⟨_, _, rfl, rfl, foreign_key_refines server t caps given columns toTable toColumns onDelete deferrable _
        free.1 (support_spare t caps given columns toTable toColumns onDelete deferrable fresh)⟩
  | exclusion name expression => cases adds

theorem stepwise_refines_baseline (op : Operation) (decision : Decision) (caps : ServerCaps) (catalog : Catalog)
    (t : Table) (adds : isStepwiseAddition op = true) (own : op.table = t.name)
    (listed : catalog.table? op.table = some t.entry) (fresh : Fresh (newNames op caps t) t) :
    if isWellPosed op then
      ∃ base steps, Baseline.forCatalog op caps catalog = .ok base ∧
        forCatalog op decision caps catalog = .ok steps ∧ Refines server op caps t base steps
    else
      ∃ cause, Baseline.forCatalog op caps catalog = .error cause ∧
        forCatalog op decision caps catalog = .error cause := by
  rw [Baseline.for_catalog, for_catalog, listed]
  cases op with
  | addIndex table index =>
      cases own
      exact index_plans_refine server index decision caps t (by simpa [isStepwiseAddition] using adds) fresh
  | addConstraint table constraint =>
      cases own
      exact constraint_plans_refine server constraint decision caps t adds fresh
  | _ => cases adds

-- A primary key on a unique column: its plan drops the pattern search index that the baseline leaves.
theorem primary_key_plan_agrees :
    let server : Server := ⟨fun _ => [], fun _ => Table.keyIndex "" [] false, fun _ _ _ => ""⟩
    let op := Operation.addConstraint "users" (.primaryKey (some "users_pk") ["mail"])
    let t : Table := ⟨"users", [Table.keyConstraint "users_mail_uniq" ["mail"] false none],
      [Table.keyIndex "users_mail_uniq" ["mail"] false,
        (IndexSpec.mk "users_mail_like" "users" ["mail"] ["text_pattern_ops"] false none none).held true],
      [⟨"mail", "text", true⟩]⟩
    let catalog : Catalog := { tables := [("users", t.entry)] }
    let decision := judge op .default .default .unknown
    isStepwiseAddition op = true ∧ op.table = t.name ∧ catalog.table? op.table = some t.entry ∧
      Fresh (newNames op .default t) t ∧ supersededNames op t = ["users_mail_like"] ∧
      ∃ base steps, Baseline.forCatalog op .default catalog = .ok base ∧
        forCatalog op decision .default catalog = .ok steps ∧ Refines server op .default t base steps := by
  intro server op t catalog decision
  have fresh : Fresh (newNames op .default t) t := by
    rw [Fresh]
    decide
  exact ⟨rfl, rfl, rfl, fresh, by decide,
    stepwise_refines_baseline server op decision .default catalog t rfl rfl rfl fresh⟩

end OnlineDdl.Stepwise
