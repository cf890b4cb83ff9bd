import OnlineDdl.Proofs.Plan.Dropping
import OnlineDdl.Proofs.Plan.Locks
import OnlineDdl.Proofs.Plan.Omission
import OnlineDdl.Proofs.Plan.Locality

/-! The order of a plan. A constraint that is added unchecked is validated next, a key takes over an index
that is valid by then, and the check that has proved NOT NULL goes last. -/

set_option autoImplicit false

namespace OnlineDdl.Stepwise

-- Behind these statements a valid unique index has the name: it was listed as valid, or the plan has built
-- it, after it has cleared away what a build that stopped halfway had left.
def Prepared (entry : Option TableEntry) (before : List Step) (table name : String) : Prop :=
  knownIndex entry name = some true ∨
    ∃ early index late, before = early ++ .createIndexConcurrently index :: late ∧
      index.name = name ∧ index.table = table ∧ index.unique = true ∧
      (knownIndex entry name = some false → .dropIndexConcurrently name ∈ early)

def KeyPlaced (entry : Option TableEntry) (before : List Step) (step : Step) : Prop :=
  ∀ table name primary index deferrable notValid,
    step.change = .alterTable table (.addConstraint name (.usingIndex primary index deferrable) notValid) →
      index = name ∧ Prepared entry before table name

def ValidatedNext (step : Step) (after : List Step) : Prop :=
  ∀ table name body, step.change = .alterTable table (.addConstraint name body true) →
    after.head? = some (.validate table name)

def Ordered (entry : Option TableEntry) (before : List Step) : List Step → Prop
  | [] => True
  | step :: rest =>
    (KeyPlaced entry before step ∧ ValidatedNext step rest) ∧ Ordered entry (before ++ [step]) rest

def checkedNames : Operation → List String
  | .addColumn table column => (column.reference table).toList.map (·.1)
  | .setNotNull table column => [notNullHelper table column]
  | .addConstraint table (.check name columns _) => (checkName table name columns).toOption.toList
  | .addConstraint table (.foreignKey name columns toTable toColumns _ _) =>
    [foreignKeyName table name columns toTable toColumns]
  | _ => []

def IsRemovedKey (entry : Option TableEntry) (op : Operation) (name : String) : Prop :=
  ∃ table add remove, op = .alterTogether table .unique add remove ∧
    ∃ known ∈ entry, ∃ c ∈ known.constraints, c.kind = .unique ∧ c.name = name

-- The check goes at the very end, behind the statement that takes its place, which stands behind the
-- validation.
def ClosesProof (table column : String) (planned before after : List Step) : Prop :=
  after = [] ∧ ∃ early raise, before = early ++ [raise] ∧ RaisesNotNull table column raise.change ∧
    (.validate table (notNullHelper table column) ∈ planned →
      .validate table (notNullHelper table column) ∈ early)

structure InOrder (op : Operation) (entry : Option TableEntry) (planned : List Step) : Prop where
  validatedNext : ∀ before step after, planned = before ++ step :: after → ValidatedNext step after
  validated : ∀ name ∈ checkedNames op, knownRule entry name = some false → .validate op.table name ∈ planned
  keyPlaced : ∀ before step after, planned = before ++ step :: after → KeyPlaced entry before step
  droppedLast : ∀ before step after table name, planned = before ++ step :: after →
    step.change = .alterTable table (.dropConstraint name) →
      IsRemovedKey entry op name ∨
        ∃ column, op = .setNotNull table column ∧ name = notNullHelper table column ∧
          ClosesProof table column planned before after

variable (entry : Option TableEntry)

theorem prepared_after (earlier before : List Step) (table name : String)
    (prepared : Prepared entry before table name) : Prepared entry (earlier ++ before) table name := by
  rcases prepared with valid | ⟨early, index, late, rfl, named, own, unique, cleared⟩
  · exact .inl valid
  · refine .inr ⟨earlier ++ early, index, late, by simp, named, own, unique, fun broken => ?_⟩
    exact List.mem_append_right _ (cleared broken)

theorem ordered_after (earlier before steps : List Step) (ordered : Ordered entry before steps) :
    Ordered entry (earlier ++ before) steps := by
  induction steps generalizing before with
  | nil => trivial
  | cons step rest ih =>
      obtain ⟨⟨placed, next⟩, later⟩ := ordered
      refine ⟨⟨fun table name primary index deferrable notValid adds => ?_, next⟩, ?_⟩
      · obtain ⟨same, prepared⟩ := placed table name primary index deferrable notValid adds
        exact ⟨same, prepared_after entry earlier before table name prepared⟩
      · rw [List.append_assoc]
        exact ih _ later

theorem ordered_append (before first second : List Step) (one : Ordered entry before first)
    (two : Ordered entry (before ++ first) second) : Ordered entry before (first ++ second) := by
  induction first generalizing before with
  | nil => simpa using two
  | cons step rest ih =>
      obtain ⟨⟨placed, next⟩, later⟩ := one
      refine ⟨⟨placed, fun table name body adds => ?_⟩, ih _ later (by simpa using two)⟩
      -- The validation follows in the first part already.
      obtain ⟨others, found⟩ := List.head?_eq_some_iff.mp (next table name body adds)
      rw [found]
      rfl

theorem ordered_both (first second : List Step) (one : Ordered entry [] first) (two : Ordered entry [] second) :
    Ordered entry [] (first ++ second) := by
  refine ordered_append entry [] first second one ?_
  simpa using ordered_after entry first [] second two

theorem ordered_flat {α : Type} (parts : List α) (plan : α → List Step)
    (each : ∀ part, Ordered entry [] (plan part)) : Ordered entry [] (parts.flatMap plan) := by
  induction parts with
  | nil => trivial
  | cons part rest ih =>
      rw [List.flatMap_cons]
      exact ordered_both entry _ _ (each part) ih

def AddsRule (change : Ddl) : Prop :=
  ∃ table name body notValid, change = .alterTable table (.addConstraint name body notValid)

theorem ordered_quiet (before steps : List Step) (quiet : ∀ step ∈ steps, ¬ AddsRule step.change) :
    Ordered entry before steps := by
  induction steps generalizing before with
  | nil => trivial
  | cons step rest ih =>
      have silent := quiet step List.mem_cons_self
      refine ⟨⟨fun table name primary index deferrable notValid adds => ?_, fun table name body adds => ?_⟩,
        ih _ fun other member => quiet other (List.mem_cons_of_mem _ member)⟩
      · exact absurd ⟨table, name, _, notValid, adds⟩ silent
      · exact absurd ⟨table, name, body, true, adds⟩ silent

theorem ordered_at (before steps front rest : List Step) (step : Step) (ordered : Ordered entry before steps)
    (divided : steps = front ++ step :: rest) :
    KeyPlaced entry (before ++ front) step ∧ ValidatedNext step rest := by
  induction front generalizing before steps with
  | nil =>
      subst divided
      rw [List.append_nil]
      exact ordered.1
  | cons head tail ih =>
      subst divided
      have found := ih (before ++ [head]) _ ordered.2 rfl
      rwa [List.append_assoc] at found

theorem build_index_ordered (before : List Step) (index : IndexSpec) :
    Ordered entry before (buildIndex entry index) := by
  apply ordered_quiet
  rw [build_index_known_as]
  rcases knownIndex entry index.name with _ | _ | _ <;>
    simp [AddsRule, Step.createIndexConcurrently, Step.dropIndexConcurrently]

theorem build_index_prepares (index : IndexSpec) (unique : index.unique = true) :
    Prepared entry (buildIndex entry index) index.table index.name := by
  rw [build_index_known_as]
  rcases known : knownIndex entry index.name with _ | _ | _
  · exact .inr ⟨[], index, [], rfl, rfl, rfl, unique, fun broken => by rw [known] at broken; cases broken⟩
  · exact .inr ⟨[_], index, [], rfl, rfl, rfl, unique, fun _ => List.mem_singleton_self _⟩
  · exact .inl known

theorem add_key_ordered (key : Key) : Ordered entry [] (addKey entry key) := by
  refine ordered_append entry [] _ _ (build_index_ordered entry [] key.index) ?_
  split
  · trivial
  · refine ⟨⟨fun table name primary index deferrable notValid adds => ?_, fun table name body adds => ?_⟩,
      trivial⟩
    · cases adds
      exact ⟨rfl, build_index_prepares entry key.index rfl⟩
    · cases adds

theorem add_not_valid_ordered (table name : String) (body : ConstraintBody) (unchecked : AddsUnchecked body) :
    Ordered entry [] (addNotValid entry table name body) := by
  have validates (before : List Step) : Ordered entry before [.validate table name] :=
    ordered_quiet entry before _ (by simp [AddsRule, Step.validate, Step.flexible])
  rw [add_not_valid_known_as]
  rcases knownRule entry name with _ | _ | _
  · refine ⟨⟨fun table name primary index deferrable notValid adds => ?_, fun table name other adds => ?_⟩,
      validates _⟩
    · cases adds
      exact absurd unchecked id
    · cases adds
      rfl
  · exact validates []
  · trivial

theorem add_foreign_key_ordered (table name : String) (columns : List String) (reference : Reference) :
    Ordered entry [] (addForeignKey entry table name columns reference) := by
  refine ordered_both entry _ _ ?_ (add_not_valid_ordered entry table name _ trivial)
  split
  · trivial
  · exact build_index_ordered entry [] _

theorem column_reference_ordered (table : String) (column : ColumnDef) :
    Ordered entry [] (columnReference table column entry) := by
  rw [columnReference]
  split
  · exact add_foreign_key_ordered entry table _ _ _
  · split
    · exact build_index_ordered entry [] _
    · trivial

theorem add_column_ordered (table : String) (column : ColumnDef) (caps : ServerCaps) :
    Ordered entry [] (addColumn table column caps entry) := by
  have added : Ordered entry []
      (.alter table (.addColumn column.bareClause) :: Baseline.dropDefault table column) := by
    apply ordered_quiet
    rw [Baseline.dropDefault]
    split <;> simp [AddsRule, Step.alter, Step.wrapped]
  have keyed := ordered_flat entry (columnKey table column).toList _ (add_key_ordered entry)
  have patterned := ordered_flat entry (column.patternIndex table caps).toList _ (build_index_ordered entry [])
  exact ordered_both entry _ _ (ordered_both entry _ _ (ordered_both entry _ _ added keyed)
    (column_reference_ordered entry table column)) patterned

theorem drops_ordered (before : List Step) (names : List String) :
    Ordered entry before (names.map Step.dropIndexConcurrently) := by
  apply ordered_quiet
  simp [AddsRule, Step.dropIndexConcurrently]

theorem add_constraint_ordered (table : String) (constraint : ConstraintDef) (planned : List Step)
    (included : constraint.kind ≠ .exclusion) (succeeds : addConstraint table entry constraint = .ok planned) :
    Ordered entry [] planned := by
  cases constraint with
  | check name columns expression =>
      obtain ⟨name, -, rfl⟩ := (map_ok_iff _ _ _).mp succeeds
      exact add_not_valid_ordered entry table name _ trivial
  | unique name columns condition deferrable =>
      cases succeeds
      exact add_key_ordered entry _
  | primaryKey name columns =>
      rw [promotion_parts] at succeeds
      cases succeeds
      exact ordered_both entry _ _ (add_key_ordered entry _) (drops_ordered entry [] _)
  | foreignKey name columns toTable toColumns onDelete deferrable =>
      cases succeeds
      exact add_foreign_key_ordered entry table _ columns _
  | exclusion name expression => exact absurd rfl included

theorem alter_together_ordered (table : String) (kind : TogetherKind) (add remove : List (List String))
    (planned : List Step) (succeeds : alterTogether table kind add remove entry = .ok planned) :
    Ordered entry [] planned := by
  obtain ⟨removals, removed, rfl⟩ := (map_ok_iff _ _ _).mp succeeds
  refine ordered_both entry _ _ ?_ (ordered_flat entry add _ fun group => ?_)
  · refine ordered_quiet entry [] _ fun step member => ?_
    obtain ⟨group, -, found⟩ := map_all_member _ _ _ removed step member
    cases kind with
    | unique =>
        obtain ⟨c, -, rfl⟩ := (map_ok_iff _ _ _).mp found
        simp [AddsRule, Step.dropConstraint, Step.alter, Step.wrapped]
    | index =>
        obtain ⟨i, -, rfl⟩ := (map_ok_iff _ _ _).mp found
        simp [AddsRule, Step.dropIndexConcurrently]
  · cases kind with
    | unique => exact add_key_ordered entry _
    | index => exact build_index_ordered entry [] _

theorem set_not_null_ordered (table column : String) (strategy : NotNullStrategy) (caps : ServerCaps) :
    Ordered entry [] (setNotNull table column strategy caps entry) := by
  have adopted : Ordered entry [] (adoptNotNull table column strategy caps) := by
    refine ordered_quiet entry [] _ fun step member => ?_
    rcases adopt_not_null_steps table column strategy caps step member with rfl | rfl | rfl <;>
      simp [AddsRule, Step.alter, Step.wrapped, Step.unwrapped, Step.dropConstraint]
  rw [setNotNull]
  split
  · exact adopted
  · split
    · trivial
    · exact ordered_both entry _ _ (add_not_valid_ordered entry table _ _ trivial) adopted

inductive Fixable (config : PlannerConfig) (caps : ServerCaps) (rows : RowEstimate) : Operation → Prop where
  | addColumn (table : String) (column : ColumnDef) : Fixable config caps rows (.addColumn table column)
  | setNotNull (table column : String)
      (checked : NotNullStrategy.select config.notNullMode caps rows ≠ .directUnsafe) :
      Fixable config caps rows (.setNotNull table column)
  | addConstraint (table : String) (constraint : ConstraintDef) (included : constraint.kind ≠ .exclusion) :
      Fixable config caps rows (.addConstraint table constraint)
  | addIndex (table : String) (index : IndexDef) (plainly : index.concurrently = false) :
      Fixable config caps rows (.addIndex table index)
  | alterTogether (table : String) (kind : TogetherKind) (add remove : List (List String)) :
      Fixable config caps rows (.alterTogether table kind add remove)

theorem fixable_kinds (op : Operation) (config : PlannerConfig) (caps : ServerCaps) (rows : RowEstimate)
    (fixable : (judge op config caps rows).classification = .unsafeFixable) : Fixable config caps rows op := by
  cases op with
  | addColumn table column => exact .addColumn table column
  | setNotNull table column =>
      refine .setNotNull table column fun direct => ?_
      simp [judge, direct, NotNullStrategy.classification] at fixable
  | addConstraint table constraint =>
      refine .addConstraint table constraint fun excluded => ?_
      simp [judge, excluded, Decision.unsafeBecause, Decision.of] at fixable
  | addIndex table index =>
      refine .addIndex table index (Bool.eq_false_iff.mpr fun concurrently => ?_)
      simp [judge, concurrently, Decision.of] at fixable
  | alterTogether table kind add remove => exact .alterTogether table kind add remove
  | renameTable table newName =>
      rw [judge] at fixable
      split at fixable <;> cases fixable
  | renameColumn table column newName =>
      rw [judge] at fixable
      split at fixable <;> cases fixable
  | alterColumnType table column fromType toType conversion =>
      rw [judge] at fixable
      split at fixable <;> cases fixable
  | _ => cases fixable

variable (config : PlannerConfig) (caps : ServerCaps) (rows : RowEstimate) (op : Operation) (planned : List Step)

theorem fixable_ordered (fixable : Fixable config caps rows op)
    (succeeds : steps op (judge op config caps rows) caps entry = .ok planned) : Ordered entry [] planned := by
  cases fixable with
  | addColumn table column =>
      cases succeeds
      exact add_column_ordered entry table column caps
  | setNotNull table column checked =>
      cases succeeds
      exact set_not_null_ordered entry table column _ caps
  | addConstraint table constraint included =>
      exact add_constraint_ordered entry table constraint planned included succeeds
  | addIndex table index plainly =>
      rw [steps, if_neg (by simp [plainly])] at succeeds
      obtain ⟨spec, -, rfl⟩ := (map_ok_iff _ _ _).mp succeeds
      exact ordered_both entry _ _ (build_index_ordered entry [] spec)
        (ordered_flat entry _ _ (build_index_ordered entry []))
  | alterTogether table kind add remove =>
      exact alter_together_ordered entry table kind add remove planned succeeds

theorem unchecked_validated (fixable : Fixable config caps rows op)
    (succeeds : steps op (judge op config caps rows) caps entry = .ok planned) (name : String)
    (wanted : name ∈ checkedNames op) (unchecked : knownRule entry name = some false) :
    .validate op.table name ∈ planned := by
  cases fixable with
  | addColumn table column =>
      cases succeeds
      obtain ⟨reference, named, rfl⟩ := List.mem_map.mp wanted
      have referring : .validate table reference.1 ∈ columnReference table column entry := by
        rw [columnReference, Option.mem_toList.mp named]
        exact List.mem_append_right _ (add_not_valid_validates entry table _ _ unchecked)
      exact List.mem_append_left _ (List.mem_append_right _ referring)
  | setNotNull table column checked =>
      have resumed : isResumed (.setNotNull table column) (judge (.setNotNull table column) config caps rows) =
          true := by
        rw [isResumed, judge]
        cases strategy : NotNullStrategy.select config.notNullMode caps rows with
        | directUnsafe => exact absurd strategy checked
        | constraintAssisted => rfl
        | catalogUpdate => rfl
      rw [List.mem_singleton.mp wanted] at unchecked ⊢
      exact addition_validates _ _ caps entry planned resumed succeeds ⟨_, .check, [column]⟩
        (List.mem_singleton_self _) rfl unchecked
  | addConstraint table constraint included =>
      cases constraint with
      | check given columns expression =>
          exact addition_validates _ _ caps entry planned rfl succeeds ⟨name, .check, columns⟩
            (List.mem_map_of_mem wanted) rfl unchecked
      | foreignKey given columns toTable toColumns onDelete deferrable =>
          rw [List.mem_singleton.mp wanted] at unchecked ⊢
          exact addition_validates _ _ caps entry planned rfl succeeds ⟨_, .foreignKey, columns⟩
            (List.mem_singleton_self _) rfl unchecked
      | _ => cases wanted
  | addIndex table index plainly => cases wanted
  | alterTogether table kind add remove => cases wanted

theorem last_divided (front before after : List Step) (raise last step : Step) (outside : step ∉ front)
    (unlike : step ≠ raise) (divided : front ++ [raise, last] = before ++ step :: after) :
    before = front ++ [raise] ∧ after = [] := by
  obtain ⟨rest, rfl⟩ := prefix_before front [raise, last] before after step divided outside
  rw [List.append_assoc, List.append_cancel_left_eq] at divided
  cases rest with
  | nil => exact absurd (List.cons.inj divided).1.symm unlike
  | cons head tail =>
      obtain ⟨rfl, later⟩ := List.cons.inj divided
      cases tail with
      | nil => exact ⟨rfl, (List.cons.inj later).2.symm⟩
      | cons next others => simp at later

theorem adopt_not_null_shape (table column : String) (strategy : NotNullStrategy)
    (checked : strategy ≠ .directUnsafe) :
    adoptNotNull table column strategy caps = [] ∨
      ∃ raise, RaisesNotNull table column raise.change ∧
        adoptNotNull table column strategy caps = [raise, .dropConstraint table (notNullHelper table column)] := by
  cases strategy with
  | directUnsafe => exact absurd rfl checked
  | constraintAssisted =>
      rw [adoptNotNull]
      split
      · exact .inr ⟨.alter table (.setNotNull column), .inl rfl, rfl⟩
      · exact .inl rfl
  | catalogUpdate => exact .inr ⟨.unwrapped (.markNotNull table column), .inr rfl, rfl⟩

theorem add_not_valid_drops_nothing (table name : String) (body : ConstraintBody) (step : Step)
    (member : step ∈ addNotValid entry table name body) (target dropped : String) :
    step.change ≠ .alterTable target (.dropConstraint dropped) := by
  rw [add_not_valid_known_as] at member
  rcases known : knownRule entry name with _ | _ | _ <;> rw [known] at member
  · rcases List.mem_pair.mp member with rfl | rfl <;> simp [Step.alter, Step.validate, Step.wrapped, Step.flexible]
  · rw [List.mem_singleton.mp member]
    simp [Step.validate, Step.flexible]
  · cases member

theorem set_not_null_closes (table column : String) (strategy : NotNullStrategy)
    (checked : strategy ≠ .directUnsafe) (before after : List Step) (step : Step)
    (divided : setNotNull table column strategy caps entry = before ++ step :: after)
    (target dropped : String) (drops : step.change = .alterTable target (.dropConstraint dropped)) :
    ClosesProof table column (setNotNull table column strategy caps entry) before after := by
  have quiet : step ∉ addNotValid entry table (notNullHelper table column) (.notNull column) := fun inside =>
    add_not_valid_drops_nothing entry table _ _ step inside target dropped drops
  rw [setNotNull, if_neg checked] at divided ⊢
  split at divided
  · simp at divided
  · next undone =>
    rw [if_neg undone]
    rcases adopt_not_null_shape caps table column strategy checked with none | ⟨raise, raises, adopts⟩
    · rw [none, List.append_nil] at divided
      exact absurd (by simp [divided]) quiet
    · rw [adopts] at divided ⊢
      have unlike : step ≠ raise := by
        rintro rfl
        rcases raises with same | same <;> rw [drops] at same <;> cases same
      obtain ⟨rfl, rfl⟩ := last_divided _ before after raise _ step quiet unlike divided
      refine ⟨rfl, _, raise, rfl, raises, fun validates => ?_⟩
      rcases List.mem_append.mp validates with inside | adopting
      · exact inside
      · rcases List.mem_pair.mp adopting with same | same
        · rcases raises with other | other <;> rw [← same] at other <;> cases other
        · cases same

theorem fixable_drops_last (fixable : Fixable config caps rows op)
    (succeeds : steps op (judge op config caps rows) caps entry = .ok planned) (before after : List Step)
    (step : Step) (table name : String) (divided : planned = before ++ step :: after)
    (drops : step.change = .alterTable table (.dropConstraint name)) :
    IsRemovedKey entry op name ∨
      ∃ column, op = .setNotNull table column ∧ name = notNullHelper table column ∧
        ClosesProof table column planned before after := by
  have named : dropped? step.change = some (.constraint table name) := by rw [drops]; rfl
  have justified := steps_justified caps entry op _ planned succeeds
  subst divided
  have grounds := (justified_at caps entry op before after step _ justified named).resolve_right
    (by rintro ⟨index, same, -⟩; cases same)
  cases fixable with
  | setNotNull own column checked =>
      have same : setNotNull own column (NotNullStrategy.select config.notNullMode caps rows) caps entry =
          before ++ step :: after := Except.ok.inj succeeds
      have closes := set_not_null_closes entry caps own column _ checked before after step same table name drops
      rw [same] at closes
      cases grounds
      exact .inr ⟨column, rfl, rfl, closes⟩
  | alterTogether own kind add remove =>
      cases grounds with
      | removedConstraint _ _ _ group c inside sole =>
          obtain ⟨known, listed, fits⟩ := sole
          have member : c ∈ known.constraints.filter (IsRuleOn group (some .unique)) := by simp [fits]
          obtain ⟨inside, -, unique⟩ := by simpa [IsRuleOn] using member
          exact .inl ⟨table, add, remove, rfl, known, listed, c, inside, unique, rfl⟩
  | addColumn own column => cases grounds
  | addConstraint own constraint included => cases grounds
  | addIndex own index plainly => cases grounds

theorem fixable_plan_in_order (op : Operation) (config : PlannerConfig) (caps : ServerCaps) (rows : RowEstimate)
    (catalog : Catalog) (planned : List Step)
    (verdict : (judge op config caps rows).classification = .unsafeFixable)
    (succeeds : forCatalog op (judge op config caps rows) caps catalog = .ok planned) :
    InOrder op (catalog.table? op.table) planned := by
  rw [for_catalog] at succeeds
  have fixable := fixable_kinds op config caps rows verdict
  have ordered := fixable_ordered _ config caps rows op planned fixable succeeds
  exact {
    validatedNext := fun before step after divided =>
      (ordered_at _ [] planned before after step ordered divided).2
    validated := unchecked_validated _ config caps rows op planned fixable succeeds
    keyPlaced := fun before step after divided =>
      (ordered_at _ [] planned before after step ordered divided).1
    droppedLast := fun before step after table name divided =>
      fixable_drops_last _ config caps rows op planned fixable succeeds before after step table name divided }

-- A column that is to be NOT NULL whose check waits for its validation, and a key whose index was not built
-- to the end.
def invoices : TableEntry :=
  ⟨[⟨notNullHelper "invoices" "total", .check, ["total"], false, none⟩],
    [⟨"invoices_number", ["number"], [], true, false, false, false, none⟩],
    [⟨"total", "integer", false⟩, ⟨"number", "integer", true⟩]⟩

theorem unfinished_plans_in_order :
    let catalog : Catalog := { tables := [("invoices", invoices)] }
    let helper := notNullHelper "invoices" "total"
    let proof := Operation.setNotNull "invoices" "total"
    let proving := [.validate "invoices" helper, .alter "invoices" (.setNotNull "total"),
      .dropConstraint "invoices" helper]
    let key := Operation.addConstraint "invoices" (.unique (some "invoices_number") ["number"] none none)
    let index := IndexSpec.uniqueOn "invoices_number" "invoices" ["number"] none
    let keying := [.dropIndexConcurrently "invoices_number", .createIndexConcurrently index,
      .alter "invoices" (.addConstraint "invoices_number" (.usingIndex false "invoices_number" none) false)]
    (forCatalog proof (judge proof .default .default .unknown) .default catalog = .ok proving ∧
      InOrder proof (some invoices) proving) ∧
    forCatalog key (judge key .default .default .unknown) .default catalog = .ok keying ∧
      InOrder key (some invoices) keying := by
  intro catalog helper proof proving key index keying
  have proves : forCatalog proof (judge proof .default .default .unknown) .default catalog = .ok proving := by
    decide +kernel
  have keys : forCatalog key (judge key .default .default .unknown) .default catalog = .ok keying := by
    decide +kernel
  exact ⟨⟨proves, fixable_plan_in_order proof _ _ _ catalog proving rfl proves⟩,
    keys, fixable_plan_in_order key _ _ _ catalog keying rfl keys⟩

end OnlineDdl.Stepwise
