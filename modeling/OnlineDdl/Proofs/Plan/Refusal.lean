import OnlineDdl.Proofs.Plan.Agreement
import OnlineDdl.Proofs.Plan.Policy
import OnlineDdl.Proofs.Plan.Locality

/-! Operations that cannot be planned. The baseline and the stepwise plan are refused together and for the
same cause, whichever is made first. Only the stepwise rules refuse more, in two cases: an index that is held
by a constraint is not dropped, and several checks that stand for NOT NULL leave none to choose. -/

set_option autoImplicit false

namespace OnlineDdl.Stepwise

variable {σ : Type}

inductive OnlyStepwise (entry : Option TableEntry) : Operation → Precondition → Prop where
  | ownedIndex (table : String) (name : Option String) (columns : List String) (target constraint : String)
      (i : IndexInfo) (meant : indexTarget table name columns entry = .ok target)
      (found : entry.bind (·.index? target) = some i) (owned : i.constraint = some constraint) :
      OnlyStepwise entry (.dropIndex table name columns) (.constraintIndex target constraint)
  | severalChecks (table column : String) (known : TableEntry) (listed : entry = some known)
      (found : List ConstraintInfo) (all : known.constraints.filter (IsNotNullCheck column) = found)
      (many : 1 < found.length) :
      OnlyStepwise entry (.dropNotNull table column) (.ambiguousNotNullCheck table column found.length)

def Unplanned (caps : ServerCaps) (catalog : Catalog) (op : Operation) (cause : Precondition) : Prop :=
  Baseline.forCatalog op caps catalog = .error cause ∨ OnlyStepwise (catalog.table? op.table) op cause

variable (entry : Option TableEntry) (caps : ServerCaps) (cause : Precondition)

theorem several_checks_refused (table column : String) :
    dropNotNull table column entry = .error cause ↔ OnlyStepwise entry (.dropNotNull table column) cause := by
  rw [dropNotNull, map_error_iff]
  constructor
  · intro refused
    cases entry with
    | none => cases refused
    | some known =>
        rw [notNullCheck, not_null_checks_on] at refused
        rcases found : known.constraints.filter (IsNotNullCheck column) with _ | ⟨first, _ | ⟨second, rest⟩⟩ <;>
          rw [found] at refused <;> cases refused
        exact .severalChecks table column known rfl _ found (by simp)
  · intro several
    cases several with
    | severalChecks _ _ known listed found all many =>
        rw [listed, notNullCheck, not_null_checks_on, all]
        rcases found with _ | ⟨first, _ | ⟨second, rest⟩⟩
        · cases many
        · exact absurd many (Nat.lt_irrefl 1)
        · rfl

theorem owned_index_refused (table : String) (name : Option String) (columns : List String) :
    dropIndex table name columns entry = .error cause ↔
      indexTarget table name columns entry = .error cause ∨
        OnlyStepwise entry (.dropIndex table name columns) cause := by
  rw [dropIndex]
  constructor
  · intro refused
    cases meant : indexTarget table name columns entry with
    | error other =>
        rw [meant] at refused
        cases refused
        exact .inl rfl
    | ok target =>
        rw [meant] at refused
        cases found : entry.bind (·.index? target) with
        | none => simp [found] at refused
        | some i =>
            cases owned : i.constraint with
            | none => simp [found, owned] at refused
            | some constraint =>
                simp only [found, owned, Except.error.injEq] at refused
                exact .inr (refused ▸ .ownedIndex table name columns target constraint i meant found owned)
  · intro reasons
    rcases reasons with missing | owned
    · rw [missing]
    · cases owned with
      | ownedIndex _ _ _ target constraint i meant found owned => simp [meant, found, owned]

theorem constraint_refused_alike (table : String) (constraint : ConstraintDef) :
    addConstraint table entry constraint = .error cause ↔
      Baseline.steps (.addConstraint table constraint) caps entry = .error cause := by
  rw [Baseline.steps, map_error_iff]
  cases constraint with
  | check name columns expression => rw [addConstraint, Baseline.addConstraint, map_error_iff, map_error_iff]
  | unique name columns condition deferrable =>
      rw [addConstraint]
      cases condition <;> simp [Baseline.addConstraint]
  | primaryKey name columns => simp [addConstraint, Baseline.addConstraint]
  | foreignKey name columns toTable toColumns onDelete deferrable => simp [addConstraint, Baseline.addConstraint]
  | exclusion name expression => simp [addConstraint, Baseline.addConstraint]

theorem removals_refused_alike (table : String) (kind : TogetherKind) (add remove : List (List String)) :
    alterTogether table kind add remove entry = .error cause ↔
      Baseline.steps (.alterTogether table kind add remove) caps entry = .error cause := by
  rw [alterTogether, Baseline.steps, stepwise_removals, baseline_removals]
  simp only [map_error_iff]

theorem steps_refused_iff (op : Operation) (decision : Decision) :
    steps op decision caps entry = .error cause ↔
      Baseline.steps op caps entry = .error cause ∨ OnlyStepwise entry op cause := by
  have alike (same : steps op decision caps entry = .error cause ↔ Baseline.steps op caps entry = .error cause)
      (never : ¬ OnlyStepwise entry op cause) : steps op decision caps entry = .error cause ↔
        Baseline.steps op caps entry = .error cause ∨ OnlyStepwise entry op cause :=
    same.trans (or_iff_left never).symm
  cases op with
  | dropNotNull table column =>
      rw [steps, several_checks_refused, Baseline.steps]
      simp
  | dropIndex table name columns => rw [steps, owned_index_refused, Baseline.steps, map_error_iff]
  | addColumn table column => exact alike (by simp [steps, Baseline.steps]) (by rintro ⟨⟩)
  | setNotNull table column => exact alike (by simp [steps, Baseline.steps]) (by rintro ⟨⟩)
  | addConstraint table constraint =>
      exact alike (constraint_refused_alike entry caps cause table constraint) (by rintro ⟨⟩)
  | dropConstraint table name columns kind =>
      exact alike (by rw [steps, dropConstraint, Baseline.steps, map_error_iff, map_error_iff]) (by rintro ⟨⟩)
  | addIndex table index =>
      refine alike ?_ (by rintro ⟨⟩)
      rw [steps]
      by_cases beside : index.concurrently = true
      · rw [if_pos beside]
      · rw [if_neg beside, addIndex, Baseline.steps, map_error_iff, map_error_iff]
  | alterTogether table kind add remove =>
      exact alike (removals_refused_alike entry caps cause table kind add remove) (by rintro ⟨⟩)
  | _ => exact alike Iff.rfl (by rintro ⟨⟩)

theorem only_stepwise_baseline (op : Operation) (only : OnlyStepwise entry op cause) :
    ∃ base, Baseline.steps op caps entry = .ok base := by
  cases only with
  | ownedIndex table name columns target constraint i meant found owned =>
      exact ⟨_, (map_ok_iff _ _ _).mpr ⟨target, meant, rfl⟩⟩
  | severalChecks => exact ⟨_, rfl⟩

theorem compile_with_refused_iff (op : Operation) (config : PlannerConfig) (catalog : Catalog) (rows : RowEstimate)
    (failure : Failure) (proceeds : ∀ reason, (judge op config caps rows).classification ≠ .unsafeUnfixable reason) :
    compileWith op config caps catalog rows = .error failure ↔
      ∃ cause, failure = .precondition cause ∧ Unplanned caps catalog op cause := by
  have refused := fun cause => steps_refused_iff (catalog.table? op.table) caps cause op (judge op config caps rows)
  have compiled :=
    proceeding_compiled op config config.raiseForUnsafe caps catalog rows ((proceeds_iff _).mpr proceeds)
  change compileWith op config caps catalog rows = _ at compiled
  rw [compiled]
  simp only [Unplanned, ← refused, Baseline.for_catalog, for_catalog]
  cases rendered : Baseline.steps op caps (catalog.table? op.table) with
  | error cause =>
      have both := (refused cause).mpr (.inl rendered)
      simp [both, orPrecondition, bind, Except.bind, eq_comm]
  | ok base =>
      cases made : steps op (judge op config caps rows) caps (catalog.table? op.table) with
      | error cause => simp [orPrecondition, bind, Except.bind, eq_comm]
      | ok planned => simp [orPrecondition, bind, Except.bind]

theorem compile_refused_iff (config : PlannerConfig) (catalog : Catalog) (estimateRows : String → Session σ RowEstimate)
    (op : Operation) (s t : σ) (failure : Failure)
    (proceeds : ∀ rows u, Estimated config estimateRows op s rows u →
      ∀ reason, (judge op config (config.serverCaps caps) rows).classification ≠ .unsafeUnfixable reason) :
    (compile config caps catalog estimateRows op).run s = (.error failure, t) ↔
      (needsRowEstimate op config = true ∧ (estimateRows op.table).run s = (.error failure, t)) ∨
        ∃ rows cause, Estimated config estimateRows op s rows t ∧ failure = .precondition cause ∧
          Unplanned (config.serverCaps caps) catalog op cause := by
  constructor
  · intro failed
    rcases estimated_or_not config estimateRows op s with ⟨rows, u, estimated⟩ | ⟨other, u, needed, asked⟩
    · rw [compile_estimated config caps catalog estimateRows op s u rows estimated, Prod.mk.injEq] at failed
      obtain ⟨compiled, rfl⟩ := failed
      obtain ⟨cause, named, unplanned⟩ :=
        (compile_with_refused_iff _ op config catalog rows failure (proceeds rows u estimated)).mp compiled
      exact .inr ⟨rows, cause, estimated, named, unplanned⟩
    · rw [compile_unestimated config caps catalog estimateRows op s u other needed asked] at failed
      cases failed
      exact .inl ⟨needed, asked⟩
  · rintro (⟨needed, asked⟩ | ⟨rows, cause, estimated, named, unplanned⟩)
    · exact compile_unestimated config caps catalog estimateRows op s t failure needed asked
    · have refused :=
        (compile_with_refused_iff _ op config catalog rows failure (proceeds rows t estimated)).mpr
          ⟨cause, named, unplanned⟩
      rw [compile_estimated config caps catalog estimateRows op s t rows estimated, refused]

-- Both ways to plan are refused for one cause, and so is compiling; no cause is told by one of them only,
-- but for an index that a constraint holds and for several checks in place of NOT NULL.
theorem renderers_refuse_alike (op : Operation) (catalog : Catalog) :
    (∀ decision cause, forCatalog op decision caps catalog = .error cause ↔ Unplanned caps catalog op cause) ∧
      (∀ cause, OnlyStepwise (catalog.table? op.table) op cause →
        ∃ base, Baseline.forCatalog op caps catalog = .ok base) ∧
      ∀ (σ : Type) config (estimateRows : String → Session σ RowEstimate) s t failure,
        (∀ rows u, Estimated config estimateRows op s rows u →
          ∀ reason, (judge op config (config.serverCaps caps) rows).classification ≠ .unsafeUnfixable reason) →
        ((compile config caps catalog estimateRows op).run s = (.error failure, t) ↔
          (needsRowEstimate op config = true ∧ (estimateRows op.table).run s = (.error failure, t)) ∨
            ∃ rows cause, Estimated config estimateRows op s rows t ∧ failure = .precondition cause ∧
              Unplanned (config.serverCaps caps) catalog op cause) := by
  refine ⟨fun decision cause => ?_, fun cause only => ?_, fun _ config estimateRows s t failure proceeds =>
    compile_refused_iff caps config catalog estimateRows op s t failure proceeds⟩
  · rw [for_catalog, Unplanned, Baseline.for_catalog]
    exact steps_refused_iff _ caps cause op decision
  · rw [Baseline.for_catalog]
    exact only_stepwise_baseline _ caps cause op only

theorem held_index_refused :
    let op := Operation.dropIndex "orders" (some "orders_code") []
    let held : IndexInfo := ⟨"orders_code", ["code"], [], true, false, true, false, some "orders_code"⟩
    let catalog : Catalog := { tables := [("orders", TableEntry.empty.withIndex held)] }
    let cause := Precondition.constraintIndex "orders_code" "orders_code"
    (∃ base, Baseline.forCatalog op .default catalog = .ok base) ∧
      forCatalog op (.of .safe) .default catalog = .error cause ∧
      (compile .default .default catalog (fun _ => pure .unknown) op : Session Unit Compiled).run () =
        (.error (.precondition cause), ()) := by
  intro op held catalog cause
  have only : OnlyStepwise (catalog.table? op.table) op cause :=
    .ownedIndex "orders" (some "orders_code") [] "orders_code" "orders_code" held rfl rfl rfl
  obtain ⟨refused, rendered, compiled⟩ := renderers_refuse_alike .default op catalog
  refine ⟨rendered cause only, (refused (.of .safe) cause).mpr (.inr only), ?_⟩
  refine (compiled Unit .default (fun _ => pure .unknown) () () (.precondition cause) ?_).mpr
    (.inr ⟨.unknown, cause, ⟨rfl, rfl⟩, rfl, .inr only⟩)
  intro rows u estimated reason unfixable
  cases unfixable

end OnlineDdl.Stepwise
