import OnlineDdl.Proofs.Plan.NotNull
import OnlineDdl.Proofs.Plan.Refinement
import OnlineDdl.Proofs.Plan.Locality

/-! Runs that are cut off and planned anew: however often that happens, the run that completes ends
where a single run would have ended. -/

set_option autoImplicit false

namespace OnlineDdl.Stepwise

variable (server : Server)

-- One attempt at an operation: it is planned against the table as it stands, and its run may be cut
-- off after any statement.
def Attempt (op : Operation) (decision : Decision) (caps : ServerCaps) (t s : Table) : Prop :=
  ∃ catalog steps, catalog.table? op.table = some t.entry ∧
    forCatalog op decision caps catalog = .ok steps ∧ Interrupted server steps t s

-- What the first attempt must find: new names are free, and a rule of NOT NULL is on a column that
-- is there, in whatever state.
def Restartable (op : Operation) (decision : Decision) (caps : ServerCaps) (t : Table) : Prop :=
  match op with
  | .setNotNull _ column =>
    (decision.notNull = some .constraintAssisted ∨ decision.notNull = some .catalogUpdate) ∧
      t.hasColumn column = true
  | .addConstraint _ (.primaryKey _ columns) => LonePattern t columns ∧ Fresh (newNames op caps t) t
  | _ => isStepwiseAddition op = true ∧ Fresh (newNames op caps t) t

def Converges (op : Operation) (decision : Decision) (caps : ServerCaps) (t : Table) : Prop :=
  ∃ plan states goal, (∀ entry, steps op decision caps (some entry) = .ok (plan entry)) ∧ states t ∧
    Resumable server plan states goal

theorem index_converges (index : IndexDef) (decision : Decision) (caps : ServerCaps) (t : Table)
    (plainly : index.concurrently = false) (wellPosed : isWellPosed (.addIndex t.name index) = true)
    (fresh : Fresh (newNames (.addIndex t.name index) caps t) t) :
    Converges server (.addIndex t.name index) decision caps t := by
  obtain ⟨spec, defined⟩ := (opclasses_fit t.name index).mp wellPosed
  obtain ⟨own, free, spare⟩ := index_spare index caps t spec defined fresh
  obtain ⟨states, started, resumable⟩ := add_index_resumable server t spec _ own free spare
  refine ⟨_, states, _, fun entry => ?_, started, resumable⟩
  simp [steps, plainly, addIndex, defined, Except.map]

theorem primary_key_converges (given : Option String) (columns : List String) (decision : Decision)
    (caps : ServerCaps) (t : Table) (lone : LonePattern t columns)
    (fresh : Fresh (newNames (.addConstraint t.name (.primaryKey given columns)) caps t) t) :
    Converges server (.addConstraint t.name (.primaryKey given columns)) decision caps t := by
  have free := fresh_main _ caps t (primaryKeyName t.name given columns) fresh rfl
  obtain ⟨states, started, resumable⟩ := primary_key_resumable server t _ columns free.2 free.1 lone
  exact ⟨_, states, _, fun _ => rfl, started, resumable⟩

theorem constraint_converges (constraint : ConstraintDef) (decision : Decision) (caps : ServerCaps) (t : Table)
    (restartable : Restartable (.addConstraint t.name constraint) decision caps t)
    (wellPosed : isWellPosed (.addConstraint t.name constraint) = true) :
    Converges server (.addConstraint t.name constraint) decision caps t := by
  cases constraint with
  | primaryKey given columns =>
      exact primary_key_converges server given columns decision caps t restartable.1 restartable.2
  | check given columns expression =>
      obtain ⟨name, called⟩ := (checked_name t.name given columns).mp wellPosed
      have free := fresh_main _ caps t name restartable.2 (by rw [mainName, called]; rfl)
      obtain ⟨states, started, resumable⟩ := add_check_resumable server t name expression free.1
      refine ⟨_, states, _, fun entry => ?_, started, resumable⟩
      rw [steps, addConstraint, called]
      rfl
  | unique given columns condition deferrable =>
      have free := fresh_main _ caps t (uniqueName t.name given columns) restartable.2 rfl
      cases condition with
      | none =>
          exact ⟨_, _, _, fun _ => rfl, .inl .absent,
            add_key_resumable server t
              { Key.unique t.name (uniqueName t.name given columns) columns with condition := none, deferrable }
              rfl rfl free.2 free.1⟩
      | some condition =>
          exact ⟨_, _, _, fun _ => rfl, .absent,
            add_partial_key_resumable server t
              { Key.unique t.name (uniqueName t.name given columns) columns with
                condition := some condition, deferrable }
              rfl rfl free.2⟩
  | foreignKey given columns toTable toColumns onDelete deferrable =>
      have free := fresh_main _ caps t (foreignKeyName t.name given columns toTable toColumns) restartable.2 rfl
      obtain ⟨states, started, resumable⟩ := add_foreign_key_resumable server t _ columns
        ⟨toTable, toColumns, onDelete, deferrable⟩ free.1
        (support_spare t caps given columns toTable toColumns onDelete deferrable restartable.2)
      exact ⟨_, states, _, fun _ => rfl, started, resumable⟩
  | exclusion name expression => cases restartable.1

theorem not_null_converges (column : String) (decision : Decision) (caps : ServerCaps) (t : Table)
    (strategy : NotNullStrategy) (chosen : decision.notNull = some strategy) (indirect : strategy ≠ .directUnsafe)
    (present : t.hasColumn column = true) : Converges server (.setNotNull t.name column) decision caps t := by
  obtain ⟨states, goal, started, resumable⟩ :=
    set_not_null_resumable server t column strategy caps indirect present
  refine ⟨_, states, goal, fun entry => ?_, started, resumable⟩
  rw [steps, chosen]
  rfl

theorem planned_well_posed (op : Operation) (decision : Decision) (caps : ServerCaps) (entry : Option TableEntry)
    (planned : List Step) (succeeds : steps op decision caps entry = .ok planned)
    (adds : isStepwiseAddition op = true) :
    isWellPosed op = true := by
  cases op with
  | addIndex table index =>
      have plainly : index.concurrently = false := by simpa [isStepwiseAddition] using adds
      rw [steps, if_neg (by simp [plainly]), addIndex] at succeeds
      obtain ⟨spec, defined, -⟩ := (map_ok_iff _ _ _).mp succeeds
      exact (opclasses_fit table index).mpr ⟨spec, defined⟩
  | addConstraint table constraint =>
      cases constraint with
      | check given columns expression =>
          rw [steps, addConstraint] at succeeds
          obtain ⟨name, called, -⟩ := (map_ok_iff _ _ _).mp succeeds
          exact (checked_name table given columns).mpr ⟨name, called⟩
      | _ => rfl
  | _ => rfl

theorem restartable_converges (op : Operation) (decision : Decision) (caps : ServerCaps) (t : Table)
    (restartable : Restartable op decision caps t) (own : op.table = t.name) (planned : List Step)
    (succeeds : steps op decision caps (some t.entry) = .ok planned) : Converges server op decision caps t := by
  have wellPosed := planned_well_posed op decision caps _ planned succeeds
  cases op with
  | setNotNull table column =>
      cases own
      obtain ⟨chosen, present⟩ := restartable
      rcases chosen with assisted | direct
      · exact not_null_converges server column decision caps t _ assisted (by decide) present
      · exact not_null_converges server column decision caps t _ direct (by decide) present
  | addIndex table index =>
      cases own
      obtain ⟨adds, fresh⟩ := restartable
      have plainly : index.concurrently = false := by simpa [isStepwiseAddition] using adds
      exact index_converges server index decision caps t plainly (wellPosed adds) fresh
  | addConstraint table constraint =>
      cases own
      have adds : isStepwiseAddition (.addConstraint t.name constraint) = true := by
        cases constraint with
        | primaryKey given columns => rfl
        | _ => exact restartable.1
      exact constraint_converges server constraint decision caps t restartable (wellPosed adds)
  | _ => cases restartable.1

theorem interrupted_plans_converge (op : Operation) (decision : Decision) (caps : ServerCaps) (catalog : Catalog)
    (t : Table) (planned : List Step) (restartable : Restartable op decision caps t) (own : op.table = t.name)
    (listed : catalog.table? op.table = some t.entry)
    (succeeds : forCatalog op decision caps catalog = .ok planned) :
    ∃ goal, t.runStrictly server planned = some goal ∧
      ∀ s, Relation.ReflTransGen (Attempt server op decision caps) t s →
        ∀ later, later.table? op.table = some s.entry →
          ∃ rest, forCatalog op decision caps later = .ok rest ∧ s.runStrictly server rest = some goal := by
  rw [for_catalog, listed] at succeeds
  obtain ⟨plan, states, goal, plans, started, resumable⟩ :=
    restartable_converges server op decision caps t restartable own planned succeeds
  have same : planned = plan t.entry := Except.ok.inj (succeeds.symm.trans (plans t.entry))
  refine ⟨goal, same ▸ resumable.finishes t started, fun s attempts later shows => ?_⟩
  have follows (a b : Table) (attempt : Attempt server op decision caps a b) :
      Interrupted server (plan a.entry) a b := by
    obtain ⟨seen, tried, shown, made, run⟩ := attempt
    rw [for_catalog, shown, plans] at made
    rwa [Except.ok.inj made]
  have reached : Relation.ReflTransGen (fun a b => Interrupted server (plan a.entry) a b) t s :=
    Relation.ReflTransGen.mono follows t s attempts
  have state := resumable_reached server plan states goal resumable t s started reached
  refine ⟨plan s.entry, ?_, resumable.finishes s state⟩
  rw [for_catalog, shows, plans]

-- A build that failed halfway is such a state: the next attempt drops what is left of it.
theorem failed_build_converges :
    let server : Server := ⟨fun _ => [], fun _ => Table.keyIndex "" [] false, fun _ _ _ => ""⟩
    let op := Operation.addIndex "orders" { IndexDef.plain ["total"] with name := some "orders_total" }
    let t : Table := ⟨"orders", [], [], [⟨"total", "integer", true⟩]⟩
    let s := t.withIndex ((IndexSpec.plain "orders_total" "orders" ["total"]).held false)
    let decision := judge op .default .default .unknown
    Restartable op decision .default t ∧ op.table = t.name ∧
      Attempt server op decision .default t s ∧
      ∃ goal, t.runStrictly server
          [.createIndexConcurrently (.plain "orders_total" "orders" ["total"])] = some goal ∧
        ∃ rest, forCatalog op decision .default { tables := [("orders", s.entry)] } = .ok rest ∧ rest.length = 2 ∧
          s.runStrictly server rest = some goal := by
  intro server op t s decision
  have restartable : Restartable op decision .default t := by
    refine ⟨rfl, ?_⟩
    rw [Fresh]
    decide
  have cut : Attempt server op decision .default t s :=
    ⟨{ tables := [("orders", t.entry)] }, _, rfl, rfl, .half _ _ _ _ _ rfl rfl rfl⟩
  obtain ⟨goal, reached, converges⟩ := interrupted_plans_converge server op decision .default
    { tables := [("orders", t.entry)] } t [.createIndexConcurrently (.plain "orders_total" "orders" ["total"])]
    restartable rfl rfl rfl
  obtain ⟨rest, planned, ends⟩ := converges s (.single cut) { tables := [("orders", s.entry)] } rfl
  refine ⟨restartable, rfl, cut, goal, reached, rest, planned, ?_, ends⟩
  rw [← Except.ok.inj planned]
  rfl

end OnlineDdl.Stepwise
