import OnlineDdl.Proofs.Plan.Timeouts
import OnlineDdl.Proofs.Run.Session

/-! The policy for operations that have no safe form. It decides whether such an operation runs, and
nothing else: a strict run and a lenient one differ in nothing that is sent. -/

set_option autoImplicit false

namespace OnlineDdl

variable {σ : Type}

def PlannerConfig.underPolicy (config : PlannerConfig) (strict : Bool) : PlannerConfig :=
  { config with raiseForUnsafe := strict }

theorem judge_policy (op : Operation) (config : PlannerConfig) (strict : Bool) (caps : ServerCaps)
    (rows : RowEstimate) : judge op (config.underPolicy strict) caps rows = judge op config caps rows := by
  cases op <;> rfl

theorem wrap_from_policy (config : PlannerConfig) (strict : Bool) (current : Option Timeout.Region)
    (plan : List Statement) :
    Timeout.wrapFrom (config.underPolicy strict) current plan = Timeout.wrapFrom config current plan := by
  induction plan generalizing current with
  | nil => rfl
  | cons s rest ih =>
      rw [Timeout.wrapFrom, Timeout.wrapFrom, ih, ih]
      rfl

theorem wrap_policy (config : PlannerConfig) (strict : Bool) (plan : Plan) :
    Timeout.wrap (config.underPolicy strict) plan = Timeout.wrap config plan :=
  wrap_from_policy config strict none plan

theorem unfixable_baseline (op : Operation) (config : PlannerConfig) (caps : ServerCaps) (catalog : Catalog)
    (rows : RowEstimate) (reason : UnsafeReason)
    (unfixable : (judge op config caps rows).classification = .unsafeUnfixable reason) :
    ∃ base, Baseline.forCatalog op caps catalog = .ok base := by
  rw [Baseline.forCatalog]
  cases op with
  | addConstraint table constraint =>
      cases constraint with
      | exclusion name expression => exact ⟨_, rfl⟩
      | _ => cases unfixable
  | dropConstraint => cases unfixable
  | dropIndex => cases unfixable
  | addIndex table index =>
      rw [judge] at unfixable
      split at unfixable <;> cases unfixable
  | alterTogether table kind add remove =>
      rw [judge] at unfixable
      split at unfixable <;> cases unfixable
  | _ => exact ⟨_, rfl⟩

theorem steps_filtered (config : PlannerConfig) (steps : List Step) :
    (Timeout.wrap config (Plan.ofSteps steps)).filter Statement.isDdl = Plan.ofSteps steps := by
  refine Timeout.wrap_filtered config (Plan.ofSteps steps) fun statement member => ?_
  obtain ⟨step, _, rfl⟩ := List.mem_map.mp member
  rfl

theorem proceeds_iff (c : Classification) :
    c.isUnfixable = false ↔ ∀ reason, c ≠ .unsafeUnfixable reason := by
  cases c <;> simp [Classification.isUnfixable, Classification.reason?]

theorem proceeding_compiled (op : Operation) (config : PlannerConfig) (strict : Bool) (caps : ServerCaps)
    (catalog : Catalog) (rows : RowEstimate)
    (proceeds : (judge op config caps rows).classification.isUnfixable = false) :
    compileWith op (config.underPolicy strict) caps catalog rows =
      (orPrecondition (Baseline.forCatalog op caps catalog) >>= fun base =>
        orPrecondition (Stepwise.forCatalog op (judge op config caps rows) caps catalog) >>= fun steps =>
        .ok ⟨op.kindName, op.table, (judge op config caps rows).classification, .proceed,
          (judge op config caps rows).notNull, base.map fun step => step.change.sql,
          Timeout.wrap config (Plan.ofSteps steps)⟩) := by
  have calm : enforce (judge op config caps rows).classification (config.underPolicy strict) = .proceed := by
    cases verdict : (judge op config caps rows).classification with
    | unsafeUnfixable reason =>
        rw [verdict] at proceeds
        cases proceeds
    | safe => rfl
    | unsafeFixable => rfl
  rw [compileWith, judge_policy, calm]
  simp only [wrap_policy]

theorem proceeding_silent (op : Operation) (config : PlannerConfig) (strict : Bool) (caps : ServerCaps)
    (catalog : Catalog) (rows : RowEstimate) (compiled : Compiled)
    (proceeds : (judge op config caps rows).classification.isUnfixable = false)
    (succeeded : compileWith op (config.underPolicy strict) caps catalog rows = .ok compiled) :
    compiled.action = .proceed := by
  rw [proceeding_compiled op config strict caps catalog rows proceeds] at succeeded
  cases planned : orPrecondition (Baseline.forCatalog op caps catalog) with
  | error failure => rw [planned] at succeeded; cases succeeded
  | ok base =>
      cases stepwise : orPrecondition (Stepwise.forCatalog op (judge op config caps rows) caps catalog) with
      | error failure => rw [planned, stepwise] at succeeded; cases succeeded
      | ok steps =>
          rw [planned, stepwise] at succeeded
          rw [← Except.ok.inj succeeded]

theorem unfixable_compiled (op : Operation) (config : PlannerConfig) (strict : Bool) (caps : ServerCaps)
    (catalog : Catalog) (rows : RowEstimate) (reason : UnsafeReason) (base : List Step)
    (unfixable : (judge op config caps rows).classification = .unsafeUnfixable reason)
    (planned : Baseline.forCatalog op caps catalog = .ok base) :
    compileWith op (config.underPolicy strict) caps catalog rows =
      if strict then .error (.unsafeOperation reason ((Plan.ofSteps base).map Statement.sql))
      else .ok ⟨op.kindName, op.table, .unsafeUnfixable reason, .proceedWithWarning reason,
        (judge op config caps rows).notNull, (Plan.ofSteps base).map Statement.sql,
        Timeout.wrap config (Plan.ofSteps base)⟩ := by
  have texts : (Plan.ofSteps base).map Statement.sql = base.map fun step => step.change.sql := List.map_map
  rw [compileWith, judge_policy, unfixable, planned, texts]
  cases strict with
  | true => rfl
  | false =>
      rw [← wrap_policy config false]
      rfl

def askedRows (config : PlannerConfig) (estimate : String → StateM σ RowEstimate) (op : Operation) :
    StateM σ RowEstimate :=
  if needsRowEstimate op config then estimate op.table else pure .unknown

def compileUnder (config : PlannerConfig) (strict : Bool) (caps : ServerCaps) (catalog : Catalog)
    (estimate : String → StateM σ RowEstimate) (op : Operation) : Session σ Compiled :=
  compile (config.underPolicy strict) caps catalog (fun table => ExceptT.lift (estimate table)) op

theorem compile_under_policy (config : PlannerConfig) (strict : Bool) (caps : ServerCaps) (catalog : Catalog)
    (estimate : String → StateM σ RowEstimate) (op : Operation) (s : σ) :
    (compileUnder config strict caps catalog estimate op).run s =
      (compileWith op (config.underPolicy strict) (config.serverCaps caps) catalog
        ((askedRows config estimate op).run s).1, ((askedRows config estimate op).run s).2) := by
  have same : needsRowEstimate op (config.underPolicy strict) = needsRowEstimate op config := by cases op <;> rfl
  refine compile_estimated (config.underPolicy strict) caps catalog _ op s _ _ ?_
  rw [Estimated, same, askedRows]
  by_cases needed : needsRowEstimate op config = true
  · rw [if_pos needed, if_pos needed]
    rfl
  · rw [if_neg needed, if_neg needed]
    exact ⟨rfl, rfl⟩

theorem policy_leaves_sql (config : PlannerConfig) (caps : ServerCaps) (catalog : Catalog)
    (estimate : String → StateM σ RowEstimate) (op : Operation) (s : σ) :
    let lenient := (compileUnder config false caps catalog estimate op).run s
    let strict := (compileUnder config true caps catalog estimate op).run s
    ∃ rows t, (askedRows config estimate op).run s = (rows, t) ∧
      match (judge op config (config.serverCaps caps) rows).classification with
      | .unsafeUnfixable reason =>
        ∃ base compiled, Baseline.forCatalog op (config.serverCaps caps) catalog = .ok base ∧
          lenient = (.ok compiled, t) ∧ compiled.action = .proceedWithWarning reason ∧
          compiled.warning? = some reason.message ∧
          compiled.statements.filter Statement.isDdl = Plan.ofSteps base ∧
          (Plan.ofSteps base).map Statement.sql = compiled.baseSql ∧
          strict = (.error (.unsafeOperation reason compiled.baseSql), t)
      | _ =>
        strict = lenient ∧
          ∀ compiled, lenient.1 = .ok compiled → compiled.action = .proceed ∧ compiled.warning? = none := by
  intro lenient strict
  have ran (policy : Bool) := compile_under_policy config policy caps catalog estimate op s
  generalize (askedRows config estimate op).run s = asked at ran ⊢
  obtain ⟨rows, t⟩ := asked
  have silent (proceeds : (judge op config (config.serverCaps caps) rows).classification.isUnfixable = false) :
      strict = lenient ∧
        ∀ compiled, lenient.1 = .ok compiled → compiled.action = .proceed ∧ compiled.warning? = none := by
    refine ⟨?_, fun compiled succeeded => ?_⟩
    · refine (ran true).trans (Eq.trans ?_ (ran false).symm)
      rw [proceeding_compiled op config true _ catalog rows proceeds,
        proceeding_compiled op config false _ catalog rows proceeds]
    · have passed := (congrArg Prod.fst (ran false)).symm.trans succeeded
      have action := proceeding_silent op config false _ catalog rows compiled proceeds passed
      exact ⟨action, by rw [Compiled.warning?, action]; rfl⟩
  refine ⟨rows, t, rfl, ?_⟩
  cases verdict : (judge op config (config.serverCaps caps) rows).classification with
  | safe => exact silent (by rw [verdict]; rfl)
  | unsafeFixable => exact silent (by rw [verdict]; rfl)
  | unsafeUnfixable reason =>
      obtain ⟨base, planned⟩ := unfixable_baseline op config _ catalog rows reason verdict
      have compiled (policy : Bool) := unfixable_compiled op config policy _ catalog rows reason base verdict planned
      have warned := (ran false).trans (congrArg (·, t) (compiled false))
      have refused := (ran true).trans (congrArg (·, t) (compiled true))
      exact ⟨base, _, planned, warned, rfl, rfl, steps_filtered config base, rfl, refused⟩

end OnlineDdl
