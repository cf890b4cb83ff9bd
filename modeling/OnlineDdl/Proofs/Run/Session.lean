import OnlineDdl.Run.Execute

/-! Work on a server taken step by step, and compiling as such work: the only question it asks is the
size of a table. -/

set_option autoImplicit false

namespace OnlineDdl

variable {σ α β : Type}

theorem session_bind_ok (first : Session σ α) (next : α → Session σ β) (a : α) (s t : σ)
    (passed : first.run s = (.ok a, t)) : (first >>= next).run s = (next a).run t := by
  change (ExceptT.bindCont next (first.run s).1) (first.run s).2 = _
  rw [passed]
  rfl

theorem session_bind_error (first : Session σ α) (next : α → Session σ β) (failure : Failure) (s t : σ)
    (failed : first.run s = (.error failure, t)) : (first >>= next).run s = (.error failure, t) := by
  change (ExceptT.bindCont next (first.run s).1) (first.run s).2 = _
  rw [failed]
  rfl

-- The row estimate that an operation is compiled with: none is asked for where the plan does not
-- depend on it.
def Estimated (config : PlannerConfig) (estimateRows : String → Session σ RowEstimate) (op : Operation)
    (s : σ) (rows : RowEstimate) (t : σ) : Prop :=
  if needsRowEstimate op config then (estimateRows op.table).run s = (.ok rows, t)
  else rows = .unknown ∧ t = s

theorem compile_with_parts (op : Operation) (config : PlannerConfig) (caps : ServerCaps) (catalog : Catalog)
    (rows : RowEstimate) (compiled : Compiled) (succeeds : compileWith op config caps catalog rows = .ok compiled) :
    ∃ base planned, Baseline.forCatalog op caps catalog = .ok base ∧
      (planned = base ∨ Stepwise.forCatalog op (judge op config caps rows) caps catalog = .ok planned) ∧
      compiled = ⟨op.kindName, op.table, (judge op config caps rows).classification,
        enforce (judge op config caps rows).classification config, (judge op config caps rows).notNull,
        base.map fun step => step.change.sql, Timeout.wrap config (Plan.ofSteps planned)⟩ := by
  rw [compileWith] at succeeds
  cases baseline : Baseline.forCatalog op caps catalog with
  | error cause =>
      rw [baseline] at succeeds
      cases succeeds
  | ok base =>
      rw [baseline] at succeeds
      cases action : enforce (judge op config caps rows).classification config with
      | abort reason =>
          rw [action] at succeeds
          cases succeeds
      | proceedWithWarning reason =>
          rw [action] at succeeds
          exact ⟨base, base, rfl, .inl rfl, (Except.ok.inj succeeds).symm⟩
      | proceed =>
          rw [action] at succeeds
          cases stepwise : Stepwise.forCatalog op (judge op config caps rows) caps catalog with
          | error cause =>
              rw [stepwise] at succeeds
              cases succeeds
          | ok planned =>
              rw [stepwise] at succeeds
              exact ⟨base, planned, rfl, .inr rfl, (Except.ok.inj succeeds).symm⟩

variable (config : PlannerConfig) (caps : ServerCaps) (catalog : Catalog)
  (estimateRows : String → Session σ RowEstimate) (op : Operation)

theorem estimated_or_not (s : σ) :
    (∃ rows t, Estimated config estimateRows op s rows t) ∨
      ∃ failure t, needsRowEstimate op config = true ∧ (estimateRows op.table).run s = (.error failure, t) := by
  by_cases needed : needsRowEstimate op config = true
  · cases asked : (estimateRows op.table).run s with
    | mk outcome t =>
        cases outcome with
        | error failure => exact .inr ⟨failure, t, needed, rfl⟩
        | ok rows => exact .inl ⟨rows, t, by rw [Estimated, if_pos needed, asked]⟩
  · exact .inl ⟨.unknown, s, by rw [Estimated, if_neg needed]; exact ⟨rfl, rfl⟩⟩

theorem compile_estimated (s t : σ) (rows : RowEstimate)
    (estimated : Estimated config estimateRows op s rows t) :
    (compile config caps catalog estimateRows op).run s =
      (compileWith op config (config.serverCaps caps) catalog rows, t) := by
  rw [Estimated] at estimated
  split at estimated
  · next needed =>
      rw [compile, if_pos needed, session_bind_ok _ _ _ _ _ estimated]
      dsimp only
      cases compileWith op config (config.serverCaps caps) catalog rows with
      | error failure => rfl
      | ok compiled => rfl
  · next spared =>
      obtain ⟨rfl, rfl⟩ := estimated
      have unasked : (pure RowEstimate.unknown : Session σ RowEstimate).run t = (.ok .unknown, t) := rfl
      rw [compile, if_neg spared, session_bind_ok _ _ _ _ _ unasked]
      dsimp only
      cases compileWith op config (config.serverCaps caps) catalog .unknown with
      | error failure => rfl
      | ok compiled => rfl

theorem compile_unestimated (s t : σ) (failure : Failure) (needed : needsRowEstimate op config = true)
    (failed : (estimateRows op.table).run s = (.error failure, t)) :
    (compile config caps catalog estimateRows op).run s = (.error failure, t) := by
  rw [compile, if_pos needed, session_bind_error _ _ _ _ _ failed]

end OnlineDdl
