import OnlineDdl.Proofs.Run.Database
import OnlineDdl.Service.Answer

/-! Planning for a server and running operations on it: what is planned is what is run, as long as the
operations keep out of each other's way. -/

set_option autoImplicit false

namespace OnlineDdl

variable {σ α β γ : Type}

namespace Service

def asExecuted (plan : PlanResponse) : ExecuteResponse :=
  ⟨plan, plan.operations.map fun compiled => ⟨compiled.statements.map Statement.sql⟩⟩

theorem bind_alike (first : Session σ α) (next : α → Session σ β) (other : α → Session σ γ) (view : β → γ)
    (later : ∀ a t, ((other a).run t).1 = ((next a).run t).1.map view) (s : σ) :
    ((first >>= other).run s).1 = ((first >>= next).run s).1.map view := by
  cases answered : first.run s with
  | mk outcome t =>
      cases outcome with
      | error failure =>
          rw [session_bind_error _ _ _ _ _ answered, session_bind_error _ _ _ _ _ answered]
          rfl
      | ok a =>
          rw [session_bind_ok _ _ _ _ _ answered, session_bind_ok _ _ _ _ _ answered]
          exact later a t

theorem bind_pure_outcome (first : Session σ α) (view : α → β) (s : σ) :
    ((first >>= fun a => pure (view a)).run s).1 = (first.run s).1.map view := by
  cases answered : first.run s with
  | mk outcome t =>
      cases outcome with
      | error failure =>
          rw [session_bind_error _ _ _ _ _ answered]
          rfl
      | ok a =>
          rw [session_bind_ok _ _ _ _ _ answered]
          rfl

variable (c : Connection σ) (planner : PlannerConfig) (request : PlanRequest)

theorem plan_live_unfolded (offline : request.catalog = none) :
    plan planner (.connected c) { request with live := true } =
      (validate request >>= fun _ => c.probeCaps >>= fun caps => liveConfig planner request c >>= fun config =>
        (c.loadCatalog (distinctTables request.operations) >>= fun catalog =>
          compileAll config caps catalog c.estimateRows request.operations) >>= fun compiled =>
            pure ⟨config.serverCaps caps, compiled⟩) := by
  simp only [plan, planLive, connect, offline, bind_assoc, pure_bind, if_true]
  rfl

theorem execute_unfolded :
    execute planner (.connected c) request =
      (validate request >>= fun _ => c.probeCaps >>= fun caps => liveConfig planner request c >>= fun config =>
        apply c.host config caps request.operations >>= fun applied =>
          pure ⟨⟨config.serverCaps caps, applied.map (·.compiled)⟩, applied.map (·.execution)⟩) := by
  simp only [execute, connect, pure_bind]

theorem live_outcome (s : σ) (offline : request.catalog = none)
    (distinct : (request.operations.map Operation.table).Nodup) (undisturbed : Undisturbed c request.operations) :
    ((execute planner (.connected c) request).run s).1 =
      ((plan planner (.connected c) { request with live := true }).run s).1.map asExecuted := by
  rw [plan_live_unfolded c planner request offline, execute_unfolded]
  refine bind_alike _ _ _ _ (fun _ t => bind_alike _ _ _ _ (fun caps u => bind_alike _ _ _ _ (fun config v => ?_) u) t) s
  obtain ⟨outcome, ⟨_, planned⟩, _, applied⟩ :=
    planned_as_applied c config caps request.operations v undisturbed distinct
  rw [bind_pure_outcome, bind_pure_outcome, planned, applied]
  cases outcome with
  | error failure => rfl
  | ok compiled =>
      have plans : (compiled.map asRun).map (·.compiled) = compiled := by
        rw [List.map_map]
        exact List.map_id compiled
      have runs : (compiled.map asRun).map (·.execution) =
          compiled.map fun one => ⟨one.statements.map Statement.sql⟩ := List.map_map
      change Except.ok (ExecuteResponse.mk ⟨_, (compiled.map asRun).map (·.compiled)⟩
        ((compiled.map asRun).map (·.execution))) = _
      rw [plans, runs]
      rfl

theorem validate_asks : Asks (validate request : Session (Recorded σ) Unit) (validate request) := by
  rw [validate, validate]
  cases request.fault? with
  | none => exact pure_traced _ _ rfl
  | some fault => exact throw_asks _

theorem live_config_asks : Asks (liveConfig planner request c.recorded) (liveConfig planner request c) := by
  rw [liveConfig, liveConfig]
  cases request.config with
  | none => exact bind_asks _ _ _ _ (session_defaults_asks c) fun _ => pure_traced _ _ rfl
  | some config => exact pure_traced _ _ rfl

theorem plan_live_asks (offline : request.catalog = none) :
    Asks (plan planner (.connected c.recorded) { request with live := true })
      (plan planner (.connected c) { request with live := true }) := by
  rw [plan_live_unfolded c planner request offline, plan_live_unfolded c.recorded planner request offline]
  refine bind_asks _ _ _ _ (validate_asks request) fun _ => bind_asks _ _ _ _ (probe_caps_asks c) fun caps => ?_
  refine bind_asks _ _ _ _ (live_config_asks c planner request) fun config => ?_
  refine bind_asks _ _ _ _ ?_ fun compiled => pure_traced _ _ rfl
  exact bind_asks _ _ _ _ (extend_catalog_asks c .empty _) fun catalog => compile_all_asks c config caps catalog _

theorem execute_traced :
    Traced (execute planner (.connected c.recorded) request) (execute planner (.connected c) request)
      (Reports fun done => done.executions.flatMap runEvents) := by
  rw [execute_unfolded, execute_unfolded]
  refine asks_traced _ _ _ _ _ (validate_asks request) (fun _ => ?_) fun failure => failure_reports _ failure []
  refine asks_traced _ _ _ _ _ (probe_caps_asks c) (fun caps => ?_) fun failure => failure_reports _ failure []
  refine asks_traced _ _ _ _ _ (live_config_asks c planner request) (fun config => ?_)
    fun failure => failure_reports _ failure []
  refine bind_traced _ _ _ _ _ (fun applied outcome sent => outcome = .ok ⟨⟨config.serverCaps caps,
    applied.map (·.compiled)⟩, applied.map (·.execution)⟩ ∧ sent = []) _
    (apply_from_traced c config caps 0 request.operations) (fun applied => pure_traced _ _ ⟨rfl, rfl⟩)
    (fun failure sent _ => failure_reports _ failure sent) ?_
  rintro applied _ early _ told ⟨rfl, rfl⟩ _ ⟨rfl⟩
  rw [List.append_nil, told applied rfl]
  exact (List.flatMap_map ..).symm

theorem transcribe_traced (recorded : Session (Recorded σ) α) (plain : Session σ α)
    (tells : Except Failure α → List Event → Prop) (traced : Traced recorded plain tells) (s : σ) :
    (transcribe recorded s).1 = (plain.run s).1 ∧ tells (plain.run s).1 (sentEvents (transcribe recorded s).2) := by
  obtain ⟨later, ran, told⟩ := traced s []
  rw [transcribe, ran]
  exact ⟨rfl, told⟩

theorem planned_run_events (operations : List Compiled) :
    (operations.map fun compiled => (⟨compiled.statements.map Statement.sql⟩ : Execution)).flatMap runEvents =
      operations.flatMap fun compiled => acceptedEvents compiled.statements := by
  rw [List.flatMap_map]
  congr
  funext compiled
  rw [runEvents, List.map_map]
  rfl

-- What is planned live is what is run: either both fail alike, or the same is reported, and the statements
-- that are sent are those of the plan.
theorem live_plan_is_executed (s : σ) (offline : request.catalog = none)
    (distinct : (request.operations.map Operation.table).Nodup) (undisturbed : Undisturbed c request.operations) :
    let planned := transcribe (plan planner (.connected c.recorded) { request with live := true }) s
    let executed := transcribe (execute planner (.connected c.recorded) request) s
    executed.1 = planned.1.map asExecuted ∧ sentEvents planned.2 = [] ∧
      ∀ response, planned.1 = .ok response →
        sentEvents executed.2 = response.operations.flatMap fun compiled => acceptedEvents compiled.statements := by
  intro planned executed
  obtain ⟨plans, silent⟩ := transcribe_traced _ _ _ (plan_live_asks c planner request offline) s
  obtain ⟨executes, reports⟩ := transcribe_traced _ _ _ (execute_traced c planner request) s
  have same : executed.1 = planned.1.map asExecuted := by
    rw [plans, executes]
    exact live_outcome c planner request s offline distinct undisturbed
  refine ⟨same, silent, fun response succeeds => ?_⟩
  rw [succeeds] at same
  rw [reports _ (executes.symm.trans same)]
  exact planned_run_events response.operations

def twoStages : Rehearsal.Database where
  version := "150004"
  collation := "en_US.utf8"
  settings := [("lock_timeout", "0")]
  stages :=
    [[("\"orders\"", ⟨[], [], [⟨some "total", some "integer", some false⟩]⟩)],
      [("\"customers\"", ⟨[], [], [⟨some "email", some "text", some true⟩]⟩)]]
  tupleCounts := []
  failQueries := []
  rejectSql := []
  rejectCalls := []

theorem two_stages_readable (stage : Nat) (table : String) (known : table = "orders" ∨ table = "customers") :
    ∃ entry, twoStages.reading stage table = .ok entry := by
  rcases known with rfl | rfl <;> rcases stage with _ | _ | _ <;> exact ⟨_, rfl⟩

theorem two_tables_planned_and_executed :
    let request : PlanRequest :=
      ⟨[.setNotNull "orders" "total", .addIndex "customers" (IndexDef.plain ["email"])], none, none, none, [], false⟩
    let c := twoStages.connection
    let planned := transcribe (plan .default (.connected c.recorded) { request with live := true }) .start
    let executed := transcribe (execute .default (.connected c.recorded) request) .start
    request.catalog = none ∧ (request.operations.map Operation.table).Nodup ∧ Undisturbed c request.operations ∧
      planned.1.toBool = true ∧ executed.1 = planned.1.map asExecuted := by
  intro request c planned executed
  have undisturbed : Undisturbed c request.operations := by
    refine twoStages.willing_undisturbed ⟨rfl, rfl, rfl⟩ request.operations fun op member stage => ?_
    refine two_stages_readable stage op.table ?_
    rcases List.mem_cons.mp member with same | later
    · exact .inl (same ▸ rfl)
    · exact .inr (List.mem_singleton.mp later ▸ rfl)
  have distinct : (request.operations.map Operation.table).Nodup := by decide
  obtain ⟨same, -, -⟩ := live_plan_is_executed c .default request .start rfl distinct undisturbed
  exact ⟨rfl, distinct, undisturbed, by decide +kernel, same⟩

end Service

end OnlineDdl
