import OnlineDdl.Proofs.Run.Session
import OnlineDdl.Run.Transcript

/-! Recording changes nothing but the transcript: work on a recorded server ends as it does on the server
itself. -/

set_option autoImplicit false

namespace OnlineDdl

variable {σ α β : Type}

def Mirrors (recorded : Session (Recorded σ) α) (plain : Session σ α) : Prop :=
  ∀ s events, ∃ later, recorded.run (s, events) = ((plain.run s).1, ((plain.run s).2, events ++ later))

theorem pure_mirrors (a : α) : Mirrors (pure a : Session (Recorded σ) α) (pure a) :=
  fun s events => ⟨[], by rw [List.append_nil]; rfl⟩

theorem throw_mirrors (failure : Failure) : Mirrors (throw failure : Session (Recorded σ) α) (throw failure) :=
  fun s events => ⟨[], by rw [List.append_nil]; rfl⟩

theorem bind_mirrors (recorded : Session (Recorded σ) α) (plain : Session σ α)
    (next : α → Session (Recorded σ) β) (plainNext : α → Session σ β) (first : Mirrors recorded plain)
    (later : ∀ a, Mirrors (next a) (plainNext a)) : Mirrors (recorded >>= next) (plain >>= plainNext) := by
  intro s events
  obtain ⟨sent, ran⟩ := first s events
  cases answered : plain.run s with
  | mk outcome t =>
      rw [answered] at ran
      cases outcome with
      | error failure =>
          refine ⟨sent, ?_⟩
          rw [session_bind_error _ _ _ _ _ ran, session_bind_error _ _ _ _ _ answered]
      | ok a =>
          obtain ⟨others, went⟩ := later a t (events ++ sent)
          refine ⟨sent ++ others, ?_⟩
          rw [session_bind_ok _ _ _ _ _ ran, session_bind_ok _ _ _ _ _ answered, went, List.append_assoc]

theorem load_mirrors (host : Host σ) (tables : List String) :
    Mirrors (host.recorded.loadCatalog tables) (host.loadCatalog tables) :=
  fun _ _ => ⟨[.load tables], rfl⟩

theorem estimate_mirrors (host : Host σ) (table : String) :
    Mirrors (host.recorded.estimateRows table) (host.estimateRows table) :=
  fun _ _ => ⟨[.probe table], rfl⟩

theorem run_mirrors (host : Host σ) (sql : String) :
    Mirrors (liftM (host.recorded.run sql)) (liftM (host.run sql) : Session σ (Except String Unit)) :=
  fun s _ => ⟨[.run sql (host.run sql s).1.toBool], rfl⟩

theorem restore_mirrors (host : Host σ) (isOpen : Nat) :
    Mirrors (liftM (restore host.recorded isOpen)) (liftM (restore host isOpen) : Session σ Unit) := by
  rw [restore, restore]
  split
  · exact fun s _ => ⟨[.run restoreSql (host.run restoreSql s).1.toBool], rfl⟩
  · exact pure_mirrors ()

theorem run_from_mirrors (host : Host σ) (operation position isOpen : Nat) (plan : List Statement) :
    Mirrors (runFrom host.recorded operation position isOpen plan) (runFrom host operation position isOpen plan) := by
  induction plan generalizing position isOpen with
  | nil => exact pure_mirrors []
  | cons statement rest ih =>
      refine bind_mirrors _ _ _ _ (run_mirrors host statement.sql) fun answer => ?_
      cases answer with
      | error cause => exact bind_mirrors _ _ _ _ (restore_mirrors host isOpen) fun _ => throw_mirrors _
      | ok => exact bind_mirrors _ _ _ _ (ih _ _) fun others => pure_mirrors _

theorem run_plan_mirrors (host : Host σ) (operation : Nat) (plan : Plan) :
    Mirrors (runPlan host.recorded operation plan) (runPlan host operation plan) :=
  bind_mirrors _ _ _ _ (run_from_mirrors host operation 0 0 plan) fun _ => pure_mirrors _

theorem compile_mirrors (host : Host σ) (config : PlannerConfig) (caps : ServerCaps) (catalog : Catalog)
    (op : Operation) :
    Mirrors (compile config caps catalog host.recorded.estimateRows op)
      (compile config caps catalog host.estimateRows op) := by
  rw [compile, compile]
  split
  · refine bind_mirrors _ _ _ _ (estimate_mirrors host op.table) fun rows => ?_
    dsimp only
    cases compileWith op config (config.serverCaps caps) catalog rows with
    | error failure => exact throw_mirrors failure
    | ok compiled => exact pure_mirrors compiled
  · refine bind_mirrors _ _ _ _ (pure_mirrors _) fun rows => ?_
    dsimp only
    cases compileWith op config (config.serverCaps caps) catalog rows with
    | error failure => exact throw_mirrors failure
    | ok compiled => exact pure_mirrors compiled

theorem apply_from_mirrors (host : Host σ) (config : PlannerConfig) (caps : ServerCaps) (index : Nat)
    (ops : List Operation) :
    Mirrors (applyFrom host.recorded config caps index ops) (applyFrom host config caps index ops) := by
  induction ops generalizing index with
  | nil => exact pure_mirrors []
  | cons op ops ih =>
      refine bind_mirrors _ _ _ _ ?_ fun done => bind_mirrors _ _ _ _ (ih _) fun others => pure_mirrors _
      refine bind_mirrors _ _ _ _ (load_mirrors host [op.table]) fun catalog => ?_
      refine bind_mirrors _ _ _ _ (compile_mirrors host config caps catalog op) fun compiled => ?_
      exact bind_mirrors _ _ _ _ (run_plan_mirrors host index compiled.statements) fun execution => pure_mirrors _

theorem recorded_apply (host : Host σ) (config : PlannerConfig) (caps : ServerCaps) (ops : List Operation)
    (s t : σ) (outcome : Except Failure (List Applied)) (events : List Event)
    (ran : (apply host.recorded config caps ops).run (s, []) = (outcome, (t, events))) :
    (apply host config caps ops).run s = (outcome, t) := by
  obtain ⟨_, same⟩ := apply_from_mirrors host config caps 0 ops s []
  rw [← apply, ran] at same
  obtain ⟨rfl, rest⟩ := Prod.mk.inj same
  rw [(Prod.mk.inj rest).1]
  rfl

end OnlineDdl
