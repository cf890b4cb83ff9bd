import OnlineDdl.Proofs.Run.Batch

/-! Questions and statements on a recorded connection: what work comes to on it, and which statements
the transcript holds when the work is done. -/

set_option autoImplicit false

namespace OnlineDdl

variable {σ α β : Type}

def Event.isRun : Event → Bool
  | .run .. => true
  | _ => false

def sentEvents (events : List Event) : List Event := events.filter Event.isRun

theorem sent_events_append (earlier later : List Event) :
    sentEvents (earlier ++ later) = sentEvents earlier ++ sentEvents later := List.filter_append ..

theorem sent_events_accepted (statements : List Statement) :
    sentEvents (acceptedEvents statements) = acceptedEvents statements := by
  rw [sentEvents, List.filter_eq_self]
  intro event member
  obtain ⟨statement, -, rfl⟩ := List.mem_map.mp member
  rfl

def Traced (recorded : Session (Recorded σ) α) (plain : Session σ α)
    (tells : Except Failure α → List Event → Prop) : Prop :=
  ∀ s events, ∃ later, recorded.run (s, events) = ((plain.run s).1, ((plain.run s).2, events ++ later)) ∧
    tells (plain.run s).1 (sentEvents later)

def Asks (recorded : Session (Recorded σ) α) (plain : Session σ α) : Prop :=
  Traced recorded plain fun _ sent => sent = []

theorem pure_traced (a : α) (tells : Except Failure α → List Event → Prop) (told : tells (.ok a) []) :
    Traced (pure a : Session (Recorded σ) α) (pure a) tells :=
  fun s events => ⟨[], by rw [List.append_nil]; rfl, told⟩

theorem throw_asks (failure : Failure) : Asks (throw failure : Session (Recorded σ) α) (throw failure) :=
  fun s events => ⟨[], by rw [List.append_nil]; rfl, rfl⟩

theorem bind_traced (recorded : Session (Recorded σ) α) (plain : Session σ α)
    (next : α → Session (Recorded σ) β) (plainNext : α → Session σ β)
    (front : Except Failure α → List Event → Prop) (back : α → Except Failure β → List Event → Prop)
    (tells : Except Failure β → List Event → Prop) (first : Traced recorded plain front)
    (later : ∀ a, Traced (next a) (plainNext a) (back a))
    (failed : ∀ failure sent, front (.error failure) sent → tells (.error failure) sent)
    (joined : ∀ a outcome early late, front (.ok a) early → back a outcome late → tells outcome (early ++ late)) :
    Traced (recorded >>= next) (plain >>= plainNext) tells := by
  intro s events
  obtain ⟨sent, ran, told⟩ := first s events
  cases answered : plain.run s with
  | mk outcome t =>
      rw [answered] at ran told
      cases outcome with
      | error failure =>
          refine ⟨sent, ?_, ?_⟩
          · rw [session_bind_error _ _ _ _ _ ran, session_bind_error _ _ _ _ _ answered]
          · rw [session_bind_error _ _ _ _ _ answered]
            exact failed failure _ told
      | ok a =>
          obtain ⟨others, went, toldLater⟩ := later a t (events ++ sent)
          refine ⟨sent ++ others, ?_, ?_⟩
          · rw [session_bind_ok _ _ _ _ _ ran, session_bind_ok _ _ _ _ _ answered, went, List.append_assoc]
          · rw [session_bind_ok _ _ _ _ _ answered, sent_events_append]
            exact joined a _ _ _ told toldLater

theorem asks_traced (recorded : Session (Recorded σ) α) (plain : Session σ α)
    (next : α → Session (Recorded σ) β) (plainNext : α → Session σ β)
    (tells : Except Failure β → List Event → Prop) (first : Asks recorded plain)
    (later : ∀ a, Traced (next a) (plainNext a) tells) (failed : ∀ failure, tells (.error failure) []) :
    Traced (recorded >>= next) (plain >>= plainNext) tells := by
  refine bind_traced _ _ _ _ _ _ _ first later (fun failure sent none => none ▸ failed failure) ?_
  intro a outcome early late none told
  rw [none]
  exact told

theorem bind_asks (recorded : Session (Recorded σ) α) (plain : Session σ α)
    (next : α → Session (Recorded σ) β) (plainNext : α → Session σ β) (first : Asks recorded plain)
    (later : ∀ a, Asks (next a) (plainNext a)) : Asks (recorded >>= next) (plain >>= plainNext) :=
  asks_traced _ _ _ _ _ first later fun _ => rfl

theorem ask_run (query : Query σ α) (s : σ) :
    (ask query).run s = ((query.run s).1.mapError fun e => .database e.message, (query.run s).2) := by
  rw [ask]
  cases answered : query.run s with
  | mk outcome t =>
      simp only [ExceptT.run_mk, bind, StateT.bind, answered]
      cases outcome <;> rfl

theorem query_asks (name : String) (parameter : Option String) (query : Query σ α) :
    Asks (ask (Transcript.notingQuery name parameter query)) (ask query) := by
  intro s events
  refine ⟨[.query name parameter], ?_, rfl⟩
  rw [ask_run, ask_run]
  rfl

theorem understand_asks (rows : Except QueryError α) :
    Asks (understand rows : Session (Recorded σ) α) (understand rows) := by
  cases rows with
  | error e => exact throw_asks _
  | ok a => exact pure_traced a _ rfl

variable (c : Connection σ)

theorem load_table_asks (table : String) : Asks (c.recorded.loadTable table) (c.loadTable table) := by
  refine bind_asks _ _ _ _ (query_asks _ _ _) fun rows => bind_asks _ _ _ _ (understand_asks _) fun constraints => ?_
  refine bind_asks _ _ _ _ (query_asks _ _ _) fun rows => bind_asks _ _ _ _ (understand_asks _) fun indexes => ?_
  refine bind_asks _ _ _ _ (query_asks _ _ _) fun rows => bind_asks _ _ _ _ (understand_asks _) fun columns => ?_
  exact pure_traced _ _ rfl

theorem estimate_rows_asks (table : String) : Asks (c.recorded.estimateRows table) (c.estimateRows table) :=
  bind_asks _ _ _ _ (query_asks _ _ _) fun _ => pure_traced _ _ rfl

theorem session_defaults_asks : Asks c.recorded.sessionDefaults c.sessionDefaults :=
  bind_asks _ _ _ _ (query_asks _ _ _) fun _ => pure_traced _ _ rfl

theorem probe_caps_asks : Asks c.recorded.probeCaps c.probeCaps := by
  refine bind_asks _ _ _ _ (query_asks _ _ _) fun version => ?_
  cases Text.readNumeral Text.u32Bound (Text.trim version.toList) with
  | none => exact throw_asks _
  | some n => exact bind_asks _ _ _ _ (query_asks _ _ _) fun _ => pure_traced _ _ rfl

theorem extend_catalog_asks (catalog : Catalog) (tables : List String) :
    Asks (c.recorded.extendCatalog catalog tables) (c.extendCatalog catalog tables) := by
  induction tables generalizing catalog with
  | nil => exact pure_traced _ _ rfl
  | cons table rest ih =>
      rw [Connection.extendCatalog, Connection.extendCatalog]
      split
      · exact ih catalog
      · exact bind_asks _ _ _ _ (load_table_asks c table) fun entry => ih _

theorem compile_asks (config : PlannerConfig) (caps : ServerCaps) (catalog : Catalog) (op : Operation) :
    Asks (compile config caps catalog c.recorded.estimateRows op) (compile config caps catalog c.estimateRows op) := by
  rw [compile, compile]
  split
  · refine bind_asks _ _ _ _ (estimate_rows_asks c op.table) fun rows => ?_
    dsimp only
    cases compileWith op config (config.serverCaps caps) catalog rows with
    | error failure => exact throw_asks failure
    | ok compiled => exact pure_traced compiled _ rfl
  · refine bind_asks _ _ _ _ (pure_traced _ _ rfl) fun rows => ?_
    dsimp only
    cases compileWith op config (config.serverCaps caps) catalog rows with
    | error failure => exact throw_asks failure
    | ok compiled => exact pure_traced compiled _ rfl

theorem compile_all_asks (config : PlannerConfig) (caps : ServerCaps) (catalog : Catalog) (ops : List Operation) :
    Asks (compileAll config caps catalog c.recorded.estimateRows ops)
      (compileAll config caps catalog c.estimateRows ops) := by
  induction ops with
  | nil => exact pure_traced _ _ rfl
  | cons op rest ih =>
      refine bind_asks _ _ _ _ (compile_asks c config caps catalog op) fun compiled => ?_
      exact bind_asks _ _ _ _ ih fun others => pure_traced _ _ rfl

def Reports (events : α → List Event) (outcome : Except Failure α) (sent : List Event) : Prop :=
  ∀ a, outcome = .ok a → sent = events a

theorem failure_reports (events : α → List Event) (failure : Failure) (sent : List Event) :
    Reports events (.error failure) sent := by
  intro a succeeds
  cases succeeds

def runEvents (execution : Execution) : List Event := execution.executedStatements.map (.run · true)

-- A run of statements needs nothing of a host but the way to send them.
theorem run_from_same (host other : Host σ) (same : host.run = other.run) (operation position isOpen : Nat)
    (plan : List Statement) :
    runFrom host operation position isOpen plan = runFrom other operation position isOpen plan := by
  induction plan generalizing position isOpen with
  | nil => rfl
  | cons statement rest ih => simp only [runFrom, restore, same, ih]

theorem run_plan_traced (operation : Nat) (plan : Plan) :
    Traced (runPlan c.recorded.host operation plan) (runPlan c.host operation plan) (Reports runEvents) := by
  intro s events
  have sameHost : runPlan c.recorded.host operation plan = runPlan c.host.recorded operation plan := by
    rw [runPlan, runPlan, run_from_same c.recorded.host c.host.recorded rfl]
  obtain ⟨_, mirrored⟩ := run_plan_mirrors c.host operation plan s events
  rw [sameHost]
  rcases run_plan_transcript c.host operation plan s events with ⟨t, -, ran⟩ | ⟨failure, t, sent, -, ran⟩
  · rw [ran] at mirrored
    obtain ⟨outcome, rest⟩ := Prod.mk.inj mirrored
    refine ⟨acceptedEvents plan, ?_, ?_⟩
    · rw [ran, ← outcome, ← (Prod.mk.inj rest).1]
    · rw [← outcome, sent_events_accepted]
      rintro execution ⟨rfl⟩
      rw [runEvents, List.map_map]
      rfl
  · rw [ran] at mirrored
    obtain ⟨outcome, rest⟩ := Prod.mk.inj mirrored
    refine ⟨sent, ?_, ?_⟩
    · rw [ran, ← outcome, ← (Prod.mk.inj rest).1]
    · rw [← outcome]
      exact failure_reports _ _ _

def appliedEvents (applied : List Applied) : List Event := applied.flatMap fun done => runEvents done.execution

theorem apply_one_traced (config : PlannerConfig) (caps : ServerCaps) (index : Nat) (op : Operation) :
    Traced (applyOne c.recorded.host config caps index op) (applyOne c.host config caps index op)
      (Reports fun done => runEvents done.execution) := by
  refine asks_traced _ _ _ _ _ (extend_catalog_asks c .empty [op.table]) (fun catalog => ?_)
    fun failure => failure_reports _ failure []
  refine asks_traced _ _ _ _ _ (compile_asks c config caps catalog op) (fun compiled => ?_)
    fun failure => failure_reports _ failure []
  refine bind_traced _ _ _ _ _ (fun execution outcome sent => outcome = .ok ⟨compiled, execution⟩ ∧ sent = []) _
    (run_plan_traced c index compiled.statements) (fun execution => pure_traced _ _ ⟨rfl, rfl⟩)
    (fun failure sent _ => failure_reports _ failure sent) ?_
  rintro execution _ early _ told ⟨rfl, rfl⟩ _ ⟨rfl⟩
  rw [List.append_nil]
  exact told execution rfl

-- The induction is on the operations that are left.
theorem apply_from_traced (config : PlannerConfig) (caps : ServerCaps) (index : Nat) (ops : List Operation) :
    Traced (applyFrom c.recorded.host config caps index ops) (applyFrom c.host config caps index ops)
      (Reports appliedEvents) := by
  induction ops generalizing index with
  | nil =>
      refine pure_traced _ _ ?_
      rintro _ ⟨rfl⟩
      rfl
  | cons op rest ih =>
      have behind (done : Applied) : Traced
          (applyFrom c.recorded.host config caps (index + 1) rest >>= fun others => pure (done :: others))
          (applyFrom c.host config caps (index + 1) rest >>= fun others => pure (done :: others))
          (fun outcome sent => ∀ applied, outcome = .ok applied →
            ∃ others, applied = done :: others ∧ sent = appliedEvents others) := by
        refine bind_traced _ _ _ _ _ (fun others outcome sent => outcome = .ok (done :: others) ∧ sent = []) _
          (ih (index + 1)) (fun others => pure_traced _ _ ⟨rfl, rfl⟩) (fun _ _ _ _ succeeds => ?_) ?_
        · cases succeeds
        · rintro others _ early _ told ⟨rfl, rfl⟩ _ ⟨rfl⟩
          exact ⟨others, rfl, (List.append_nil early).trans (told others rfl)⟩
      refine bind_traced _ _ _ _ _ _ _ (apply_one_traced c config caps index op) behind
        (fun failure sent _ => failure_reports _ failure sent) ?_
      intro done outcome early late told toldLater applied succeeds
      obtain ⟨others, rfl, rfl⟩ := toldLater applied succeeds
      rw [told done rfl]
      rfl

end OnlineDdl
