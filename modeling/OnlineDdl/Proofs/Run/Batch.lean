import OnlineDdl.Proofs.Run.Recording
import OnlineDdl.Proofs.Run.Sending

/-! Batches of operations. Each operation is planned for its table as all earlier ones have left it and
then carried out; the first failure ends the batch, and the transcript says where. -/

set_option autoImplicit false

namespace OnlineDdl

variable {σ : Type}

inductive Planned (host : Host σ) (config : PlannerConfig) (caps : ServerCaps) (op : Operation) (s : σ) :
    Except Failure Compiled → σ → Prop where
  | intro (catalog : Catalog) (rows : RowEstimate) (t u : σ)
      (loaded : (host.loadCatalog [op.table]).run s = (.ok catalog, t))
      (estimated : Estimated config host.estimateRows op t rows u) :
      Planned host config caps op s (compileWith op config (config.serverCaps caps) catalog rows) u

def probeEvents (config : PlannerConfig) (op : Operation) : List Event :=
  if needsRowEstimate op config then [.probe op.table] else []

def planningEvents (config : PlannerConfig) (op : Operation) : List Event :=
  .load [op.table] :: probeEvents config op

inductive Unplanned (host : Host σ) (config : PlannerConfig) (caps : ServerCaps) (op : Operation) (s : σ) :
    Failure → σ → List Event → Prop where
  | unloaded (failure : Failure) (t : σ) (failed : (host.loadCatalog [op.table]).run s = (.error failure, t)) :
      Unplanned host config caps op s failure t [.load [op.table]]
  | unestimated (catalog : Catalog) (failure : Failure) (t u : σ)
      (loaded : (host.loadCatalog [op.table]).run s = (.ok catalog, t))
      (needed : needsRowEstimate op config = true)
      (failed : (host.estimateRows op.table).run t = (.error failure, u)) :
      Unplanned host config caps op s failure u (planningEvents config op)
  | uncompiled (failure : Failure) (t : σ) (planned : Planned host config caps op s (.error failure) t) :
      Unplanned host config caps op s failure t (planningEvents config op)

inductive Completed (host : Host σ) (config : PlannerConfig) (caps : ServerCaps) :
    List Operation → List Applied → σ → σ → Prop where
  | none (s : σ) : Completed host config caps [] [] s s
  | next (op : Operation) (ops : List Operation) (compiled : Compiled) (applied : List Applied) (s t u v : σ)
      (planned : Planned host config caps op s (.ok compiled) t)
      (accepted : Accepted host compiled.statements t u) (later : Completed host config caps ops applied u v) :
      Completed host config caps (op :: ops)
        (⟨compiled, ⟨compiled.statements.map Statement.sql⟩⟩ :: applied) s v

def batchEvents (config : PlannerConfig) (ops : List Operation) (applied : List Applied) : List Event :=
  (List.zipWith (fun op done => planningEvents config op ++ acceptedEvents done.compiled.statements) ops
    applied).flatten

def executedTexts (applied : List Applied) : List String :=
  applied.flatMap fun done => done.execution.executedStatements

def acceptedTexts (events : List Event) : List String :=
  events.filterMap fun
    | .run sql true => some sql
    | _ => none

inductive BatchEnds (host : Host σ) (config : PlannerConfig) (caps : ServerCaps) (index : Nat)
    (ops : List Operation) (s : σ) : Except Failure (List Applied) → σ → List Event → List String → Prop where
  | completed (applied : List Applied) (t : σ) (done : Completed host config caps ops applied s t) :
      BatchEnds host config caps index ops s (.ok applied) t (batchEvents config ops applied) (executedTexts applied)
  | unplanned (earlier : List Operation) (op : Operation) (later : List Operation) (applied : List Applied)
      (failure : Failure) (t u : σ) (planning : List Event) (divided : ops = earlier ++ op :: later)
      (done : Completed host config caps earlier applied s t)
      (failed : Unplanned host config caps op t failure u planning) :
      BatchEnds host config caps index ops s (.error failure) u (batchEvents config earlier applied ++ planning)
        (executedTexts applied)
  -- The failure names the operation and the statement by the number of those before them.
  | rejected (earlier : List Operation) (op : Operation) (later : List Operation) (applied : List Applied)
      (compiled : Compiled) (before : List Statement) (statement : Statement) (rest : List Statement)
      (cause : String) (t u v w x : σ) (restoring : List Event) (divided : ops = earlier ++ op :: later)
      (done : Completed host config caps earlier applied s t)
      (planned : Planned host config caps op t (.ok compiled) u)
      (parted : compiled.statements = before ++ statement :: rest) (accepted : Accepted host before u v)
      (refused : host.run statement.sql v = (.error cause, w))
      (takenBack : TakenBack host (openAfterAll 0 before) w x restoring) :
      BatchEnds host config caps index ops s
        (.error (.statementFailed (index + earlier.length) before.length statement.sql cause)) x
        (batchEvents config earlier applied ++
          (planningEvents config op ++ (acceptedEvents before ++ .run statement.sql false :: restoring)))
        (executedTexts applied ++ (before.map Statement.sql ++ acceptedTexts restoring))

theorem recorded_load (host : Host σ) (tables : List String) (outcome : Except Failure Catalog) (s t : σ)
    (events : List Event) (loaded : (host.loadCatalog tables).run s = (outcome, t)) :
    (host.recorded.loadCatalog tables).run (s, events) = (outcome, (t, events ++ [.load tables])) := by
  change (((host.loadCatalog tables).run s).1, (((host.loadCatalog tables).run s).2, events ++ [.load tables])) = _
  rw [loaded]

theorem recorded_estimate (host : Host σ) (table : String) (outcome : Except Failure RowEstimate) (s t : σ)
    (events : List Event) (estimated : (host.estimateRows table).run s = (outcome, t)) :
    (host.recorded.estimateRows table).run (s, events) = (outcome, (t, events ++ [.probe table])) := by
  change (((host.estimateRows table).run s).1, (((host.estimateRows table).run s).2, events ++ [.probe table])) = _
  rw [estimated]

theorem estimated_recorded (host : Host σ) (config : PlannerConfig) (op : Operation) (rows : RowEstimate) (s t : σ)
    (events : List Event) (estimated : Estimated config host.estimateRows op s rows t) :
    Estimated config host.recorded.estimateRows op (s, events) rows (t, events ++ probeEvents config op) := by
  rw [Estimated] at estimated ⊢
  rw [probeEvents]
  by_cases needed : needsRowEstimate op config = true
  · rw [if_pos needed] at estimated
    rw [if_pos needed, if_pos needed]
    exact recorded_estimate host op.table (.ok rows) s t events estimated
  · rw [if_neg needed] at estimated
    rw [if_neg needed, if_neg needed, List.append_nil, estimated.2]
    exact ⟨estimated.1, rfl⟩

theorem planning_front (config : PlannerConfig) (op : Operation) (events : List Event) :
    events ++ [.load [op.table]] ++ probeEvents config op = events ++ planningEvents config op := by
  rw [List.append_assoc]
  rfl

theorem planning_transcript (host : Host σ) (config : PlannerConfig) (caps : ServerCaps) (op : Operation)
    (outcome : Except Failure Compiled) (s t : σ) (events : List Event)
    (planned : Planned host config caps op s outcome t) :
    ∃ catalog u, (host.recorded.loadCatalog [op.table]).run (s, events) = (.ok catalog, u) ∧
      (compile config caps catalog host.recorded.estimateRows op).run u =
        (outcome, (t, events ++ planningEvents config op)) := by
  cases planned with
  | intro catalog rows u _ loaded estimated =>
      refine ⟨catalog, _, recorded_load host [op.table] _ s u events loaded, ?_⟩
      rw [← planning_front]
      exact compile_estimated config caps catalog host.recorded.estimateRows op _ _ rows
        (estimated_recorded host config op rows u t (events ++ [.load [op.table]]) estimated)

theorem apply_one_unplanned (host : Host σ) (config : PlannerConfig) (caps : ServerCaps) (index : Nat) (op : Operation)
    (failure : Failure) (s t : σ) (events planning : List Event)
    (failed : Unplanned host config caps op s failure t planning) :
    (applyOne host.recorded config caps index op).run (s, events) = (.error failure, (t, events ++ planning)) := by
  cases failed with
  | unloaded _ _ failed =>
      rw [applyOne, session_bind_error _ _ _ _ _ (recorded_load host [op.table] _ s t events failed)]
  | unestimated catalog _ u _ loaded needed failed =>
      have probed := recorded_estimate host op.table (.error failure) u t (events ++ [.load [op.table]]) failed
      have compiling := compile_unestimated config caps catalog host.recorded.estimateRows op _ _ failure needed probed
      rw [applyOne, session_bind_ok _ _ _ _ _ (recorded_load host [op.table] _ s u events loaded),
        session_bind_error _ _ _ _ _ compiling, ← planning_front, probeEvents, if_pos needed]
  | uncompiled _ _ planned =>
      obtain ⟨catalog, u, loaded, compiling⟩ := planning_transcript host config caps op _ s t events planned
      rw [applyOne, session_bind_ok _ _ _ _ _ loaded, session_bind_error _ _ _ _ _ compiling]

theorem planned_or_not (host : Host σ) (config : PlannerConfig) (caps : ServerCaps) (op : Operation) (s : σ) :
    (∃ compiled t, Planned host config caps op s (.ok compiled) t) ∨
      ∃ failure t planning, Unplanned host config caps op s failure t planning := by
  cases loaded : (host.loadCatalog [op.table]).run s with
  | mk outcome t =>
      cases outcome with
      | error failure => exact .inr ⟨failure, t, _, .unloaded failure t loaded⟩
      | ok catalog =>
          rcases estimated_or_not config host.estimateRows op t with ⟨rows, u, estimated⟩ | ⟨failure, u, needed, failed⟩
          · have planned : Planned host config caps op s _ u := .intro catalog rows t u loaded estimated
            cases outcome : compileWith op config (config.serverCaps caps) catalog rows with
            | error failure => exact .inr ⟨failure, u, _, .uncompiled failure u (outcome ▸ planned)⟩
            | ok compiled => exact .inl ⟨compiled, u, outcome ▸ planned⟩
          · exact .inr ⟨failure, u, _, .unestimated catalog failure t u loaded needed failed⟩

theorem apply_one_transcript (host : Host σ) (config : PlannerConfig) (caps : ServerCaps) (index : Nat)
    (op : Operation) (s : σ) (events : List Event) :
    (∃ compiled t u, Planned host config caps op s (.ok compiled) t ∧ Accepted host compiled.statements t u ∧
      (applyOne host.recorded config caps index op).run (s, events) =
        (.ok ⟨compiled, ⟨compiled.statements.map Statement.sql⟩⟩,
          (u, events ++ planningEvents config op ++ acceptedEvents compiled.statements))) ∨
    (∃ failure t planning, Unplanned host config caps op s failure t planning ∧
      (applyOne host.recorded config caps index op).run (s, events) = (.error failure, (t, events ++ planning))) ∨
    ∃ compiled failure t u sent, Planned host config caps op s (.ok compiled) t ∧
      Rejected host index 0 0 compiled.statements t failure u sent ∧
      (applyOne host.recorded config caps index op).run (s, events) =
        (.error failure, (u, events ++ planningEvents config op ++ sent)) := by
  rcases planned_or_not host config caps op s with ⟨compiled, t, planned⟩ | ⟨failure, t, planning, failed⟩
  · obtain ⟨catalog, loadedAt, loaded, compiling⟩ := planning_transcript host config caps op _ s t events planned
    rw [applyOne, session_bind_ok _ _ _ _ _ loaded, session_bind_ok _ _ _ _ _ compiling]
    rcases run_plan_transcript host index compiled.statements t (events ++ planningEvents config op) with
      ⟨u, accepted, ran⟩ | ⟨failure, u, sent, rejected, ran⟩
    · exact .inl ⟨compiled, t, u, planned, accepted, session_bind_ok _ _ _ _ _ ran⟩
    · exact .inr (.inr ⟨compiled, failure, t, u, sent, planned, rejected,
        session_bind_error _ _ _ _ _ ran⟩)
  · exact .inr (.inl ⟨failure, t, planning, failed,
      apply_one_unplanned host config caps index op failure s t events planning failed⟩)

theorem accepted_texts_append (earlier later : List Event) :
    acceptedTexts (earlier ++ later) = acceptedTexts earlier ++ acceptedTexts later := by
  rw [acceptedTexts, List.filterMap_append]
  rfl

theorem accepted_texts_sent (statements : List Statement) :
    acceptedTexts (acceptedEvents statements) = statements.map Statement.sql := by
  rw [acceptedTexts, acceptedEvents, List.filterMap_map, ← List.filterMap_eq_map]
  rfl

theorem accepted_texts_planning (config : PlannerConfig) (op : Operation) :
    acceptedTexts (planningEvents config op) = [] := by
  rw [planningEvents, probeEvents]
  split <;> rfl

theorem accepted_texts_unplanned (host : Host σ) (config : PlannerConfig) (caps : ServerCaps) (op : Operation)
    (s t : σ) (failure : Failure) (planning : List Event)
    (failed : Unplanned host config caps op s failure t planning) : acceptedTexts planning = [] := by
  cases failed with
  | unloaded => rfl
  | unestimated => exact accepted_texts_planning config op
  | uncompiled => exact accepted_texts_planning config op

theorem batch_events_next (config : PlannerConfig) (op : Operation) (ops : List Operation) (done : Applied)
    (applied : List Applied) :
    batchEvents config (op :: ops) (done :: applied) =
      planningEvents config op ++ acceptedEvents done.compiled.statements ++ batchEvents config ops applied := rfl

theorem executed_texts_next (done : Applied) (applied : List Applied) :
    executedTexts (done :: applied) = done.execution.executedStatements ++ executedTexts applied := rfl

theorem completed_texts (host : Host σ) (config : PlannerConfig) (caps : ServerCaps) (ops : List Operation)
    (applied : List Applied) (s t : σ) (done : Completed host config caps ops applied s t) :
    acceptedTexts (batchEvents config ops applied) = executedTexts applied := by
  induction done with
  | none => rfl
  | next op ops compiled applied s t u v _ _ _ ih =>
      rw [batch_events_next, executed_texts_next, accepted_texts_append, accepted_texts_append,
        accepted_texts_planning, accepted_texts_sent, ih]
      rfl

theorem batch_texts (host : Host σ) (config : PlannerConfig) (caps : ServerCaps) (index : Nat)
    (ops : List Operation) (s t : σ) (outcome : Except Failure (List Applied)) (events : List Event)
    (texts : List String) (ends : BatchEnds host config caps index ops s outcome t events texts) :
    acceptedTexts events = texts := by
  cases ends with
  | completed applied _ done => exact completed_texts host config caps ops applied s t done
  | unplanned earlier op _ applied failure u _ planning _ done failed =>
      rw [accepted_texts_append, completed_texts host config caps earlier applied s u done,
        accepted_texts_unplanned host config caps op u t failure planning failed, List.append_nil]
  | rejected earlier op _ applied _ before statement _ _ u _ _ _ _ restoring _ done =>
      rw [accepted_texts_append, accepted_texts_append, accepted_texts_append, accepted_texts_planning,
        accepted_texts_sent, completed_texts host config caps earlier applied s u done]
      rfl

theorem batch_ends_next (host : Host σ) (config : PlannerConfig) (caps : ServerCaps) (index : Nat) (op : Operation)
    (ops : List Operation) (compiled : Compiled) (s t u v : σ) (outcome : Except Failure (List Applied))
    (events : List Event) (texts : List String) (planned : Planned host config caps op s (.ok compiled) t)
    (accepted : Accepted host compiled.statements t u)
    (ends : BatchEnds host config caps (index + 1) ops u outcome v events texts) :
    BatchEnds host config caps index (op :: ops) s
      (outcome.map (⟨compiled, ⟨compiled.statements.map Statement.sql⟩⟩ :: ·)) v
      (planningEvents config op ++ acceptedEvents compiled.statements ++ events)
      (compiled.statements.map Statement.sql ++ texts) := by
  have longer (earlier : List Operation) : index + 1 + earlier.length = index + (op :: earlier).length := by
    rw [List.length_cons]
    omega
  cases ends with
  | completed applied _ done =>
      exact .completed (_ :: applied) v (.next op ops compiled applied s t u v planned accepted done)
  | unplanned earlier other later applied failure w _ planning divided done failed =>
      have before := Completed.next op earlier compiled applied s t u w planned accepted done
      have whole : BatchEnds host config caps index (op :: ops) s _ v _ _ :=
        .unplanned (op :: earlier) other later _ failure w v planning (congrArg (op :: ·) divided) before failed
      rw [← List.append_assoc _ (batchEvents config earlier applied)]
      exact whole
  | rejected earlier other later applied plan sent statement rest cause w x y z _ restoring divided done plannedOther
      parted acceptedSent refused takenBack =>
      have before := Completed.next op earlier compiled applied s t u w planned accepted done
      have whole : BatchEnds host config caps index (op :: ops) s _ v _ _ :=
        .rejected (op :: earlier) other later _ plan sent statement rest cause w x y z v restoring
          (congrArg (op :: ·) divided) before plannedOther parted acceptedSent refused takenBack
      rw [← longer] at whole
      rw [← List.append_assoc _ (batchEvents config earlier applied), ← List.append_assoc _ (executedTexts applied)]
      exact whole

-- The induction is on the operations that are left; what was asked and sent before them stands in front
-- of the transcript.
theorem apply_from_transcript (host : Host σ) (config : PlannerConfig) (caps : ServerCaps) (index : Nat)
    (ops : List Operation) (s : σ) (events : List Event) :
    ∃ outcome t sent texts, BatchEnds host config caps index ops s outcome t sent texts ∧
      (applyFrom host.recorded config caps index ops).run (s, events) = (outcome, (t, events ++ sent)) := by
  induction ops generalizing index s events with
  | nil =>
      refine ⟨_, s, _, _, .completed [] s (.none s), ?_⟩
      rw [batchEvents, List.zipWith_nil_left, List.flatten_nil, List.append_nil]
      rfl
  | cons op ops ih =>
      rcases apply_one_transcript host config caps index op s events with
        ⟨compiled, t, u, planned, accepted, ran⟩ | ⟨failure, t, planning, failed, ran⟩ |
        ⟨compiled, failure, t, u, sent, planned, rejected, ran⟩
      · obtain ⟨outcome, v, later, texts, ends, went⟩ := ih (index + 1) u
          (events ++ planningEvents config op ++ acceptedEvents compiled.statements)
        refine ⟨_, v, _, _, batch_ends_next host config caps index op ops compiled s t u v outcome later texts planned
          accepted ends, ?_⟩
        rw [applyFrom, session_bind_ok _ _ _ _ _ ran, ← List.append_assoc events, ← List.append_assoc events]
        cases outcome with
        | error failure => exact session_bind_error _ _ _ _ _ went
        | ok applied => exact session_bind_ok _ _ _ _ _ went
      · refine ⟨_, t, _, _, .unplanned [] op ops [] failure s t planning rfl (.none s) failed, ?_⟩
        rw [applyFrom, session_bind_error _ _ _ _ _ ran]
        rfl
      · cases rejected with
        | intro before statement rest cause v w u restoring divided accepted refused takenBack =>
            refine ⟨_, u, _, _, .rejected [] op ops [] compiled before statement rest cause s t v w u restoring rfl
              (.none s) planned divided accepted refused takenBack, ?_⟩
            rw [applyFrom, session_bind_error _ _ _ _ _ ran, List.append_assoc, Nat.zero_add]
            rfl

-- A failure that is no rejection belongs to planning, and nothing of its operation has been sent.
theorem batch_transcript (host : Host σ) (config : PlannerConfig) (caps : ServerCaps) (ops : List Operation) (s : σ) :
    ∃ outcome t events, (apply host config caps ops).run s = (outcome, t) ∧
      (apply host.recorded config caps ops).run (s, []) = (outcome, (t, events)) ∧
      BatchEnds host config caps 0 ops s outcome t events (acceptedTexts events) := by
  obtain ⟨outcome, t, events, texts, ends, ran⟩ := apply_from_transcript host config caps 0 ops s []
  refine ⟨outcome, t, events, recorded_apply host config caps ops s t outcome events ran, ran, ?_⟩
  rw [batch_texts host config caps 0 ops s t outcome events texts ends]
  exact ends

end OnlineDdl
