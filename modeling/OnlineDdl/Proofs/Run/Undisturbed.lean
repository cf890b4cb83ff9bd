import OnlineDdl.Proofs.Outcome
import OnlineDdl.Proofs.Plan.Locality
import OnlineDdl.Proofs.Run.Session
import OnlineDdl.Run.Connection

/-! Operations on different tables of a server where the statements for one table have no bearing on
what is known of another: compiling all of them beforehand comes to the same as compiling each of them
right before it is run. -/

set_option autoImplicit false

namespace OnlineDdl

variable {σ : Type}

namespace Connection

def told (c : Connection σ) : List String → σ → List (Option TableEntry)
  | [], _ => []
  | table :: rest, s =>
    ((c.loadTable table).run s).1.toOption :: told c rest ((c.loadTable table).run s).2

def counted (c : Connection σ) (table : String) (s : σ) : Option RowEstimate :=
  ((c.estimateRows table).run s).1.toOption

end Connection

def Sends (op : Operation) (sql : String) : Prop :=
  ∃ config caps catalog rows compiled, compileWith op config caps catalog rows = .ok compiled ∧
    ∃ statement ∈ compiled.statements, statement.sql = sql

-- Every question about the tables of the operations is answered and every statement accepted; questions
-- and the statements for other tables leave the answers as they are.
structure Undisturbed (c : Connection σ) (ops : List Operation) : Prop where
  answered : ∀ op ∈ ops, ∀ s, ∃ entry t, (c.loadTable op.table).run s = (.ok entry, t)
  estimated : ∀ op ∈ ops, ∀ s, ∃ rows t, (c.estimateRows op.table).run s = (.ok rows, t)
  accepted : ∀ op ∈ ops, ∀ sql, Sends op sql → ∀ s, ∃ t, c.run sql s = (.ok (), t)
  loadCounts : ∀ op ∈ ops, ∀ table s, c.counted table ((c.loadTable op.table).run s).2 = c.counted table s
  estimateTells : ∀ op ∈ ops, ∀ tables s, c.told tables ((c.estimateRows op.table).run s).2 = c.told tables s
  estimateCounts : ∀ op ∈ ops, ∀ table s, c.counted table ((c.estimateRows op.table).run s).2 = c.counted table s
  sentTells : ∀ op ∈ ops, ∀ sql, Sends op sql → ∀ tables, op.table ∉ tables → ∀ s,
    c.told tables (c.run sql s).2 = c.told tables s
  sentCounts : ∀ op ∈ ops, ∀ sql, Sends op sql → ∀ table, table ≠ op.table → ∀ s,
    c.counted table (c.run sql s).2 = c.counted table s

theorem undisturbed_member (c : Connection σ) (ops part : List Operation) (undisturbed : Undisturbed c ops)
    (among : ∀ op ∈ part, op ∈ ops) : Undisturbed c part where
  answered op member := undisturbed.answered op (among op member)
  estimated op member := undisturbed.estimated op (among op member)
  accepted op member := undisturbed.accepted op (among op member)
  loadCounts op member := undisturbed.loadCounts op (among op member)
  estimateTells op member := undisturbed.estimateTells op (among op member)
  estimateCounts op member := undisturbed.estimateCounts op (among op member)
  sentTells op member := undisturbed.sentTells op (among op member)
  sentCounts op member := undisturbed.sentCounts op (among op member)

def foreseen (config : PlannerConfig) (caps : ServerCaps) (catalog : Catalog) (count : String → Option RowEstimate)
    (op : Operation) : Except Failure Compiled :=
  compileWith op config (config.serverCaps caps) catalog
    (if needsRowEstimate op config then (count op.table).getD .unknown else .unknown)

variable (c : Connection σ) (config : PlannerConfig) (caps : ServerCaps)

theorem compile_foreseen (op : Operation) (catalog : Catalog) (s : σ) (undisturbed : Undisturbed c [op]) :
    ∃ t, (compile config caps catalog c.estimateRows op).run s =
        (foreseen config caps catalog (c.counted · s) op, t) ∧
      (∀ tables, c.told tables t = c.told tables s) ∧ ∀ table, c.counted table t = c.counted table s := by
  have own : op ∈ [op] := List.mem_cons_self
  rw [foreseen]
  by_cases needed : needsRowEstimate op config = true
  · obtain ⟨rows, t, asked⟩ := undisturbed.estimated op own s
    have known : c.counted op.table s = some rows := by rw [Connection.counted, asked]; rfl
    have tells := undisturbed.estimateTells op own
    have counts := undisturbed.estimateCounts op own
    refine ⟨t, ?_, fun tables => ?_, fun table => ?_⟩
    · rw [if_pos needed, known]
      exact compile_estimated config caps catalog c.estimateRows op s t rows (by rw [Estimated, if_pos needed, asked])
    · rw [← tells tables s, asked]
    · rw [← counts table s, asked]
  · refine ⟨s, ?_, fun _ => rfl, fun _ => rfl⟩
    rw [if_neg needed]
    exact compile_estimated config caps catalog c.estimateRows op s s .unknown
      (by rw [Estimated, if_neg needed]; exact ⟨rfl, rfl⟩)

-- All operations are compiled before anything is sent.
theorem compile_all_foreseen (ops : List Operation) (catalog : Catalog) (s : σ) (undisturbed : Undisturbed c ops) :
    ∃ t, (compileAll config caps catalog c.estimateRows ops).run s =
      (ops.mapM (foreseen config caps catalog (c.counted · s)), t) := by
  induction ops generalizing s with
  | nil => exact ⟨s, rfl⟩
  | cons op rest ih =>
      obtain ⟨t, compiling, -, counts⟩ := compile_foreseen c config caps op catalog s
        (undisturbed_member c _ _ undisturbed fun _ member => List.mem_singleton.mp member ▸ List.mem_cons_self)
      obtain ⟨u, others⟩ := ih t (undisturbed_member c _ _ undisturbed fun _ => List.mem_cons_of_mem _)
      have same : (fun table => c.counted table t) = fun table => c.counted table s := funext counts
      rw [same] at others
      rw [map_all_next, compileAll]
      cases outcome : foreseen config caps catalog (c.counted · s) op with
      | error failure =>
          rw [outcome] at compiling
          exact ⟨t, session_bind_error _ _ _ _ _ compiling⟩
      | ok compiled =>
          rw [outcome] at compiling
          rw [session_bind_ok _ _ _ _ _ compiling]
          refine ⟨u, ?_⟩
          cases rested : rest.mapM (foreseen config caps catalog (c.counted · s)) with
          | error failure =>
              rw [rested] at others
              exact session_bind_error _ _ _ _ _ others
          | ok compileds =>
              rw [rested] at others
              exact session_bind_ok _ _ _ _ _ others

theorem table_inserted (catalog : Catalog) (table : String) (entry : TableEntry) (name : String) :
    (catalog.insert table entry).table? name = if name = table then some entry else catalog.table? name :=
  Entries.lookup_put table entry catalog.tables name

theorem extend_catalog_told (tables : List String) (catalog : Catalog) (s : σ) (distinct : tables.Nodup)
    (absent : ∀ table ∈ tables, catalog.table? table = none)
    (answered : ∀ table ∈ tables, ∀ s, ∃ entry t, (c.loadTable table).run s = (.ok entry, t))
    (counts : ∀ table ∈ tables, ∀ other s, c.counted other ((c.loadTable table).run s).2 = c.counted other s) :
    ∃ extended t, (c.extendCatalog catalog tables).run s = (.ok extended, t) ∧
      c.told tables s = tables.map extended.table? ∧
      (∀ table, table ∉ tables → extended.table? table = catalog.table? table) ∧
      ∀ other, c.counted other t = c.counted other s := by
  induction tables generalizing catalog s with
  | nil => exact ⟨catalog, s, rfl, rfl, fun _ _ => rfl, fun _ => rfl⟩
  | cons table rest ih =>
      obtain ⟨fresh, others⟩ := List.nodup_cons.mp distinct
      obtain ⟨entry, t, loaded⟩ := answered table List.mem_cons_self s
      have unknown : ∀ other ∈ rest, (catalog.insert table entry).table? other = none := by
        intro other member
        rw [table_inserted, if_neg fun same : other = table => fresh (same ▸ member)]
        exact absent other (List.mem_cons_of_mem _ member)
      obtain ⟨extended, u, ran, tells, kept, counted⟩ := ih (catalog.insert table entry) t others unknown
        (fun other member => answered other (List.mem_cons_of_mem _ member))
        (fun other member => counts other (List.mem_cons_of_mem _ member))
      refine ⟨extended, u, ?_, ?_, fun other outside => ?_, fun other => ?_⟩
      · rw [Connection.extendCatalog, absent table List.mem_cons_self]
        exact (session_bind_ok _ _ _ _ _ loaded).trans ran
      · rw [Connection.told, loaded, tells, List.map_cons, kept table fresh, table_inserted, if_pos rfl]
        rfl
      · rw [List.mem_cons, not_or] at outside
        rw [kept other outside.2, table_inserted, if_neg outside.1]
      · have same := counts table List.mem_cons_self other s
        rw [loaded] at same
        exact (counted other).trans same

theorem distinct_tables_all (ops : List Operation) (distinct : (ops.map Operation.table).Nodup) :
    distinctTables ops = ops.map Operation.table := by
  suffices appended : ∀ seen : List String, (seen ++ ops.map Operation.table).Nodup →
      ops.foldl (fun seen op => if seen.contains op.table then seen else seen ++ [op.table]) seen =
        seen ++ ops.map Operation.table by
    exact appended [] distinct
  induction ops with
  | nil => exact fun seen _ => (List.append_nil seen).symm
  | cons op rest ih =>
      intro seen fresh
      rw [List.map_cons, List.append_cons] at fresh
      have absent : seen.contains op.table = false := by
        have front := (List.nodup_append.mp (List.nodup_append.mp fresh).1).2.2
        simpa using fun member => front _ member _ List.mem_cons_self rfl
      rw [List.foldl_cons, if_neg (by rw [absent]; decide), ih (List.nodup_cons.mp distinct).2 _ fresh,
        List.append_assoc]
      rfl

theorem run_from_kept (host : Host σ) (operation position isOpen : Nat) (plan : List Statement) (kept : σ → Prop)
    (accepts : ∀ statement ∈ plan, ∀ u, kept u → ∃ t, host.run statement.sql u = (.ok (), t) ∧ kept t) (s : σ)
    (starts : kept s) :
    ∃ t, (runFrom host operation position isOpen plan).run s = (.ok (plan.map Statement.sql), t) ∧ kept t := by
  induction plan generalizing position isOpen s with
  | nil => exact ⟨s, rfl, starts⟩
  | cons statement rest ih =>
      obtain ⟨t, accepted, still⟩ := accepts statement List.mem_cons_self s starts
      obtain ⟨u, ran, ends⟩ := ih (position + 1) (openAfter isOpen statement.role)
        (fun other member => accepts other (List.mem_cons_of_mem _ member)) t still
      have answered : (liftM (host.run statement.sql) : Session σ _).run s = (.ok (.ok ()), t) := by
        change (Except.ok (host.run statement.sql s).1, (host.run statement.sql s).2) = _
        rw [accepted]
      refine ⟨u, ?_, ends⟩
      rw [runFrom, session_bind_ok _ _ _ _ _ answered]
      exact session_bind_ok _ _ _ _ _ ran

theorem run_plan_kept (host : Host σ) (operation : Nat) (plan : Plan) (kept : σ → Prop)
    (accepts : ∀ statement ∈ plan, ∀ u, kept u → ∃ t, host.run statement.sql u = (.ok (), t) ∧ kept t) (s : σ)
    (starts : kept s) :
    ∃ t, (runPlan host operation plan).run s = (.ok ⟨plan.map Statement.sql⟩, t) ∧ kept t := by
  obtain ⟨t, ran, ends⟩ := run_from_kept host operation 0 0 plan kept accepts s starts
  exact ⟨t, session_bind_ok _ _ _ _ _ ran, ends⟩

theorem load_one_told (table : String) (rest : List String) (s t : σ) (entry : TableEntry)
    (loaded : (c.loadTable table).run s = (.ok entry, t)) :
    (c.loadCatalog [table]).run s = (.ok (Catalog.empty.insert table entry), t) ∧
      c.told (table :: rest) s = some entry :: c.told rest t := by
  refine ⟨session_bind_ok _ _ _ _ _ loaded, ?_⟩
  rw [Connection.told, loaded]
  rfl

def asRun (compiled : Compiled) : Applied := ⟨compiled, ⟨compiled.statements.map Statement.sql⟩⟩

theorem sent_undisturbed (op : Operation) (rest : List Operation) (count : String → Option RowEstimate)
    (known : List (Option TableEntry)) (undisturbed : Undisturbed c [op])
    (other : op.table ∉ rest.map Operation.table) (sql : String) (sends : Sends op sql) (u : σ)
    (tells : c.told (rest.map Operation.table) u = known) (counts : ∀ op ∈ rest, c.counted op.table u = count op.table) :
    ∃ t, c.run sql u = (.ok (), t) ∧ c.told (rest.map Operation.table) t = known ∧
      ∀ op ∈ rest, c.counted op.table t = count op.table := by
  obtain ⟨t, accepted⟩ := undisturbed.accepted op List.mem_cons_self sql sends u
  have told := undisturbed.sentTells op List.mem_cons_self sql sends _ other u
  have counted := undisturbed.sentCounts op List.mem_cons_self sql sends
  refine ⟨t, accepted, ?_, fun later member => ?_⟩
  · rw [accepted] at told
    exact told.trans tells
  · have same := counted later.table (fun same => other (same ▸ List.mem_map_of_mem member)) u
    rw [accepted] at same
    exact same.trans (counts later member)

theorem foreseen_local (op : Operation) (catalog other : Catalog) (count counted : String → Option RowEstimate)
    (same : catalog.table? op.table = other.table? op.table) (alike : count op.table = counted op.table) :
    foreseen config caps catalog count op = foreseen config caps other counted op := by
  rw [foreseen, foreseen, alike, compile_with_local op config _ catalog other _ same]

theorem apply_from_foreseen (ops : List Operation) (catalog : Catalog) (count : String → Option RowEstimate) (index : Nat)
    (s : σ) (undisturbed : Undisturbed c ops) (distinct : (ops.map Operation.table).Nodup)
    (tells : c.told (ops.map Operation.table) s = ops.map fun op => catalog.table? op.table)
    (counts : ∀ op ∈ ops, c.counted op.table s = count op.table) :
    ∃ t, (applyFrom c.host config caps index ops).run s =
      ((ops.mapM (foreseen config caps catalog count)).map (·.map asRun), t) := by
  induction ops generalizing index s with
  | nil => exact ⟨s, rfl⟩
  | cons op rest ih =>
      obtain ⟨other, distinctRest⟩ := List.nodup_cons.mp distinct
      have single := undisturbed_member c _ [op] undisturbed
        fun _ member => List.mem_singleton.mp member ▸ List.mem_cons_self
      have remaining := undisturbed_member c _ rest undisturbed fun _ => List.mem_cons_of_mem _
      obtain ⟨entry, t, loaded⟩ := undisturbed.answered op List.mem_cons_self s
      have loadCounts (table : String) : c.counted table t = c.counted table s := by
        rw [← undisturbed.loadCounts op List.mem_cons_self table s, loaded]
      obtain ⟨loads, front⟩ := load_one_told c op.table (rest.map Operation.table) s t entry loaded
      rw [List.map_cons, List.map_cons, front] at tells
      obtain ⟨own, tellsRest⟩ := List.cons.inj tells
      obtain ⟨u, compiling, told, counted⟩ :=
        compile_foreseen c config caps op (Catalog.empty.insert op.table entry) t single
      rw [foreseen_local config caps op _ catalog _ count (by rw [table_inserted, if_pos rfl, own])
        ((loadCounts op.table).trans (counts op List.mem_cons_self))] at compiling
      rw [map_all_next, applyFrom, applyOne]
      cases outcome : foreseen config caps catalog count op with
      | error failure =>
          rw [outcome] at compiling
          exact ⟨u, session_bind_error _ _ _ _ _
            ((session_bind_ok _ _ _ _ _ loads).trans (session_bind_error _ _ _ _ _ compiling))⟩
      | ok compiled =>
          rw [outcome] at compiling
          obtain ⟨v, ran, tellsLater, countsLater⟩ := run_plan_kept c.host index compiled.statements _
            (fun statement member => fun w kept => sent_undisturbed c op rest count _ single other statement.sql
              ⟨_, _, _, _, compiled, outcome, statement, member, rfl⟩ w kept.1 kept.2) u
            ⟨(told _).trans tellsRest, fun later member => (counted _).trans
              ((loadCounts _).trans (counts later (List.mem_cons_of_mem _ member)))⟩
          obtain ⟨w, others⟩ := ih (index + 1) v remaining distinctRest tellsLater countsLater
          have done : (applyOne c.host config caps index op).run s = (.ok (asRun compiled), v) := by
            rw [applyOne]
            exact (session_bind_ok _ _ _ _ _ loads).trans ((session_bind_ok _ _ _ _ _ compiling).trans
              (session_bind_ok _ _ _ _ _ ran))
          refine ⟨w, (session_bind_ok _ _ _ _ _ done).trans ?_⟩
          cases rested : rest.mapM (foreseen config caps catalog count) with
          | error failure =>
              rw [rested] at others
              exact session_bind_error _ _ _ _ _ others
          | ok compileds =>
              rw [rested] at others
              exact session_bind_ok _ _ _ _ _ others

theorem planned_as_applied (ops : List Operation) (s : σ) (undisturbed : Undisturbed c ops)
    (distinct : (ops.map Operation.table).Nodup) :
    ∃ outcome : Except Failure (List Compiled),
      (∃ t, (c.loadCatalog (distinctTables ops) >>= fun catalog =>
        compileAll config caps catalog c.estimateRows ops).run s = (outcome, t)) ∧
      ∃ t, (apply c.host config caps ops).run s = (outcome.map (·.map asRun), t) := by
  have among (table : String) (member : table ∈ ops.map Operation.table) : ∃ op ∈ ops, op.table = table :=
    List.mem_map.mp member
  obtain ⟨catalog, t, loads, tells, -, counts⟩ := extend_catalog_told c (ops.map Operation.table) .empty s distinct
    (fun _ _ => rfl)
    (fun table member => by
      obtain ⟨op, inside, rfl⟩ := among table member
      exact undisturbed.answered op inside)
    (fun table member => by
      obtain ⟨op, inside, rfl⟩ := among table member
      exact undisturbed.loadCounts op inside)
  obtain ⟨u, compiling⟩ := compile_all_foreseen c config caps ops catalog t undisturbed
  have same : (fun table => c.counted table t) = fun table => c.counted table s := funext counts
  rw [same] at compiling
  refine ⟨_, ⟨u, ?_⟩, apply_from_foreseen c config caps ops catalog (c.counted · s) 0 s undisturbed distinct ?_
    fun _ _ => rfl⟩
  · rw [distinct_tables_all ops distinct]
    exact (session_bind_ok _ _ _ _ _ loads).trans compiling
  · rw [tells, List.map_map]
    rfl

end OnlineDdl
