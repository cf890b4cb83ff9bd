import OnlineDdl.Proofs.Plan.Timeouts
import OnlineDdl.Proofs.Run.Sending
import Mathlib.Data.Finset.Card

/-! Timeouts after a run. The executor counts the timeouts that are set; in a wrapped plan that count
tells whether any of them is, so that a run which a rejection ends leaves none behind. -/

set_option autoImplicit false

namespace OnlineDdl.Timeout

variable {σ : Type}

def leftSet (isSet : Finset Parameter) (s : Statement) : Finset Parameter :=
  match s.role, Setting.ofSql? s.sql with
  | .timeoutSet, some setting => insert setting.parameter isSet
  | .timeoutReset, some setting => isSet.erase setting.parameter
  | _, _ => isSet

def stillSet (statements : List Statement) : Finset Parameter := statements.foldl leftSet ∅

-- What may follow while these timeouts are set: one that is not is set, one that is is set back to
-- its usual value, and in the end none is.
inductive Bracketed (config : PlannerConfig) : Finset Parameter → List Statement → Prop where
  | done : Bracketed config ∅ []
  | change (isSet : Finset Parameter) (s : Statement) (rest : List Statement) (ddl : s.isDdl = true)
      (later : Bracketed config isSet rest) : Bracketed config isSet (s :: rest)
  | set (isSet : Finset Parameter) (setting : Setting) (rest : List Statement)
      (unset : setting.parameter ∉ isSet) (later : Bracketed config (insert setting.parameter isSet) rest) :
      Bracketed config isSet (.session setting.sql .timeoutSet :: rest)
  | back (isSet : Finset Parameter) (parameter : Parameter) (rest : List Statement)
      (present : parameter ∈ isSet) (later : Bracketed config (isSet.erase parameter) rest) :
      Bracketed config isSet (.session (restored config parameter).sql .timeoutReset :: rest)

theorem settings_bracketed (config : PlannerConfig) (settings : List Setting) (isSet : Finset Parameter)
    (rest : List Statement) (distinct : (settings.map Setting.parameter).Nodup)
    (unset : ∀ s ∈ settings, s.parameter ∉ isSet)
    (later : Bracketed config (isSet ∪ (settings.map Setting.parameter).toFinset) rest) :
    Bracketed config isSet ((settings.map fun s => .session s.sql .timeoutSet) ++ rest) := by
  induction settings generalizing isSet with
  | nil => simpa using later
  | cons s others ih =>
      rw [List.map_cons, List.nodup_cons] at distinct
      refine .set isSet s _ (unset s List.mem_cons_self) (ih (insert s.parameter isSet) distinct.2 ?_ ?_)
      · intro other member inside
        rcases Finset.mem_insert.mp inside with same | already
        · exact distinct.1 (same ▸ List.mem_map_of_mem member)
        · exact unset other (List.mem_cons_of_mem s member) already
      · simpa [Finset.insert_union] using later

theorem restored_bracketed (config : PlannerConfig) (parameters : List Parameter) (isSet : Finset Parameter)
    (rest : List Statement) (distinct : parameters.Nodup) (present : ∀ p ∈ parameters, p ∈ isSet)
    (later : Bracketed config (isSet \ parameters.toFinset) rest) :
    Bracketed config isSet ((parameters.map fun p => .session (restored config p).sql .timeoutReset) ++ rest) := by
  induction parameters generalizing isSet with
  | nil => simpa using later
  | cons p others ih =>
      rw [List.nodup_cons] at distinct
      refine .back isSet p _ (present p List.mem_cons_self) (ih (isSet.erase p) distinct.2 ?_ ?_)
      · intro other member
        have different : other ≠ p := fun same => distinct.1 (same ▸ member)
        exact Finset.mem_erase.mpr ⟨different, present other (List.mem_cons_of_mem p member)⟩
      · rwa [List.toFinset_cons, Finset.sdiff_insert, ← Finset.erase_sdiff_comm] at later

theorem opening_distinct (config : PlannerConfig) (region : Region) :
    ((opening config region).map Setting.parameter).Nodup := by
  cases region with
  | flexible => exact List.nodup_singleton _
  | standard =>
      cases statement : config.statementTimeoutMs <;> cases lock : config.lockTimeoutMs <;>
        simp [opening, statement, lock]

def regionParameters (config : PlannerConfig) : Option Region → Finset Parameter
  | none => ∅
  | some region => ((opening config region).map Setting.parameter).toFinset

theorem opened_bracketed (config : PlannerConfig) (region : Option Region) (rest : List Statement)
    (later : Bracketed config (regionParameters config region) rest) :
    Bracketed config ∅ (openAll config region ++ rest) := by
  cases region with
  | none => exact later
  | some region =>
      rw [openAll, Option.toList_some, List.flatMap_singleton]
      refine settings_bracketed config (opening config region) ∅ rest (opening_distinct config region) ?_ ?_
      · exact fun s _ => Finset.notMem_empty s.parameter
      · rwa [Finset.empty_union]

theorem closed_bracketed (config : PlannerConfig) (region : Option Region) (rest : List Statement)
    (later : Bracketed config ∅ rest) :
    Bracketed config (regionParameters config region) (closeAll config region ++ rest) := by
  cases region with
  | none => exact later
  | some region =>
      rw [closeAll, Option.toList_some, List.flatMap_singleton, closing_opening, List.map_map]
      have parts := restored_bracketed config ((opening config region).map Setting.parameter)
        (regionParameters config (some region)) rest (opening_distinct config region)
        (fun p member => List.mem_toFinset.mpr member) (by rwa [regionParameters, Finset.sdiff_self])
      rwa [List.map_map] at parts

theorem wrap_from_bracketed (config : PlannerConfig) (current : Option Region) (plan : List Statement)
    (ddl : ∀ s ∈ plan, s.isDdl = true) :
    Bracketed config (regionParameters config current) (wrapFrom config current plan) := by
  induction plan generalizing current with
  | nil => simpa [wrapFrom] using closed_bracketed config current [] .done
  | cons s rest ih =>
      have change := ddl s List.mem_cons_self
      have later (region : Option Region) := Bracketed.change _ s _ change
        (ih region fun other member => ddl other (List.mem_cons_of_mem s member))
      rw [wrapFrom]
      split
      · exact later current
      · rw [List.append_assoc]
        exact closed_bracketed config current _ (opened_bracketed config _ _ (later _))

-- The count of the executor beside the timeouts that are set, and the values of all others.
structure Tracked (config : PlannerConfig) (isSet : Finset Parameter) (isOpen : Nat) (values : Values) : Prop where
  counted : isOpen = isSet.card
  others : ∀ parameter ∉ isSet, values parameter = usual config parameter

theorem restored_setting (config : PlannerConfig) (parameter : Parameter) :
    restored config parameter = ⟨parameter, usual config parameter⟩ := by
  cases parameter <;> rfl

theorem setting_tracked (config : PlannerConfig) (isSet : Finset Parameter) (isOpen : Nat) (values : Values)
    (setting : Setting) (tracked : Tracked config isSet isOpen values) (unset : setting.parameter ∉ isSet) :
    Tracked config (insert setting.parameter isSet) (isOpen + 1) (values.with setting) := by
  refine ⟨?_, fun parameter outside => ?_⟩
  · rw [Finset.card_insert_of_notMem unset, tracked.counted]
  · rw [Finset.mem_insert, not_or] at outside
    rw [Values.with, Function.update_of_ne outside.1]
    exact tracked.others parameter outside.2

theorem restored_tracked (config : PlannerConfig) (isSet : Finset Parameter) (isOpen : Nat) (values : Values)
    (parameter : Parameter) (tracked : Tracked config isSet isOpen values) (present : parameter ∈ isSet) :
    Tracked config (isSet.erase parameter) (isOpen - 1) (values.with (restored config parameter)) := by
  refine ⟨?_, fun other outside => ?_⟩
  · rw [Finset.card_erase_of_mem present, tracked.counted]
  · rw [restored_setting, Values.with]
    by_cases same : other = parameter
    · rw [same, Function.update_self]
    · rw [Function.update_of_ne same]
      exact tracked.others other fun inside => outside (Finset.mem_erase.mpr ⟨same, inside⟩)

theorem tracked_nothing_set (config : PlannerConfig) (isSet : Finset Parameter) (values : Values)
    (tracked : Tracked config isSet 0 values) : ¬ isSet.Nonempty ∧ values = usual config := by
  have empty : isSet = ∅ := Finset.card_eq_zero.mp tracked.counted.symm
  refine ⟨Finset.not_nonempty_iff_eq_empty.mpr empty, ?_⟩
  funext parameter
  exact tracked.others parameter (by rw [empty]; exact Finset.notMem_empty parameter)

theorem ddl_role (s : Statement) (ddl : s.isDdl = true) : s.role = .ddl := by
  simpa [Statement.isDdl] using ddl

theorem ddl_left_set (isSet : Finset Parameter) (s : Statement) (ddl : s.isDdl = true) : leftSet isSet s = isSet := by
  rw [leftSet, ddl_role s ddl]

theorem ddl_open_after (isOpen : Nat) (s : Statement) (ddl : s.isDdl = true) : openAfter isOpen s.role = isOpen := by
  rw [ddl_role s ddl]
  rfl

theorem setting_left_set (isSet : Finset Parameter) (setting : Setting) :
    leftSet isSet (.session setting.sql .timeoutSet) = insert setting.parameter isSet := by
  simp [leftSet, Statement.session, setting_read]

theorem restored_left_set (config : PlannerConfig) (isSet : Finset Parameter) (parameter : Parameter) :
    leftSet isSet (.session (restored config parameter).sql .timeoutReset) = isSet.erase parameter := by
  simp [leftSet, Statement.session, setting_read, restored_setting]

-- The induction is on what has been sent; each way to go on keeps the count.
theorem bracketed_tracked (config : PlannerConfig) (isSet : Finset Parameter) (isOpen : Nat) (values : Values)
    (before rest : List Statement) (bracketed : Bracketed config isSet (before ++ rest))
    (tracked : Tracked config isSet isOpen values) :
    Tracked config (before.foldl leftSet isSet) (openAfterAll isOpen before) (values.afterAll before) := by
  induction before generalizing isSet isOpen values with
  | nil => exact tracked
  | cons s others ih =>
      rw [List.foldl_cons, openAfterAll, List.foldl_cons, Values.afterAll, List.foldl_cons]
      cases bracketed with
      | change _ _ _ ddl later =>
          rw [ddl_left_set isSet s ddl, ddl_open_after isOpen s ddl, ddl_after values s ddl]
          exact ih isSet isOpen values later tracked
      | set _ setting _ unset later =>
          rw [setting_left_set, setting_after values setting .timeoutSet (by decide)]
          exact ih _ _ _ later (setting_tracked config isSet isOpen values setting tracked unset)
      | back _ parameter _ present later =>
          rw [restored_left_set, setting_after values _ .timeoutReset (by decide)]
          exact ih _ _ _ later (restored_tracked config isSet isOpen values parameter tracked present)

theorem wrapped_tracked (config : PlannerConfig) (plan : Plan) (ddl : ∀ s ∈ plan, s.isDdl = true)
    (before rest : List Statement) (divided : wrap config plan = before ++ rest) :
    Tracked config (stillSet before) (openAfterAll 0 before) ((usual config).afterAll before) := by
  have bracketed := wrap_from_bracketed config none plan ddl
  rw [← wrap, divided] at bracketed
  exact bracketed_tracked config ∅ 0 (usual config) before rest bracketed ⟨rfl, fun _ _ => rfl⟩

-- A host on which the timeouts of a session can be read off: accepted statements take effect, rejected
-- ones do not, and the timeouts go back to the usual values.
structure HoldsTimeouts (host : Host σ) (config : PlannerConfig) (plan : Plan) (values : σ → Values) : Prop where
  accepts : ∀ statement ∈ plan, ∀ s t, host.run statement.sql s = (.ok (), t) →
    values t = (values s).after statement
  rejects : ∀ sql s cause t, host.run sql s = (.error cause, t) → values t = values s
  goesBack : ∀ s t, host.run restoreSql s = (.ok (), t) → values t = usual config

theorem accepted_values (host : Host σ) (config : PlannerConfig) (plan : Plan) (values : σ → Values)
    (holds : HoldsTimeouts host config plan values) (statements : List Statement) (s t : σ)
    (part : ∀ statement ∈ statements, statement ∈ plan) (accepted : Accepted host statements s t) :
    values t = (values s).afterAll statements := by
  induction accepted with
  | none s => rfl
  | next statement rest s t u passed _ ih =>
      rw [ih fun other member => part other (List.mem_cons_of_mem statement member), Values.afterAll, Values.afterAll,
        List.foldl_cons, holds.accepts statement (part statement List.mem_cons_self) s t passed]

-- Where nothing is set when a statement is rejected, the session has its usual values already.
theorem wrapped_run_restores_timeouts (host : Host σ) (config : PlannerConfig) (plan : Plan) (values : σ → Values)
    (s : σ) (ddl : ∀ statement ∈ plan, statement.isDdl = true)
    (holds : HoldsTimeouts host config (wrap config plan) values) (fresh : values s = usual config) :
    (∃ t, (execute host.recorded (wrap config plan)).run (s, []) =
        (.ok ⟨(wrap config plan).map Statement.sql⟩, (t, acceptedEvents (wrap config plan))) ∧
      values t = usual config) ∨
    ∃ before statement rest cause t u v restoring, wrap config plan = before ++ statement :: rest ∧
      Accepted host before s t ∧ host.run statement.sql t = (.error cause, u) ∧
      (execute host.recorded (wrap config plan)).run (s, []) =
        (.error (.statementFailed 0 before.length statement.sql cause),
          (v, acceptedEvents before ++ .run statement.sql false :: restoring)) ∧
      if (stillSet before).Nonempty then
        ∃ accepted, restoring = [.run restoreSql accepted] ∧ (accepted = true → values v = usual config)
      else restoring = [] ∧ values v = usual config := by
  rcases run_plan_transcript host 0 (wrap config plan) s [] with ⟨t, accepted, ran⟩ | ⟨failure, v, sent, rejected, ran⟩
  · refine .inl ⟨t, ran, ?_⟩
    rw [accepted_values host config _ values holds _ s t (fun _ member => member) accepted, fresh]
    exact (wrap_from_due config none plan ddl).2
  · cases rejected with
    | intro before statement rest cause t u _ restoring divided accepted refused takenBack =>
        rw [Nat.zero_add] at ran
        refine .inr ⟨before, statement, rest, cause, t, u, v, restoring, divided, accepted, refused, ran, ?_⟩
        have tracked := wrapped_tracked config plan ddl before (statement :: rest) divided
        have reached : values u = (usual config).afterAll before := by
          rw [holds.rejects statement.sql t cause u refused, ← fresh]
          refine accepted_values host config _ values holds before s t (fun other member => ?_) accepted
          rw [divided]
          exact List.mem_append_left _ member
        cases takenBack with
        | unset closed =>
            rw [closed] at tracked
            obtain ⟨nothing, usually⟩ := tracked_nothing_set config _ _ tracked
            rw [if_neg nothing]
            exact ⟨rfl, reached.trans usually⟩
        | sent _ answer stillOpen answered =>
            rw [tracked.counted] at stillOpen
            rw [if_pos (Finset.card_pos.mp stillOpen)]
            refine ⟨answer.toBool, rfl, fun passed => ?_⟩
            cases answer with
            | error refusal => cases passed
            | ok => exact holds.goesBack u v answered

def sessionHost (config : PlannerConfig) (refusal : Nat → String → Option String) : Host (Nat × Values) where
  loadCatalog _ := pure .empty
  estimateRows _ := pure .unknown
  run sql := fun (calls, values) =>
    match refusal calls sql with
    | some cause => (.error cause, (calls + 1, values))
    | none =>
      (.ok (),
        (calls + 1, if sql = restoreSql then usual config else (Setting.ofSql? sql).elim values values.with))

theorem session_host_holds (config : PlannerConfig) (refusal : Nat → String → Option String) (plan : Plan)
    (plain : ∀ s ∈ plan, s.sql ≠ restoreSql ∧ (s.isDdl = true → Setting.ofSql? s.sql = none)) :
    HoldsTimeouts (sessionHost config refusal) config plan Prod.snd := by
  refine ⟨fun statement member s t accepted => ?_, fun sql s cause t rejected => ?_, fun s t accepted => ?_⟩
  · obtain ⟨other, inert⟩ := plain statement member
    rw [sessionHost] at accepted
    dsimp only at accepted
    split at accepted
    · cases accepted
    · rw [if_neg other] at accepted
      rw [← (Prod.mk.inj accepted).2, Values.after]
      split
      · next ddl => rw [inert ddl]; rfl
      · rfl
  · rw [sessionHost] at rejected
    dsimp only at rejected
    split at rejected
    · rw [← (Prod.mk.inj rejected).2]
    · cases rejected
  · rw [sessionHost] at accepted
    dsimp only at accepted
    split at accepted
    · cases accepted
    · rw [← (Prod.mk.inj accepted).2, if_pos rfl]

theorem rejected_reset_restores_timeouts :
    let config : PlannerConfig := ⟨some 2000, some 30000, false, 0, false, .never, ⟨"1min", "0ms"⟩, none⟩
    let plan := [Statement.ddl "ADD CHECK;" .wrapped, Statement.ddl "VALIDATE;" .flexibleWrapped]
    let host := sessionHost config fun calls _ => if calls = 4 then some "lock timeout" else none
    (∀ s ∈ plan, s.isDdl = true) ∧ HoldsTimeouts host config (wrap config plan) Prod.snd ∧
      ∃ v, (execute host.recorded (wrap config plan)).run ((0, usual config), []) =
        (.error (.statementFailed 0 4 "SET lock_timeout TO '0ms';" "lock timeout"),
          (v, acceptedEvents ((wrap config plan).take 4) ++
            [.run "SET lock_timeout TO '0ms';" false, .run restoreSql true])) ∧ v.2 = usual config := by
  intro config plan host
  have ddl : ∀ s ∈ plan, s.isDdl = true := by decide
  have holds : HoldsTimeouts host config (wrap config plan) Prod.snd :=
    session_host_holds config _ (wrap config plan) (by decide +kernel)
  refine ⟨ddl, holds, ?_⟩
  rcases wrapped_run_restores_timeouts host config plan Prod.snd (0, usual config) ddl holds rfl with
    ⟨t, ran, -⟩ | ⟨before, statement, rest, cause, t, u, v, restoring, divided, accepted, refused, ran, left⟩
  · cases ran
  · have failed : Failure.statementFailed 0 4 "SET lock_timeout TO '0ms';" "lock timeout" =
        .statementFailed 0 before.length statement.sql cause := Except.error.inj (congrArg Prod.fst ran)
    obtain ⟨-, fourth, text, reason⟩ := Failure.statementFailed.inj failed
    have sent : before = (wrap config plan).take 4 := by rw [divided, List.take_left' fourth.symm]
    have isSet : (stillSet before).Nonempty := by
      rw [sent]
      decide +kernel
    rw [if_pos isSet] at left
    obtain ⟨answer, rfl, usually⟩ := left
    have events : [Event.run restoreSql true] = [.run restoreSql answer] := by
      have whole : _ = acceptedEvents before ++ [.run statement.sql false, .run restoreSql answer] :=
        congrArg (fun outcome => outcome.2.2) ran
      rw [sent] at whole
      exact congrArg (List.drop 5) whole
    obtain ⟨-, taken⟩ := Event.run.inj (List.cons.inj events).1
    rw [← fourth, ← text, ← reason, sent, ← taken] at ran
    exact ⟨v, ran, usually taken.symm⟩

end OnlineDdl.Timeout
