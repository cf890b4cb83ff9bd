import OnlineDdl.Plan.Timeout
import Mathlib.Data.List.Basic
import Mathlib.Logic.Function.Basic

/-! The timeouts that are in force while a plan runs. A session reads each setting as it comes; in a
wrapped plan every statement meets the values that its class calls for, and the session ends as it
began. -/

set_option autoImplicit false

namespace OnlineDdl.Timeout

abbrev Values := Parameter → String

-- The value is what stands between the outer quotes, whatever it contains.
def valueIn? (sql : String) (parameter : Parameter) : Option String :=
  (("SET " ++ parameter.word ++ " TO '").toList.isPrefixOf? sql.toList).bind fun rest =>
    ("';".toList.isSuffixOf? rest).map String.ofList

def Setting.ofSql? (sql : String) : Option Setting :=
  [Parameter.statementTimeout, .lockTimeout].findSome? fun parameter =>
    (valueIn? sql parameter).map fun value => ⟨parameter, value⟩

def Values.with (values : Values) (s : Setting) : Values :=
  Function.update values s.parameter s.value

-- A setting takes effect at once, and a schema change leaves the timeouts alone.
def Values.after (values : Values) (s : Statement) : Values :=
  if s.isDdl then values else (Setting.ofSql? s.sql).elim values values.with

def Values.afterAll (values : Values) (statements : List Statement) : Values :=
  statements.foldl Values.after values

def usual (config : PlannerConfig) : Values
  | .statementTimeout => config.sessionDefaults.statementTimeout
  | .lockTimeout => config.sessionDefaults.lockTimeout

def configured (milliseconds : Option UInt64) (otherwise : String) : String :=
  match milliseconds with
  | some n => toString n.toNat ++ "ms"
  | none => otherwise

def due (config : PlannerConfig) : TimeoutClass → Values
  | .wrapped, .statementTimeout => configured config.statementTimeoutMs (usual config .statementTimeout)
  | .wrapped, .lockTimeout => configured config.lockTimeoutMs (usual config .lockTimeout)
  | .flexibleWrapped, .statementTimeout =>
    if config.flexibleStatementTimeout then
      configured (some config.flexibleStatementTimeoutMs) (usual config .statementTimeout)
    else usual config .statementTimeout
  | .flexibleWrapped, .lockTimeout => usual config .lockTimeout
  | .unwrapped, parameter => usual config parameter

theorem value_in_iff (sql value : String) (parameter : Parameter) :
    valueIn? sql parameter = some value ↔ sql = (Setting.mk parameter value).sql := by
  rw [← String.toList_inj, Setting.sql, valueIn?, Option.bind_eq_some_iff]
  simp only [Option.map_eq_some_iff, List.isPrefixOf?_eq_some_iff_append_eq,
    List.isSuffixOf?_eq_some_iff_append_eq, String.toList_append]
  constructor
  · rintro ⟨rest, opens, body, closes, rfl⟩
    rw [← opens, ← closes, String.toList_ofList]
    simp
  · intro same
    exact ⟨value.toList ++ "';".toList, by rw [same]; simp, value.toList, rfl, String.ofList_toList⟩

theorem setting_read (s : Setting) : Setting.ofSql? s.sql = some s := by
  obtain ⟨parameter, value⟩ := s
  have found : valueIn? (Setting.mk parameter value).sql parameter = some value :=
    (value_in_iff _ value parameter).mpr rfl
  cases parameter with
  | statementTimeout => simp [Setting.ofSql?, found]
  | lockTimeout =>
      have other : valueIn? (Setting.mk .lockTimeout value).sql .statementTimeout = none := by
        rw [Option.eq_none_iff_forall_ne_some]
        intro read same
        have clash := congrArg String.toList ((value_in_iff _ read _).mp same)
        simp [Setting.sql, Parameter.word] at clash
      simp [Setting.ofSql?, found, other]

theorem of_sql_iff (sql : String) (s : Setting) : Setting.ofSql? sql = some s ↔ sql = s.sql := by
  constructor
  · intro read
    obtain ⟨parameter, -, found⟩ := List.exists_of_findSome?_eq_some read
    obtain ⟨value, inside, rfl⟩ := Option.map_eq_some_iff.mp found
    exact (value_in_iff sql value parameter).mp inside
  · rintro rfl
    exact setting_read s

theorem closing_opening (config : PlannerConfig) (region : Region) :
    closing config region = (opening config region).map fun s => restored config s.parameter := by
  cases region with
  | standard =>
      rw [closing, opening]
      cases config.statementTimeoutMs <;> cases config.lockTimeoutMs <;> rfl
  | flexible => rfl

def inForce (config : PlannerConfig) (region : Option Region) : Values :=
  (region.toList.flatMap (opening config)).foldl Values.with (usual config)

theorem ddl_after (values : Values) (s : Statement) (ddl : s.isDdl = true) : values.after s = values := by
  rw [Values.after, if_pos ddl]

theorem after_all_append (values : Values) (a b : List Statement) :
    values.afterAll (a ++ b) = (values.afterAll a).afterAll b :=
  List.foldl_append

theorem setting_after (values : Values) (s : Setting) (role : StatementRole) (other : role ≠ .ddl) :
    values.after (.session s.sql role) = values.with s := by
  simp [Values.after, Statement.isDdl, Statement.session, other, setting_read]

theorem settings_after (values : Values) (settings : List Setting) (role : StatementRole) (other : role ≠ .ddl) :
    values.afterAll (settings.map fun s => .session s.sql role) = settings.foldl Values.with values := by
  induction settings generalizing values with
  | nil => rfl
  | cons s rest ih =>
      rw [List.map_cons, Values.afterAll, List.foldl_cons, setting_after values s role other]
      exact ih (values.with s)

theorem region_opened (config : PlannerConfig) (region : Option Region) :
    (usual config).afterAll (openAll config region) = inForce config region :=
  settings_after _ _ .timeoutSet (by decide)

theorem region_closed (config : PlannerConfig) (region : Option Region) :
    (inForce config region).afterAll (closeAll config region) = usual config := by
  rw [closeAll, settings_after _ _ .timeoutReset (by decide)]
  funext parameter
  cases region with
  | none => rfl
  | some region =>
      cases region with
      | standard =>
          cases statement : config.statementTimeoutMs <;> cases lock : config.lockTimeoutMs <;> cases parameter <;>
            simp [inForce, opening, closing, restored, statement, lock, Values.with, usual]
      | flexible =>
          cases parameter <;> simp [inForce, opening, closing, restored, Values.with, usual]

theorem region_due (config : PlannerConfig) (s : Statement) (ddl : s.isDdl = true) :
    inForce config (regionOf config s) = due config s.timeout := by
  funext parameter
  rw [regionOf, if_pos ddl]
  cases s.timeout with
  | wrapped =>
      cases statement : config.statementTimeoutMs <;> cases lock : config.lockTimeoutMs <;> cases parameter <;>
        simp [inForce, opening, statement, lock, Values.with, usual, due, configured, millis]
  | flexibleWrapped =>
      cases flexible : config.flexibleStatementTimeout <;> cases parameter <;>
        simp [inForce, opening, flexible, Values.with, usual, due, configured, millis]
  | unwrapped => cases parameter <;> rfl

def EachDue (config : PlannerConfig) (values : Values) : List Statement → Prop
  | [] => True
  | s :: rest => (s.isDdl = true → values = due config s.timeout) ∧ EachDue config (values.after s) rest

theorem each_due_append (config : PlannerConfig) (values : Values) (a b : List Statement) :
    EachDue config values (a ++ b) ↔ EachDue config values a ∧ EachDue config (values.afterAll a) b := by
  induction a generalizing values with
  | nil => exact (iff_of_eq (true_and _)).symm
  | cons s rest ih => rw [List.cons_append, EachDue, ih, EachDue, and_assoc]; rfl

theorem each_due_settings (config : PlannerConfig) (values : Values) (settings : List Setting)
    (role : StatementRole) (other : role ≠ .ddl) :
    EachDue config values (settings.map fun s => .session s.sql role) := by
  induction settings generalizing values with
  | nil => trivial
  | cons s rest ih =>
      refine ⟨fun ddl => ?_, ih _⟩
      simp [Statement.isDdl, Statement.session, other] at ddl

theorem each_due_met (config : PlannerConfig) (values : Values) (before : List Statement) (s : Statement)
    (rest : List Statement) (met : EachDue config values (before ++ s :: rest)) (ddl : s.isDdl = true) :
    values.afterAll before = due config s.timeout :=
  ((each_due_append config values before (s :: rest)).mp met).2.1 ddl

-- Between any two statements of the plan the session is in the region of the one before.
theorem wrap_from_due (config : PlannerConfig) (current : Option Region) (plan : List Statement)
    (ddl : ∀ s ∈ plan, s.isDdl = true) :
    EachDue config (inForce config current) (wrapFrom config current plan) ∧
      (inForce config current).afterAll (wrapFrom config current plan) = usual config := by
  induction plan generalizing current with
  | nil => exact ⟨each_due_settings config _ _ .timeoutReset (by decide), region_closed config current⟩
  | cons s rest ih =>
      have change := ddl s List.mem_cons_self
      have later (region : Option Region) := ih region fun other member => ddl other (List.mem_cons_of_mem s member)
      have met := region_due config s change
      by_cases same : regionOf config s = current
      · rw [wrapFrom, if_pos same]
        rw [same] at met
        refine ⟨⟨fun _ => met, ?_⟩, ?_⟩
        · rw [ddl_after _ s change]
          exact (later current).1
        · rw [Values.afterAll, List.foldl_cons, ddl_after _ s change]
          exact (later current).2
      · have entered : (inForce config current).afterAll
            (closeAll config current ++ openAll config (regionOf config s)) = inForce config (regionOf config s) := by
          rw [after_all_append, region_closed, region_opened]
        have quiet : EachDue config (inForce config current)
            (closeAll config current ++ openAll config (regionOf config s)) :=
          (each_due_append _ _ _ _).mpr ⟨each_due_settings config _ _ .timeoutReset (by decide),
            each_due_settings config _ _ .timeoutSet (by decide)⟩
        rw [wrapFrom, if_neg same]
        refine ⟨(each_due_append _ _ _ _).mpr ⟨quiet, ?_⟩, ?_⟩
        · rw [entered]
          refine ⟨fun _ => met, ?_⟩
          rw [ddl_after _ s change]
          exact (later _).1
        · rw [after_all_append, entered, Values.afterAll, List.foldl_cons, ddl_after _ s change]
          exact (later _).2

theorem settings_filtered (settings : List Setting) (role : StatementRole) (other : role ≠ .ddl) :
    (settings.map fun s => Statement.session s.sql role).filter Statement.isDdl = [] := by
  simp [List.filter_eq_nil_iff, Statement.isDdl, Statement.session, other]

theorem wrap_from_filtered (config : PlannerConfig) (current : Option Region) (plan : List Statement) :
    (wrapFrom config current plan).filter Statement.isDdl = plan.filter Statement.isDdl := by
  have closed (region : Option Region) := settings_filtered (region.toList.flatMap (closing config)) .timeoutReset
    (by decide)
  have opened (region : Option Region) := settings_filtered (region.toList.flatMap (opening config)) .timeoutSet
    (by decide)
  induction plan generalizing current with
  | nil => exact closed current
  | cons s rest ih =>
      rw [wrapFrom]
      split
      · rw [List.filter_cons, List.filter_cons, ih]
      · rw [List.filter_append, List.filter_append, closeAll, closed, openAll, opened, List.filter_cons,
          List.filter_cons, ih]
        rfl

theorem wrap_filtered (config : PlannerConfig) (plan : Plan) (ddl : ∀ s ∈ plan, s.isDdl = true) :
    (wrap config plan).filter Statement.isDdl = plan := by
  rw [wrap, wrap_from_filtered]
  exact List.filter_eq_self.mpr ddl

theorem wrapped_plan_meets_timeouts (config : PlannerConfig) (plan : Plan) (ddl : ∀ s ∈ plan, s.isDdl = true) :
    (wrap config plan).filter Statement.isDdl = plan ∧
      (∀ before s rest, wrap config plan = before ++ s :: rest → s.isDdl = true →
        (usual config).afterAll before = due config s.timeout) ∧
      (usual config).afterAll (wrap config plan) = usual config := by
  obtain ⟨met, ends⟩ := wrap_from_due config none plan ddl
  refine ⟨wrap_filtered config plan ddl, fun before s rest divided change => ?_, ends⟩
  rw [← wrap, divided] at met
  exact each_due_met config _ before s rest met change

theorem validation_meets_timeouts :
    let config : PlannerConfig := ⟨some 2000, some 30000, true, 600000, false, .never, ⟨"1min", "0ms"⟩, none⟩
    let validation := Statement.ddl "VALIDATE;" .flexibleWrapped
    let plan := [Statement.ddl "ADD CHECK;" .wrapped, validation, Statement.ddl "DROP INDEX;" .unwrapped]
    (∀ s ∈ plan, s.isDdl = true) ∧ (wrap config plan).filter Statement.isDdl = plan ∧
      (∃ before rest, wrap config plan = before ++ validation :: rest ∧ before.length = 6 ∧
        (usual config).afterAll before .statementTimeout = "600000ms" ∧
        (usual config).afterAll before .lockTimeout = "0ms") ∧
      (usual config).afterAll (wrap config plan) = usual config := by
  intro config validation plan
  have ddl : ∀ s ∈ plan, s.isDdl = true := by decide
  obtain ⟨filtered, met, ends⟩ := wrapped_plan_meets_timeouts config plan ddl
  refine ⟨ddl, filtered, ⟨(wrap config plan).take 6, (wrap config plan).drop 7, rfl, rfl, ?_, ?_⟩, ends⟩
  · rw [met ((wrap config plan).take 6) validation ((wrap config plan).drop 7) rfl rfl]
    decide +kernel
  · rw [met ((wrap config plan).take 6) validation ((wrap config plan).drop 7) rfl rfl]
    rfl

end OnlineDdl.Timeout
