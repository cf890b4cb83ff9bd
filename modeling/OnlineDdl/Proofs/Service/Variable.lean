import OnlineDdl.Plan.Timeout
import OnlineDdl.Proofs.Text.Spacing
import OnlineDdl.Service.Environment

/-! The variables behind the planner settings. Seven of them are parsed one after another, and a blank one
counts as unset. The two values that session settings go back to are taken as they are, blank or not. -/

set_option autoImplicit false

namespace OnlineDdl

inductive Variable where
  | lockTimeout
  | statementTimeout
  | flexibleTimeouts
  | flexibleTimeout
  | raiseForUnsafe
  | notNullMode
  | serverVersion
deriving DecidableEq, Repr

namespace Variable

def key : Variable → String
  | .lockTimeout => "ZDM_LOCK_TIMEOUT_MS"
  | .statementTimeout => "ZDM_STATEMENT_TIMEOUT_MS"
  | .flexibleTimeouts => "ZDM_FLEXIBLE_STATEMENT_TIMEOUT"
  | .flexibleTimeout => "ZDM_FLEXIBLE_STATEMENT_TIMEOUT_MS"
  | .raiseForUnsafe => "ZDM_RAISE_FOR_UNSAFE"
  | .notNullMode => "ZDM_NOT_NULL_MODE"
  | .serverVersion => "ZDM_SERVER_VERSION"

def readingOrder : List Variable :=
  [.lockTimeout, .statementTimeout, .flexibleTimeouts, .flexibleTimeout, .raiseForUnsafe, .notNullMode,
    .serverVersion]

inductive Kind where
  | milliseconds
  | switch
  | mode
  | version
deriving DecidableEq, Repr

namespace Kind

abbrev Value : Kind → Type
  | .milliseconds => UInt64
  | .switch => Bool
  | .mode => NotNullMode
  | .version => UInt32

def parse : (kind : Kind) → List Char → Option kind.Value
  | .milliseconds => Environment.uint64?
  | .switch => Environment.bool?
  | .mode => Environment.notNullMode?
  | .version => Environment.uint32?

end Kind

abbrev kind : Variable → Kind
  | .lockTimeout => .milliseconds
  | .statementTimeout => .milliseconds
  | .flexibleTimeouts => .switch
  | .flexibleTimeout => .milliseconds
  | .raiseForUnsafe => .switch
  | .notNullMode => .mode
  | .serverVersion => .version

abbrev Value (v : Variable) : Type := v.kind.Value

end Variable

def PlannerConfig.holding (value : (v : Variable) → Option v.Value) (defaults : SessionDefaults) : PlannerConfig where
  lockTimeoutMs := value .lockTimeout
  statementTimeoutMs := value .statementTimeout
  flexibleStatementTimeout := (value .flexibleTimeouts).getD PlannerConfig.default.flexibleStatementTimeout
  flexibleStatementTimeoutMs := (value .flexibleTimeout).getD PlannerConfig.default.flexibleStatementTimeoutMs
  raiseForUnsafe := (value .raiseForUnsafe).getD PlannerConfig.default.raiseForUnsafe
  notNullMode := (value .notNullMode).getD PlannerConfig.default.notNullMode
  sessionDefaults := defaults
  serverVersion := value .serverVersion

namespace Environment

def of (entries : List (String × String)) : Environment := fun key => entries.lookup key

def reading (env : Environment) (v : Variable) : Except ConfigError (Option v.Value) := env.read v.key v.kind.parse

def fault? (env : Environment) (v : Variable) : Option ConfigError :=
  match env.reading v with
  | .ok _ => none
  | .error fault => some fault

def value? (env : Environment) (v : Variable) : Option v.Value :=
  match env.reading v with
  | .ok value => value
  | .error _ => none

def restoredKeys : List String := ["ZDM_RESET_STATEMENT_TIMEOUT", "ZDM_RESET_LOCK_TIMEOUT"]

def sessionDefaults (env : Environment) : SessionDefaults where
  statementTimeout := (env "ZDM_RESET_STATEMENT_TIMEOUT").getD "0ms"
  lockTimeout := (env "ZDM_RESET_LOCK_TIMEOUT").getD "0ms"

def orFault (env : Environment) (order : List Variable) (config : PlannerConfig) : Except ConfigError PlannerConfig :=
  match order.findSome? env.fault? with
  | some fault => .error fault
  | none => .ok config

theorem or_fault_next (env : Environment) (v : Variable) (rest : List Variable) (config : PlannerConfig)
    (next : Option v.Value → Except ConfigError PlannerConfig)
    (others : next (env.value? v) = env.orFault rest config) :
    (env.reading v >>= next) = env.orFault (v :: rest) config := by
  rw [value?] at others
  rw [orFault, List.findSome?_cons, fault?]
  cases outcome : env.reading v with
  | error fault => rfl
  | ok value =>
      rw [outcome] at others
      exact others

theorem planner_config_parts (env : Environment) :
    env.plannerConfig = env.orFault Variable.readingOrder (.holding env.value? env.sessionDefaults) := by
  apply or_fault_next env .lockTimeout
  apply or_fault_next env .statementTimeout
  apply or_fault_next env .flexibleTimeouts
  apply or_fault_next env .flexibleTimeout
  apply or_fault_next env .raiseForUnsafe
  apply or_fault_next env .notNullMode
  apply or_fault_next env .serverVersion
  rfl

theorem planner_config_defaults (env : Environment) (config : PlannerConfig)
    (loaded : env.plannerConfig = .ok config) : config.sessionDefaults = env.sessionDefaults := by
  rw [planner_config_parts, orFault] at loaded
  cases faults : Variable.readingOrder.findSome? env.fault? with
  | some fault =>
      rw [faults] at loaded
      cases loaded
  | none =>
      rw [faults] at loaded
      cases loaded
      rfl

-- Environments that read alike differ at most in the values that session settings go back to.
theorem planner_config_alike (env other : Environment) (alike : ∀ v, other.reading v = env.reading v) :
    other.plannerConfig =
      env.plannerConfig.map fun config => { config with sessionDefaults := other.sessionDefaults } := by
  have faults : other.fault? = env.fault? := by
    funext v
    rw [fault?, fault?, alike v]
  have values : other.value? = env.value? := by
    funext v
    rw [value?, value?, alike v]
  rw [planner_config_parts, planner_config_parts, orFault, orFault, faults, values]
  cases Variable.readingOrder.findSome? env.fault? with
  | some fault => rfl
  | none => rfl

-- The variable is set, but to blanks or to nothing at all.
def Blank (env : Environment) (key : String) : Prop := ∃ raw, env key = some raw ∧ Text.Blank raw.toList

def without (env : Environment) (keys : List String) : Environment := fun key =>
  if key ∈ keys then none else env key

theorem without_kept (env : Environment) (keys : List String) (key : String) (kept : key ∉ keys) :
    env.without keys key = env key := if_neg kept

theorem without_removed (env : Environment) (keys : List String) (key : String) (removed : key ∈ keys) :
    env.without keys key = none := if_pos removed

theorem read_unset {α : Type} (env : Environment) (key : String) (parse : List Char → Option α)
    (unset : env key = none) : env.read key parse = .ok none := by
  rw [read, unset]

theorem read_blank {α : Type} (env : Environment) (key : String) (parse : List Char → Option α)
    (blank : env.Blank key) : env.read key parse = .ok none := by
  obtain ⟨raw, set, blanks⟩ := blank
  have nothing : Text.trim raw.toList = [] := (Text.trim_empty_iff _).mpr blanks
  rw [read, set]
  simp [nothing]

section

variable (env : Environment) (keys : List String) (blank : ∀ key ∈ keys, env.Blank key)

include blank

theorem reading_without (v : Variable) : (env.without keys).reading v = env.reading v := by
  by_cases removed : v.key ∈ keys
  · rw [reading, reading, read_unset _ _ _ (without_removed env keys v.key removed),
      read_blank env v.key _ (blank v.key removed)]
  · rw [reading, reading, read, read, without_kept env keys v.key removed]

theorem restored_kept_iff (key : String) :
    ((env.without keys) key).getD "0ms" = (env key).getD "0ms" ↔ key ∉ keys := by
  constructor
  · intro same removed
    obtain ⟨raw, set, blanks⟩ := blank key removed
    rw [without_removed env keys key removed, set] at same
    change "0ms" = raw at same
    rw [← same] at blanks
    exact absurd (blanks '0' (by decide)) (by decide)
  · intro kept
    rw [without_kept env keys key kept]

theorem session_defaults_kept_iff :
    (env.without keys).sessionDefaults = env.sessionDefaults ↔ ∀ key ∈ restoredKeys, key ∉ keys := by
  rw [sessionDefaults, sessionDefaults, SessionDefaults.mk.injEq, restored_kept_iff env keys blank,
    restored_kept_iff env keys blank]
  simp [restoredKeys]

end

-- A blank variable counts as unset, unless it holds a value that session settings go back to and nothing else
-- is wrong with the settings.
theorem blank_variable_unset_iff (env : Environment) (keys : List String) (blank : ∀ key ∈ keys, env.Blank key) :
    (env.without keys).plannerConfig = env.plannerConfig ↔
      (∀ key ∈ restoredKeys, key ∉ keys) ∨ ∃ fault, env.plannerConfig = .error fault := by
  rw [planner_config_alike env (env.without keys) (reading_without env keys blank),
    ← session_defaults_kept_iff env keys blank]
  cases loaded : env.plannerConfig with
  | error fault => exact ⟨fun _ => .inr ⟨fault, rfl⟩, fun _ => rfl⟩
  | ok config =>
      rw [← planner_config_defaults env config loaded]
      constructor
      · intro same
        exact .inl (congrArg PlannerConfig.sessionDefaults (Except.ok.inj same))
      · rintro (same | ⟨fault, refused⟩)
        · rw [same]
          rfl
        · cases refused

theorem blank_timeout_unset :
    let env := Environment.of [("ZDM_LOCK_TIMEOUT_MS", " \t"), ("ZDM_NOT_NULL_MODE", ""),
      ("ZDM_RESET_LOCK_TIMEOUT", "1s")]
    let keys := ["ZDM_LOCK_TIMEOUT_MS", "ZDM_NOT_NULL_MODE"]
    (∀ key ∈ keys, env.Blank key) ∧ (env.without keys).plannerConfig = env.plannerConfig := by
  intro env keys
  have blank : ∀ key ∈ keys, env.Blank key := by
    intro key member
    rcases List.mem_pair.mp member with rfl | rfl
    · exact ⟨" \t", rfl, by decide⟩
    · exact ⟨"", rfl, by decide⟩
  exact ⟨blank, (blank_variable_unset_iff env keys blank).mpr (.inl (by decide))⟩

-- A blank value to go back to is not taken for an absent one, and no setting can be given it.
theorem blank_reset_kept :
    let env := Environment.of [("ZDM_RESET_LOCK_TIMEOUT", " ")]
    let kept : PlannerConfig := { PlannerConfig.default with sessionDefaults := ⟨"0ms", " "⟩ }
    env.Blank "ZDM_RESET_LOCK_TIMEOUT" ∧ env.plannerConfig = .ok kept ∧
      (env.without ["ZDM_RESET_LOCK_TIMEOUT"]).plannerConfig = .ok PlannerConfig.default ∧
      kept ≠ PlannerConfig.default ∧ (Timeout.restored kept .lockTimeout).sql = "SET lock_timeout TO ' ';" := by
  intro env kept
  exact ⟨⟨" ", rfl, by decide⟩, rfl, rfl, by decide, by decide⟩

end Environment

end OnlineDdl
