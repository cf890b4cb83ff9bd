import OnlineDdl.Proofs.Service.Variable
import OnlineDdl.Proofs.Text.Decimal
import OnlineDdl.Proofs.Text.Lowercase

/-! Planner settings as they are written in an environment. Whatever settings are written there, with blanks
around the values and the words for a mode in any letter case, are read as they are. A text that spells no value
of its variable is refused, and the first one in the reading order is reported. -/

set_option autoImplicit false

namespace OnlineDdl

namespace Text

theorem map_numeral_iff (n : Nat) (s : List Char) : IsNumeral n (s.map Char.toLower) ↔ IsNumeral n s := by
  constructor
  · intro numeral
    have kept : ∀ c ∈ s, c.toLower = c := by
      intro c member
      apply to_lower_kept (fun d => inRanges [(0x2B, 0x2B), (0x30, 0x39)] d.toLower) (by decide +kernel)
      exact numeral_letters n _ numeral _ (List.mem_map_of_mem member)
    rwa [List.map_congr_left kept, List.map_id'] at numeral
  · intro numeral
    rwa [numeral_case n s numeral]

theorem lower_numeral_iff (n : Nat) (s : List Char) : IsNumeral n (lower s) ↔ IsNumeral n s := by
  have keyword (t : List Char) (numeral : IsNumeral n t) : ∀ c ∈ t, inRanges keywordRanges c = true := by
    intro c member
    have letter := numeral_letters n t numeral c member
    simp [inRanges] at letter
    simp [inRanges, keywordRanges]
    omega
  constructor
  · intro numeral
    rw [← (lower_keyword_iff s _ (keyword _ numeral)).mp rfl] at numeral
    exact (map_numeral_iff n s).mp numeral
  · intro numeral
    rwa [(lower_keyword_iff s s (keyword s numeral)).mpr (numeral_case n s numeral)]

end Text

namespace Environment

theorem word_iff {α : Type} (bound : Nat) (of : Nat → α) (value : α → Nat) (below : ∀ a, value a < bound)
    (back : ∀ a, of (value a) = a) (kept : ∀ n, n < bound → value (of n) = n) (s : List Char) (a : α) :
    (Text.readNumeral bound s).map of = some a ↔ Text.IsNumeral (value a) s := by
  rw [Option.map_eq_some_iff]
  constructor
  · rintro ⟨n, read, rfl⟩
    obtain ⟨numeral, small⟩ := (Text.read_numeral_iff bound n s).mp read
    rwa [kept n small]
  · intro numeral
    exact ⟨value a, (Text.read_numeral_iff bound _ s).mpr ⟨numeral, below a⟩, back a⟩

theorem uint64_iff (s : List Char) (n : UInt64) : uint64? s = some n ↔ Text.IsNumeral n.toNat s :=
  word_iff _ _ _ UInt64.toNat_lt (fun _ => UInt64.ofNat_toNat) (fun _ => UInt64.toNat_ofNat_of_lt') s n

theorem uint32_iff (s : List Char) (n : UInt32) : uint32? s = some n ↔ Text.IsNumeral n.toNat s :=
  word_iff _ _ _ UInt32.toNat_lt (fun _ => UInt32.ofNat_toNat) (fun _ => UInt32.toNat_ofNat_of_lt') s n

theorem bool_iff (s : List Char) (b : Bool) : bool? s = some b ↔ s = (cond b "true" "false").toList := by
  rw [bool?]
  by_cases yes : s = "true".toList
  · rw [if_pos yes, yes]
    cases b <;> decide
  · rw [if_neg yes]
    by_cases no : s = "false".toList
    · rw [if_pos no, no]
      cases b <;> decide
    · rw [if_neg no]
      cases b with
      | true => exact iff_of_false (by simp) yes
      | false => exact iff_of_false (by simp) no

end Environment

namespace NotNullMode

def words : List (String × NotNullMode) :=
  [("true", .alwaysUseConstraint), ("always", .alwaysUseConstraint), ("always_use_constraint", .alwaysUseConstraint),
    ("false", .never), ("never", .never),
    ("use_pg_attribute_update_for_superuser", .catalogUpdateForSuperuser),
    ("pg_attribute_update_for_superuser", .catalogUpdateForSuperuser)]

def name : NotNullMode → String
  | .alwaysUseConstraint => "always"
  | .never => "never"
  | .catalogUpdateForSuperuser => "use_pg_attribute_update_for_superuser"
  | .sizeThreshold rows => rows.toNat.repr

def Spells (mode : NotNullMode) (s : List Char) : Prop :=
  (∃ word, (word, mode) ∈ words ∧ s.map Char.toLower = word.toList) ∨
    ∃ rows, mode = .sizeThreshold rows ∧ Text.IsNumeral rows.toNat s

theorem word_found_iff (key : String) (mode : NotNullMode) : words.lookup key = some mode ↔ (key, mode) ∈ words := by
  constructor
  · intro found
    obtain ⟨before, after, same, -⟩ := List.lookup_eq_some_iff.mp found
    rw [same]
    exact List.mem_append_right _ List.mem_cons_self
  · intro member
    have each : ∀ entry ∈ words, words.lookup entry.1 = some entry.2 := by decide
    exact each _ member

theorem word_keyword (key : String) (mode : NotNullMode) (member : (key, mode) ∈ words) :
    ∀ c ∈ key.toList, Text.inRanges Text.keywordRanges c = true := by
  have each : ∀ entry ∈ words, entry.1.toList.all (Text.inRanges Text.keywordRanges) = true := by decide +kernel
  exact List.all_eq_true.mp (each _ member)

theorem word_no_numeral (key : String) (mode : NotNullMode) (member : (key, mode) ∈ words) (n : Nat) :
    ¬ Text.IsNumeral n key.toList := by
  have each : ∀ entry ∈ words, Text.readDigits (Text.unsigned entry.1.toList) = none := by decide +kernel
  rw [Text.numeral_digits, each _ member]
  simp

theorem parse_words (raw : String) :
    parse? raw = (words.lookup (String.ofList (Text.lower (Text.trim raw.toList)))).or
      ((Environment.uint64? (Text.lower (Text.trim raw.toList))).map .sizeThreshold) := by
  rw [parse?]
  split
  case h_8 =>
    have absent : words.lookup (String.ofList (Text.lower (Text.trim raw.toList))) = none := by
      simp only [List.lookup_eq_none_iff, words, List.forall_mem_cons, bne_iff_ne]
      exact ⟨‹_›, ‹_›, ‹_›, ‹_›, ‹_›, ‹_›, ‹_›, List.forall_mem_nil _⟩
    rw [absent, Option.none_or, Environment.uint64?, Option.map_map]
    rfl
  all_goals
    next same =>
      rw [same]
      rfl

theorem parse_iff (raw : String) (mode : NotNullMode) :
    parse? raw = some mode ↔ mode.Spells (Text.trim raw.toList) := by
  rw [parse_words]
  generalize Text.trim raw.toList = s
  have word_iff (key : String) (known : NotNullMode) (member : (key, known) ∈ words) :
      String.ofList (Text.lower s) = key ↔ s.map Char.toLower = key.toList := by
    rw [← Text.lower_keyword_iff s _ (word_keyword key known member), ← String.toList_inj, String.toList_ofList]
  cases found : words.lookup (String.ofList (Text.lower s)) with
  | some known =>
      have member := (word_found_iff _ known).mp found
      rw [Option.some_or, Option.some.injEq]
      constructor
      · rintro rfl
        exact .inl ⟨_, member, (word_iff _ known member).mp rfl⟩
      · rintro (⟨word, listed, same⟩ | ⟨rows, -, numeral⟩)
        · rw [(word_iff word mode listed).mpr same, (word_found_iff word mode).mpr listed] at found
          exact (Option.some.inj found).symm
        · rw [← Text.lower_numeral_iff, ← String.toList_ofList (l := Text.lower s)] at numeral
          exact absurd numeral (word_no_numeral _ known member _)
  | none =>
      rw [Option.none_or, Option.map_eq_some_iff]
      constructor
      · rintro ⟨rows, read, rfl⟩
        exact .inr ⟨rows, rfl, (Text.lower_numeral_iff _ s).mp ((Environment.uint64_iff _ rows).mp read)⟩
      · rintro (⟨word, listed, same⟩ | ⟨rows, rfl, numeral⟩)
        · rw [(word_iff word mode listed).mpr same, (word_found_iff word mode).mpr listed] at found
          cases found
        · exact ⟨rows, (Environment.uint64_iff _ rows).mpr ((Text.lower_numeral_iff _ s).mpr numeral), rfl⟩

end NotNullMode

namespace Variable

namespace Kind

def Spells : (kind : Kind) → kind.Value → List Char → Prop
  | .milliseconds, (n : UInt64), s => Text.IsNumeral n.toNat s
  | .switch, (b : Bool), s => s = (cond b "true" "false").toList
  | .mode, (chosen : NotNullMode), s => chosen.Spells s
  | .version, (n : UInt32), s => Text.IsNumeral n.toNat s

theorem parse_iff (kind : Kind) (a : kind.Value) (s : List Char) (trimmed : Text.trim s = s) :
    kind.parse s = some a ↔ kind.Spells a s := by
  cases kind with
  | milliseconds => exact Environment.uint64_iff s a
  | switch => exact Environment.bool_iff s a
  | mode =>
      have read := NotNullMode.parse_iff (String.ofList s) a
      rwa [String.toList_ofList, trimmed] at read
  | version => exact Environment.uint32_iff s a

theorem spelling_solid (kind : Kind) (a : kind.Value) (s : List Char) (spelled : kind.Spells a s) :
    s ≠ [] ∧ Text.Solid s := by
  cases kind with
  | milliseconds => exact (Text.numeral_plain _ s spelled).imp_right And.left
  | switch =>
      obtain rfl : s = (cond a "true" "false").toList := spelled
      cases a <;> decide
  | mode =>
      rcases spelled with ⟨word, listed, same⟩ | ⟨rows, -, numeral⟩
      · have each : ∀ entry ∈ NotNullMode.words, entry.1.toList ≠ [] ∧ Text.Solid entry.1.toList := by decide +kernel
        obtain ⟨filled, solid⟩ := each _ listed
        rw [← same] at filled solid
        refine ⟨fun empty => filled (congrArg _ empty), fun c member => ?_⟩
        cases blank : Text.isBlank c with
        | false => rfl
        | true =>
            have dark := solid _ (List.mem_map_of_mem member)
            rwa [Text.to_lower_kept Text.isBlank (by decide +kernel) c blank, blank] at dark
      · exact (Text.numeral_plain _ s numeral).imp_right And.left
  | version => exact (Text.numeral_plain _ s spelled).imp_right And.left

def written : (kind : Kind) → kind.Value → String
  | .milliseconds, (n : UInt64) => n.toNat.repr
  | .switch, (b : Bool) => cond b "true" "false"
  | .mode, (chosen : NotNullMode) => chosen.name
  | .version, (n : UInt32) => n.toNat.repr

-- Letter case counts but in the words for a mode.
def plain : Kind → List Char → List Char
  | .mode, word => word.map Char.toLower
  | _, word => word

theorem written_spells (kind : Kind) (a : kind.Value) (word : List Char)
    (same : kind.plain word = (kind.written a).toList) : kind.Spells a word := by
  have number (n : Nat) (decimal : word = n.repr.toList) : Text.IsNumeral n word := decimal ▸ Text.repr_numeral n
  cases kind with
  | milliseconds => exact number _ same
  | switch => exact same
  | mode =>
      change word.map Char.toLower = (NotNullMode.name a).toList at same
      cases a with
      | never => exact .inl ⟨_, by decide, same⟩
      | alwaysUseConstraint => exact .inl ⟨_, by decide, same⟩
      | catalogUpdateForSuperuser => exact .inl ⟨_, by decide, same⟩
      | sizeThreshold rows =>
          have numeral := Text.repr_numeral rows.toNat
          rw [NotNullMode.name] at same
          rw [← same, Text.map_numeral_iff] at numeral
          exact .inr ⟨rows, rfl, numeral⟩
  | version => exact number _ same

theorem written_plain (kind : Kind) (a : kind.Value) :
    kind.plain (kind.written a).toList = (kind.written a).toList := by
  cases kind with
  | milliseconds => rfl
  | switch => rfl
  | mode =>
      change (NotNullMode.name a).toList.map Char.toLower = (NotNullMode.name a).toList
      cases a with
      | never => decide
      | alwaysUseConstraint => decide
      | catalogUpdateForSuperuser => decide +kernel
      | sizeThreshold rows => exact Text.numeral_case _ _ (Text.repr_numeral rows.toNat)
  | version => rfl

-- The values that are numbers are below this. A truth value is none of them.
def bound : Kind → Nat
  | .milliseconds => 2 ^ 64
  | .switch => 0
  | .mode => 2 ^ 64
  | .version => 2 ^ 32

theorem numeral_bound (kind : Kind) (a : kind.Value) (n : Nat) (s : List Char) (spelled : kind.Spells a s)
    (numeral : Text.IsNumeral n s) : n < kind.bound := by
  cases kind with
  | milliseconds =>
      rw [Text.numeral_unique n _ s numeral spelled]
      exact UInt64.toNat_lt a
  | switch =>
      obtain rfl : s = (cond a "true" "false").toList := spelled
      rw [Text.numeral_digits] at numeral
      cases a <;> cases numeral
  | mode =>
      rcases spelled with ⟨word, listed, same⟩ | ⟨rows, -, spelled⟩
      · rw [← Text.map_numeral_iff, same] at numeral
        exact absurd numeral (NotNullMode.word_no_numeral word a listed n)
      · rw [Text.numeral_unique n _ s numeral spelled]
        exact rows.toNat_lt
  | version =>
      rw [Text.numeral_unique n _ s numeral spelled]
      exact UInt32.toNat_lt a

end Kind

def Writes (v : Variable) (a : v.Value) (raw : String) : Prop :=
  ∃ lead word trail, raw.toList = lead ++ (word ++ trail) ∧ Text.Blank lead ∧ Text.Blank trail ∧
    v.kind.plain word = (v.kind.written a).toList

def Outside (v : Variable) (raw : String) : Prop :=
  ¬ Text.Blank raw.toList ∧ ∀ a : v.Value, ¬ v.kind.Spells a (Text.trim raw.toList)

theorem large_numeral_outside (v : Variable) (n : Nat) (raw : String)
    (numeral : Text.IsNumeral n (Text.trim raw.toList)) (large : v.kind.bound ≤ n) : v.Outside raw := by
  constructor
  · intro blank
    rw [(Text.trim_empty_iff _).mpr blank] at numeral
    exact (Text.numeral_plain n [] numeral).1 rfl
  · intro a spelled
    have small := v.kind.numeral_bound a n _ spelled numeral
    omega

end Variable

namespace PlannerConfig

def value? (config : PlannerConfig) : (v : Variable) → Option v.Value
  | .lockTimeout => config.lockTimeoutMs
  | .statementTimeout => config.statementTimeoutMs
  | .flexibleTimeouts => some config.flexibleStatementTimeout
  | .flexibleTimeout => some config.flexibleStatementTimeoutMs
  | .raiseForUnsafe => some config.raiseForUnsafe
  | .notNullMode => some config.notNullMode
  | .serverVersion => config.serverVersion

def environment (config : PlannerConfig) : Environment := fun key =>
  match Variable.readingOrder.find? (·.key = key) with
  | some v => (config.value? v).map v.kind.written
  | none =>
    if key = "ZDM_RESET_STATEMENT_TIMEOUT" then some config.sessionDefaults.statementTimeout
    else if key = "ZDM_RESET_LOCK_TIMEOUT" then some config.sessionDefaults.lockTimeout
    else none

end PlannerConfig

namespace Environment

-- The environment spells out these settings: a setting without a value is not there, and the values that session
-- settings go back to are given word for word.
structure Writes (env : Environment) (config : PlannerConfig) : Prop where
  absent : ∀ v, config.value? v = none → env v.key = none
  present : ∀ v a, config.value? v = some a → ∃ raw, env v.key = some raw ∧ v.Writes a raw
  statementTimeout : env "ZDM_RESET_STATEMENT_TIMEOUT" = some config.sessionDefaults.statementTimeout
  lockTimeout : env "ZDM_RESET_LOCK_TIMEOUT" = some config.sessionDefaults.lockTimeout

def changed (env : Environment) (changes : Variable → Option String) : Environment := fun key =>
  match Variable.readingOrder.find? (·.key = key) with
  | some v => (changes v).or (env key)
  | none => env key

theorem found_key (v : Variable) : Variable.readingOrder.find? (·.key = v.key) = some v := by
  cases v <;> decide

theorem environment_writes (config : PlannerConfig) : config.environment.Writes config where
  absent v none := by
    rw [PlannerConfig.environment, found_key]
    exact Option.map_eq_none_iff.mpr none
  present v a some := by
    refine ⟨v.kind.written a, ?_, [], _, [], (List.append_nil _).symm, List.forall_mem_nil _, List.forall_mem_nil _,
      v.kind.written_plain a⟩
    rw [PlannerConfig.environment, found_key]
    exact Option.map_eq_some_iff.mpr ⟨a, some, rfl⟩
  statementTimeout := rfl
  lockTimeout := rfl

theorem changed_variable (env : Environment) (changes : Variable → Option String) (v : Variable) :
    env.changed changes v.key = (changes v).or (env v.key) := by
  rw [changed, found_key]

theorem reading_filled (env : Environment) (v : Variable) (raw : String) (set : env v.key = some raw)
    (filled : ¬ Text.Blank raw.toList) : env.reading v =
      match v.kind.parse (Text.trim raw.toList) with
      | some a => .ok (some a)
      | none => .error (.malformed v.key raw) := by
  have something : (Text.trim raw.toList).isEmpty = false := by
    rwa [List.isEmpty_eq_false_iff, Ne, Text.trim_empty_iff]
  rw [reading, read, set]
  dsimp only
  rw [something, if_neg Bool.false_ne_true]
  cases v.kind.parse (Text.trim raw.toList) with
  | none => rfl
  | some a => rfl

theorem reading_spelled (env : Environment) (v : Variable) (a : v.Value) (raw : String) (set : env v.key = some raw)
    (spelled : v.kind.Spells a (Text.trim raw.toList)) : env.reading v = .ok (some a) := by
  have filled := (v.kind.spelling_solid a _ spelled).1
  have read := (v.kind.parse_iff a _ (Text.trim_again raw.toList)).mpr spelled
  rw [reading_filled env v raw set (by rwa [← Text.trim_empty_iff]), read]

theorem reading_written (env : Environment) (v : Variable) (a : v.Value) (raw : String) (set : env v.key = some raw)
    (written : v.Writes a raw) : env.reading v = .ok (some a) := by
  obtain ⟨lead, word, trail, same, before, after, plain⟩ := written
  have spelled := v.kind.written_spells a word plain
  have solid := (v.kind.spelling_solid a word spelled).2
  apply reading_spelled env v a raw set
  rwa [same, Text.trim_solid lead word trail before after solid]

theorem reading_outside (env : Environment) (v : Variable) (raw : String) (set : env v.key = some raw)
    (outside : v.Outside raw) : env.reading v = .error (.malformed v.key raw) := by
  rw [reading_filled env v raw set outside.1]
  cases read : v.kind.parse (Text.trim raw.toList) with
  | none => rfl
  | some a => exact absurd ((v.kind.parse_iff a _ (Text.trim_again raw.toList)).mp read) (outside.2 a)

theorem reading_settings (env : Environment) (config : PlannerConfig) (writes : env.Writes config) (v : Variable) :
    env.reading v = .ok (config.value? v) := by
  cases held : config.value? v with
  | none => exact read_unset env v.key _ (writes.absent v held)
  | some a =>
      obtain ⟨raw, set, written⟩ := writes.present v a held
      exact reading_written env v a raw set written

theorem settings_read (env : Environment) (config : PlannerConfig) (writes : env.Writes config) :
    env.plannerConfig = .ok config := by
  have faults : env.fault? = fun _ => none := by
    funext v
    rw [fault?, reading_settings env config writes v]
  have values : env.value? = config.value? := by
    funext v
    rw [value?, reading_settings env config writes v]
  rw [planner_config_parts, orFault, faults, values, sessionDefaults, writes.statementTimeout, writes.lockTimeout]
  rfl

theorem fault_outside_iff (env : Environment) (v : Variable) (raw : String) (set : env v.key = some raw) :
    env.fault? v = none ↔ ¬ v.Outside raw := by
  constructor
  · intro sound outside
    rw [fault?, reading_outside env v raw set outside] at sound
    cases sound
  · intro inside
    by_cases blank : Text.Blank raw.toList
    · rw [fault?, reading, read_blank env v.key _ ⟨raw, set, blank⟩]
    · obtain ⟨a, spelled⟩ := not_forall_not.mp fun none => inside ⟨blank, none⟩
      rw [fault?, reading_spelled env v a raw set spelled]

section

variable (env : Environment) (config : PlannerConfig) (writes : env.Writes config)
  (changes : Variable → Option String)

include writes

theorem changed_sound (v : Variable) (sound : ∀ raw, changes v = some raw → ¬ v.Outside raw) :
    (env.changed changes).fault? v = none := by
  have text := changed_variable env changes v
  cases given : changes v with
  | none =>
      rw [given, Option.none_or] at text
      rw [fault?, reading, read, text, ← read, ← reading, reading_settings env config writes v]
  | some raw =>
      rw [given, Option.some_or] at text
      exact (fault_outside_iff _ v raw text).mpr (sound raw given)

theorem first_outside_reported (before after : List Variable) (v : Variable) (raw : String)
    (order : Variable.readingOrder = before ++ v :: after) (given : changes v = some raw) (outside : v.Outside raw)
    (earlier : ∀ w ∈ before, ∀ other, changes w = some other → ¬ w.Outside other) :
    (env.changed changes).plannerConfig = .error (.malformed v.key raw) := by
  have kept : ∀ w ∈ before, (env.changed changes).fault? w = none := fun w member =>
    changed_sound env config writes changes w (earlier w member)
  have refused : (env.changed changes).fault? v = some (.malformed v.key raw) := by
    have text := changed_variable env changes v
    rw [given, Option.some_or] at text
    rw [fault?, reading_outside _ v raw text outside]
  rw [planner_config_parts, orFault, order, List.findSome?_append, List.findSome?_eq_none_iff.mpr kept,
    List.findSome?_cons, refused]
  rfl

end

-- Settings are read as they are written. A change to texts that are no spellings is refused, and the first of them
-- is reported. Numbers out of bounds are no spellings.
theorem written_settings_read (config : PlannerConfig) :
    config.environment.Writes config ∧
      (∀ (v : Variable) (n : Nat) (raw : String), Text.IsNumeral n (Text.trim raw.toList) → v.kind.bound ≤ n →
        v.Outside raw) ∧
      ∀ env : Environment, env.Writes config → env.plannerConfig = .ok config ∧
        ∀ (changes : Variable → Option String) (before after : List Variable) (v : Variable) (raw : String),
          Variable.readingOrder = before ++ v :: after → changes v = some raw → v.Outside raw →
            (∀ w ∈ before, ∀ other, changes w = some other → ¬ w.Outside other) →
              (env.changed changes).plannerConfig = .error (.malformed v.key raw) := by
  refine ⟨environment_writes config, Variable.large_numeral_outside, fun env writes => ?_⟩
  exact ⟨settings_read env config writes, first_outside_reported env config writes⟩

-- A threshold beyond the bound is reported before a version beyond it. The other changed text spells a number.
theorem large_threshold_reported :
    let config : PlannerConfig :=
      ⟨some 2000, none, true, 0, false, .catalogUpdateForSuperuser, ⟨"0ms", "10s"⟩, some 4294967295⟩
    let env := Environment.of [("ZDM_LOCK_TIMEOUT_MS", " 2000"), ("ZDM_FLEXIBLE_STATEMENT_TIMEOUT", "true\n"),
      ("ZDM_FLEXIBLE_STATEMENT_TIMEOUT_MS", "0"), ("ZDM_RAISE_FOR_UNSAFE", "false"),
      ("ZDM_NOT_NULL_MODE", "\tUSE_PG_attribute_update_for_SuperUser "), ("ZDM_SERVER_VERSION", "4294967295"),
      ("ZDM_RESET_STATEMENT_TIMEOUT", "0ms"), ("ZDM_RESET_LOCK_TIMEOUT", "10s")]
    let changes : Variable → Option String
      | .lockTimeout => some "+05"
      | .notNullMode => some "18446744073709551616"
      | .serverVersion => some "4294967296"
      | _ => none
    env.Writes config ∧ env.plannerConfig = .ok config ∧
      (env.changed changes).plannerConfig =
        .error (.malformed "ZDM_NOT_NULL_MODE" "18446744073709551616") := by
  intro config env changes
  have writes : env.Writes config :=
    { absent := by
        intro v unset
        cases v <;> first | rfl | cases unset
      present := by
        intro v a held
        cases v with
        | lockTimeout =>
            cases held
            exact ⟨_, rfl, [' '], _, [], rfl, by decide, by decide, rfl⟩
        | statementTimeout => cases held
        | flexibleTimeouts =>
            cases held
            exact ⟨_, rfl, [], "true".toList, ['\n'], rfl, by decide, by decide, by decide⟩
        | flexibleTimeout =>
            cases held
            exact ⟨_, rfl, [], ['0'], [], rfl, by decide, by decide, by decide⟩
        | raiseForUnsafe =>
            cases held
            exact ⟨_, rfl, [], "false".toList, [], rfl, by decide, by decide, rfl⟩
        | notNullMode =>
            cases held
            exact ⟨_, rfl, ['\t'], "USE_PG_attribute_update_for_SuperUser".toList, [' '], rfl, by decide, by decide,
              by decide⟩
        | serverVersion =>
            cases held
            exact ⟨_, rfl, [], "4294967295".toList, [], rfl, by decide, by decide, by decide⟩
      statementTimeout := rfl
      lockTimeout := rfl }
  obtain ⟨-, large, read⟩ := written_settings_read config
  obtain ⟨same, refused⟩ := read env writes
  refine ⟨writes, same, refused changes [.lockTimeout, .statementTimeout, .flexibleTimeouts, .flexibleTimeout,
    .raiseForUnsafe] [.serverVersion] .notNullMode _ rfl rfl ?_ ?_⟩
  · exact large .notNullMode 18446744073709551616 _ ((Text.numeral_digits _ _).mpr rfl) (by decide)
  · intro w member other given outside
    cases w with
    | lockTimeout =>
        cases given
        exact outside.2 (5 : UInt64) ((Text.numeral_digits _ _).mpr rfl)
    | statementTimeout => cases given
    | flexibleTimeouts => cases given
    | flexibleTimeout => cases given
    | raiseForUnsafe => cases given
    | notNullMode => simp at member
    | serverVersion => simp at member

end Environment

end OnlineDdl
