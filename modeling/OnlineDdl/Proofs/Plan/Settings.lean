import OnlineDdl.Proofs.Plan.Regions
import OnlineDdl.Proofs.Text.Decimal
import OnlineDdl.Proofs.Text.Quoted
import Mathlib.Data.List.Perm.Basic

/-! The settings that a wrapped plan adds, told by the rules of SQL. A timeout is always read as it was
configured. The value that a session goes back to is written as it is given, so that a quote in it ends the
literal and what follows is taken for SQL. -/

set_option autoImplicit false

namespace OnlineDdl.Timeout

-- One statement, in which the value stands as a string literal.
def Sets (sql : String) (parameter : Parameter) (value : String) : Prop :=
  ∃ literal, sql.toList = ("SET " ++ parameter.word ++ " TO ").toList ++ literal ∧
    Text.scanQuoted '\'' literal = some (value.toList, [';'])

variable (config : PlannerConfig)

def limit? : Region → Parameter → Option UInt64
  | .standard, .statementTimeout => config.statementTimeoutMs
  | .standard, .lockTimeout => config.lockTimeoutMs
  | .flexible, .statementTimeout => some config.flexibleStatementTimeoutMs
  | .flexible, .lockTimeout => none

def insertions (plan : Plan) : List (Region × Statement) :=
  (runs config plan).flatMap fun block =>
    (blockRegion config block).toList.flatMap fun region =>
      (openAll config (some region) ++ closeAll config (some region)).map (region, ·)

def AsConfigured (region : Region) (s : Statement) : Prop :=
  ∃ parameter milliseconds, limit? config region parameter = some milliseconds ∧
    (s.role = .timeoutSet ∧ Sets s.sql parameter (toString milliseconds.toNat ++ "ms") ∨
      s.role = .timeoutReset ∧ Sets s.sql parameter (usual config parameter))

theorem words_differ (parameter other : Parameter) (rest later : List Char)
    (same : ("SET " ++ parameter.word ++ " TO ").toList ++ rest = ("SET " ++ other.word ++ " TO ").toList ++ later) :
    parameter = other := by
  cases parameter <;> cases other
  · rfl
  · simp [Parameter.word] at same
  · simp [Parameter.word] at same
  · rfl

-- Between its quotes a setting holds its value as it is, so it is read back where nothing is to double.
theorem setting_sets_iff (s : Setting) (parameter : Parameter) (value : String) :
    Sets s.sql parameter value ↔ parameter = s.parameter ∧ s.value.toList = Text.double '\'' value.toList := by
  have text : s.sql.toList = ("SET " ++ s.parameter.word ++ " TO ").toList ++ ('\'' :: (s.value.toList ++ ['\'', ';'])) := by
    simp [Setting.sql]
  rw [Sets, text]
  constructor
  · rintro ⟨literal, same, read⟩
    have known := words_differ s.parameter parameter _ _ same
    subst known
    rw [← List.append_cancel_left same, Text.scan_quoted_iff] at read
    have closed : s.value.toList ++ ['\'', ';'] = Text.double '\'' value.toList ++ ['\'', ';'] := by
      simpa [Text.enclose] using read.1
    exact ⟨rfl, List.append_cancel_right closed⟩
  · rintro ⟨rfl, same⟩
    refine ⟨_, rfl, (Text.scan_quoted_iff _ _ _ _).mpr ⟨?_, by simp⟩⟩
    simp [Text.enclose, same]

theorem setting_sets_own_iff (s : Setting) : Sets s.sql s.parameter s.value ↔ '\'' ∉ s.value.toList := by
  rw [setting_sets_iff, eq_comm (a := s.value.toList), Text.double_same_iff]
  exact and_iff_right rfl

-- A session that goes by the outer quotes alone reads whatever has no quote in it as SQL does.
theorem sets_iff_read (sql : String) (s : Setting) (unquoted : '\'' ∉ s.value.toList) :
    Sets sql s.parameter s.value ↔ Setting.ofSql? sql = some s := by
  rw [of_sql_iff]
  constructor
  · rintro ⟨literal, text, read⟩
    have closed : literal = Text.enclose '\'' s.value.toList ++ [';'] := ((Text.scan_quoted_iff _ _ _ _).mp read).1
    rw [Text.enclose, (Text.double_same_iff _ _).mpr unquoted] at closed
    rw [← String.toList_inj, text, closed]
    simp [Setting.sql]
  · rintro rfl
    exact (setting_sets_own_iff s).mpr unquoted

theorem millis_unquoted (milliseconds : UInt64) : '\'' ∉ (millis milliseconds).toList := by
  rw [millis, String.toList_append, List.mem_append, not_or]
  refine ⟨fun member => ?_, by decide⟩
  obtain ⟨digits, spelled, -, all, -⟩ := Text.repr_numeral milliseconds.toNat
  have inside : '\'' ∈ digits := by
    rcases spelled with same | same
    · exact same ▸ member
    · exact (List.mem_cons.mp (same ▸ member)).resolve_left (by decide)
  exact absurd (all _ inside) (by decide)

theorem opening_member (region : Region) (s : Setting) :
    s ∈ opening config region ↔ ∃ ms, limit? config region s.parameter = some ms ∧ s.value = millis ms := by
  obtain ⟨parameter, value⟩ := s
  cases region <;> cases parameter <;> simp [opening, limit?, eq_comm]

theorem closing_member (region : Region) (s : Setting) :
    s ∈ closing config region ↔ (limit? config region s.parameter).isSome ∧ s.value = usual config s.parameter := by
  rw [closing_opening, List.mem_map]
  simp only [restored_usual, opening_member]
  constructor
  · rintro ⟨before, ⟨ms, limited, -⟩, rfl⟩
    exact ⟨Option.isSome_iff_exists.mpr ⟨ms, limited⟩, rfl⟩
  · rintro ⟨limited, known⟩
    obtain ⟨ms, found⟩ := Option.isSome_iff_exists.mp limited
    exact ⟨⟨s.parameter, millis ms⟩, ⟨ms, found, rfl⟩, by rw [← known]⟩

theorem runs_division (plan : Plan) : Divides config plan (runs config plan) ∧ Maximal config (runs config plan) :=
  (runs_iff config plan (runs config plan)).mpr rfl

theorem wrap_by_runs (plan : Plan) : wrap config plan = (runs config plan).flatMap (bracket config) := by
  obtain ⟨divides, maximal⟩ := runs_division config plan
  exact wrap_from_runs config none plan _ divides maximal fun _ _ _ => rfl

theorem insertions_told (plan : Plan) (region : Region) (s : Statement) :
    (region, s) ∈ insertions config plan ↔
      (∃ t ∈ plan, regionOf config t = some region) ∧
        s ∈ openAll config (some region) ++ closeAll config (some region) := by
  obtain ⟨whole, filled, kept⟩ := (runs_division config plan).1
  have called : (∃ t ∈ plan, regionOf config t = some region) ↔
      ∃ block ∈ runs config plan, blockRegion config block = some region := by
    constructor
    · rintro ⟨t, member, called⟩
      obtain ⟨block, among, inside⟩ := List.mem_flatten.mp (whole.symm ▸ member)
      exact ⟨block, among, (kept block among t inside).symm.trans called⟩
    · rintro ⟨block, among, called⟩
      have some : block ≠ [] := fun empty => filled (empty ▸ among)
      exact ⟨block.head some, whole ▸ List.mem_flatten.mpr ⟨block, among, List.head_mem some⟩,
        (block_ends config block some (kept block among)).1.trans called⟩
  rw [called, insertions, List.mem_flatMap]
  constructor
  · rintro ⟨block, among, member⟩
    obtain ⟨other, called, member⟩ := List.mem_flatMap.mp member
    obtain ⟨t, inside, same⟩ := List.mem_map.mp member
    cases same
    exact ⟨⟨block, among, Option.mem_toList.mp called⟩, inside⟩
  · rintro ⟨⟨block, among, called⟩, inside⟩
    exact ⟨block, among, List.mem_flatMap.mpr
      ⟨region, Option.mem_toList.mpr called, List.mem_map.mpr ⟨s, inside, rfl⟩⟩⟩

theorem wrap_adds (plan : Plan) :
    (wrap config plan).Perm (plan ++ (insertions config plan).map Prod.snd) := by
  have added : (insertions config plan).map Prod.snd = (runs config plan).flatMap fun block =>
      openAll config (blockRegion config block) ++ closeAll config (blockRegion config block) := by
    rw [insertions, List.map_flatMap]
    refine List.flatMap_congr fun block _ => ?_
    cases blockRegion config block with
    | none => rfl
    | some region => simp [Function.comp_def]
  have around (block : List Statement) : (bracket config block).Perm
      (block ++ (openAll config (blockRegion config block) ++ closeAll config (blockRegion config block))) := by
    rw [bracket_parts, ← List.append_assoc]
    exact List.perm_append_comm.append_right _
  have whole : (runs config plan).flatMap id = plan := by
    rw [List.flatMap_id]
    exact (runs_division config plan).1.whole
  rw [wrap_by_runs, added]
  have each := List.Perm.flatMap_left (runs config plan) fun block _ => around block
  have apart := List.flatMap_append_perm (runs config plan) id fun block =>
    openAll config (blockRegion config block) ++ closeAll config (blockRegion config block)
  rw [whole] at apart
  exact each.trans apart.symm

theorem opened_as_configured (region : Region) (s : Statement) (opened : s ∈ openAll config (some region)) :
    AsConfigured config region s := by
  obtain ⟨setting, inside, rfl⟩ := List.mem_map.mp opened
  rw [Option.toList_some, List.flatMap_singleton, opening_member] at inside
  obtain ⟨milliseconds, limited, value⟩ := inside
  refine ⟨setting.parameter, milliseconds, limited, .inl ⟨rfl, ?_⟩⟩
  have unquoted : '\'' ∉ setting.value.toList := value ▸ millis_unquoted milliseconds
  have read := (sets_iff_read setting.sql setting unquoted).mpr (setting_read setting)
  rwa [value] at read

theorem closed_as_configured_iff (region : Region) (parameter : Parameter)
    (limited : (limit? config region parameter).isSome) :
    AsConfigured config region (.session (restored config parameter).sql .timeoutReset) ↔
      '\'' ∉ (usual config parameter).toList := by
  rw [restored_usual]
  have own := setting_sets_own_iff ⟨parameter, usual config parameter⟩
  constructor
  · rintro ⟨other, milliseconds, -, ⟨role, -⟩ | ⟨-, read⟩⟩
    · cases role
    · obtain rfl := ((setting_sets_iff _ _ _).mp read).1
      exact own.mp read
  · intro unquoted
    obtain ⟨milliseconds, found⟩ := Option.isSome_iff_exists.mp limited
    exact ⟨parameter, milliseconds, found, .inr ⟨rfl, own.mpr unquoted⟩⟩

theorem closed_told (region : Region) (s : Statement) :
    s ∈ closeAll config (some region) ↔ ∃ parameter, (limit? config region parameter).isSome ∧
      s = .session (restored config parameter).sql .timeoutReset := by
  rw [closeAll, List.mem_map, Option.toList_some, List.flatMap_singleton]
  constructor
  · rintro ⟨setting, inside, rfl⟩
    obtain ⟨limited, value⟩ := (closing_member config region setting).mp inside
    exact ⟨setting.parameter, limited, by rw [restored_usual, ← value]⟩
  · rintro ⟨parameter, limited, rfl⟩
    refine ⟨restored config parameter, (closing_member config region _).mpr ?_, rfl⟩
    rw [restored_usual]
    exact ⟨limited, rfl⟩

-- The timeouts are always read as configured; the resets are, as long as no value that the session goes
-- back to has a quote in it.
theorem inserted_settings_read_iff (plan : Plan) :
    (wrap config plan).Perm (plan ++ (insertions config plan).map Prod.snd) ∧
      (∀ i ∈ insertions config plan, i.2.role = .timeoutSet → AsConfigured config i.1 i.2) ∧
      ((∀ i ∈ insertions config plan, AsConfigured config i.1 i.2) ↔
        ∀ s ∈ plan, ∀ region ∈ regionOf config s, ∀ parameter, (limit? config region parameter).isSome →
          '\'' ∉ (usual config parameter).toList) := by
  refine ⟨wrap_adds config plan, fun i member set => ?_, fun configured s member region called parameter limited => ?_,
    fun unquoted i member => ?_⟩
  · obtain ⟨-, inside⟩ := (insertions_told config plan i.1 i.2).mp member
    rcases List.mem_append.mp inside with opened | closed
    · exact opened_as_configured config i.1 i.2 opened
    · obtain ⟨parameter, -, same⟩ := (closed_told config i.1 i.2).mp closed
      rw [same] at set
      cases set
  · have closed := (closed_told config region _).mpr ⟨parameter, limited, rfl⟩
    have added := (insertions_told config plan region _).mpr ⟨⟨s, member, called⟩, List.mem_append_right _ closed⟩
    exact (closed_as_configured_iff config region parameter limited).mp (configured _ added)
  · obtain ⟨⟨s, among, called⟩, inside⟩ := (insertions_told config plan i.1 i.2).mp member
    rcases List.mem_append.mp inside with opened | closed
    · exact opened_as_configured config i.1 i.2 opened
    · obtain ⟨parameter, limited, same⟩ := (closed_told config i.1 i.2).mp closed
      rw [same]
      exact (closed_as_configured_iff config i.1 parameter limited).mpr (unquoted s among i.1 called parameter limited)

theorem reported_defaults_read :
    let config : PlannerConfig := ⟨some 2000, some 30000, true, 600000, false, .never, ⟨"1min", "0ms"⟩, none⟩
    let plan := [Statement.ddl "ALTER;" .wrapped, .ddl "VALIDATE;" .flexibleWrapped]
    (insertions config plan).length = 6 ∧ (∀ i ∈ insertions config plan, AsConfigured config i.1 i.2) ∧
      '\'' ∉ (usual config .statementTimeout).toList := by
  intro config plan
  have unquoted : ∀ parameter, '\'' ∉ (usual config parameter).toList := by
    intro parameter
    cases parameter <;> decide
  refine ⟨by decide +kernel, ?_, unquoted .statementTimeout⟩
  exact (inserted_settings_read_iff config plan).2.2.mpr fun _ _ _ _ parameter _ => unquoted parameter

-- The quote ends the literal, and the rest of the value is a statement of its own.
theorem quoted_default_breaks_out :
    let config : PlannerConfig :=
      ⟨some 500, none, false, 0, false, .never, ⟨"0ms", "0'; DROP TABLE accounts; --"⟩, none⟩
    let plan := [Statement.ddl "ALTER TABLE \"orders\" DROP COLUMN \"code\";" .wrapped]
    let reset := Statement.session "SET lock_timeout TO '0'; DROP TABLE accounts; --';" .timeoutReset
    wrap config plan = .session "SET lock_timeout TO '500ms';" .timeoutSet :: plan ++ [reset] ∧
      Text.scanQuoted '\'' "'0'; DROP TABLE accounts; --';".toList =
        some (['0'], "; DROP TABLE accounts; --';".toList) ∧
      (∀ value, ¬ Sets reset.sql .lockTimeout value) ∧
      ¬ ∀ (config : PlannerConfig) (plan : Plan), ∀ i ∈ insertions config plan, AsConfigured config i.1 i.2 := by
  intro config plan reset
  have broken : Text.scanQuoted '\'' "'0'; DROP TABLE accounts; --';".toList =
      some (['0'], "; DROP TABLE accounts; --';".toList) := by decide +kernel
  have unread : ∀ value, ¬ Sets reset.sql .lockTimeout value := by
    rintro value ⟨literal, same, read⟩
    have text : reset.sql.toList =
        ("SET " ++ Parameter.lockTimeout.word ++ " TO ").toList ++ "'0'; DROP TABLE accounts; --';".toList := by
      decide +kernel
    rw [← List.append_cancel_left (text.symm.trans same), broken] at read
    have ends : "; DROP TABLE accounts; --';".toList = [';'] := congrArg Prod.snd (Option.some.inj read)
    exact absurd ends (by decide)
  refine ⟨by decide +kernel, broken, unread, fun configured => ?_⟩
  obtain ⟨parameter, milliseconds, limited, ⟨role, -⟩ | ⟨-, read⟩⟩ :=
    configured config plan (.standard, reset) (by decide +kernel)
  · cases role
  · cases parameter with
    | statementTimeout => cases limited
    | lockTimeout => exact unread _ read

end OnlineDdl.Timeout
