import OnlineDdl.Proofs.Plan.NotNull
import OnlineDdl.Proofs.Schema.ObjectName
import OnlineDdl.Service.Request
import OnlineDdl.Proofs.Plan.Locality

/-! The way back from NOT NULL. A rule is the flag of the column, or a check that stands for it and is
found again by its name; a column may have both. -/

set_option autoImplicit false

namespace OnlineDdl.Stepwise

variable (server : Server)

def isFlagged (entry : TableEntry) (column : String) : Bool :=
  entry.columns.any fun c => c.name == column && c.notNull

def admitsNulls (entry : TableEntry) (column : String) : Bool :=
  !isFlagged entry column && (entry.notNullChecks column).isEmpty

theorem flag_lowered (t : Table) (column : String) :
    isFlagged (t.withNotNull [column] false).entry column = false := by
  rw [isFlagged, List.any_eq_false]
  intro c member
  obtain ⟨d, -, rfl⟩ := List.mem_map.mp member
  by_cases same : d.name = column <;> simp [same]

theorem check_dropped (t : Table) (column : String) (check : ConstraintInfo)
    (lone : t.entry.notNullChecks column = [check]) :
    (t.withoutConstraint check.name).entry.notNullChecks column = [] :=
  Table.sole_removed HeldConstraint.toConstraintInfo ConstraintInfo.name _ t.constraints check lone

theorem check_present (t : Table) (column : String) (check : ConstraintInfo)
    (lone : t.entry.notNullChecks column = [check]) : t.hasConstraint check.name = true := by
  have stands : check ∈ t.entry.notNullChecks column := lone ▸ List.mem_cons_self
  obtain ⟨held, inside, same⟩ := List.mem_map.mp (List.mem_filter.mp stands).1
  exact List.any_eq_true.mpr ⟨held, inside, by simp [← same]⟩

theorem drop_not_null_plan (t : Table) (column : String)
    (lone : (t.entry.notNullChecks column).length ≤ 1) :
    (t.entry.notNullChecks column = [] ∧
      dropNotNull t.name column (some t.entry) = .ok [.alter t.name (.dropNotNull column)]) ∨
    ∃ check, t.entry.notNullChecks column = [check] ∧
      dropNotNull t.name column (some t.entry) = .ok [.dropConstraint t.name check.name] := by
  match found : t.entry.notNullChecks column with
  | [] => exact .inl ⟨rfl, by simp [dropNotNull, notNullCheck, found, Except.map]⟩
  | [check] => exact .inr ⟨check, rfl, by simp [dropNotNull, notNullCheck, found, Except.map]⟩
  | _ :: _ :: _ => simp [found] at lone

-- The check goes in any case. The flag goes unless there was a check as well, for which it is taken to
-- be down already.
theorem drop_not_null_admits_iff (t : Table) (column : String) (decision : Decision) (caps : ServerCaps)
    (catalog : Catalog) (present : t.hasColumn column = true)
    (lone : (t.entry.notNullChecks column).length ≤ 1) (listed : catalog.table? t.name = some t.entry) :
    ∃ planned final, forCatalog (.dropNotNull t.name column) decision caps catalog = .ok planned ∧
      t.runStrictly server planned = some final ∧ final.entry.notNullChecks column = [] ∧
      (admitsNulls final.entry column = true ↔
        isFlagged t.entry column = false ∨ t.entry.notNullChecks column = []) := by
  have plan : forCatalog (.dropNotNull t.name column) decision caps catalog =
      dropNotNull t.name column (some t.entry) := by
    rw [for_catalog, Operation.table, listed]
    rfl
  rw [plan]
  rcases drop_not_null_plan t column lone with ⟨none, planned⟩ | ⟨check, found, planned⟩
  · have lowers := alter_accepted server t (t.withNotNull [column] false) (.dropNotNull column)
      (by simp [TableAction.effect, present])
    have unchecked : (t.withNotNull [column] false).entry.notNullChecks column = [] := none
    refine ⟨_, t.withNotNull [column] false, planned, strict_run_next server _ _ _ [] lowers, unchecked, ?_⟩
    rw [admitsNulls, flag_lowered, unchecked]
    exact ⟨fun _ => .inr none, fun _ => rfl⟩
  · have drops := alter_accepted server t (t.withoutConstraint check.name) (.dropConstraint check.name)
      (by simp [TableAction.effect, check_present t column check found])
    have unchecked := check_dropped t column check found
    have flag : isFlagged (t.withoutConstraint check.name).entry column = isFlagged t.entry column := rfl
    refine ⟨_, t.withoutConstraint check.name, planned, strict_run_next server _ _ _ [] drops, unchecked, ?_⟩
    rw [admitsNulls, unchecked, flag, found]
    simp

theorem helper_dropped :
    let server : Server := ⟨fun _ => [], fun _ => Table.keyIndex "" [] false, fun _ _ _ => ""⟩
    let t : Table := ⟨"orders", [⟨⟨"total_notnull", .check, ["total"], true, none⟩, .check "\"total\" IS NOT NULL"⟩],
      [], [⟨"total", "integer", false⟩]⟩
    let op := Operation.dropNotNull "orders" "total"
    let decision := judge op .default .default .unknown
    t.hasColumn "total" = true ∧ (t.entry.notNullChecks "total").length = 1 ∧
      ∃ planned final, forCatalog op decision .default { tables := [("orders", t.entry)] } = .ok planned ∧
        t.runStrictly server planned = some final ∧ admitsNulls final.entry "total" = true := by
  intro server t op decision
  have lone : (t.entry.notNullChecks "total").length = 1 := by decide +kernel
  obtain ⟨planned, final, made, ran, -, admits⟩ := drop_not_null_admits_iff server t "total" decision .default
    { tables := [("orders", t.entry)] } rfl (Nat.le_of_eq lone) rfl
  exact ⟨rfl, lone, planned, final, made, ran, admits.mpr (.inl rfl)⟩

-- A run on the way to NOT NULL that stops before its last statement leaves the flag and the check. The
-- way back then drops the check, and the flag remains.
theorem flag_outlives_helper :
    let server : Server := ⟨fun _ => [], fun _ => Table.keyIndex "" [] false, fun _ _ _ => ""⟩
    let t : Table := ⟨"orders", [], [], [⟨"total", "integer", false⟩]⟩
    let decision : Decision := ⟨.unsafeFixable, some .constraintAssisted⟩
    ∃ before last s planned final,
      forCatalog (.setNotNull "orders" "total") decision .default { tables := [("orders", t.entry)] } =
        .ok (before ++ [last]) ∧
      t.runStrictly server before = some s ∧ (s.entry.notNullChecks "total").length = 1 ∧
      forCatalog (.dropNotNull "orders" "total") decision .default { tables := [("orders", s.entry)] } = .ok planned ∧
      s.runStrictly server planned = some final ∧ admitsNulls final.entry "total" = false := by
  intro server t decision
  let helper := notNullHelper "orders" "total"
  let s := (t.withConstraint (notNullRule "orders" "total")).withNotNull ["total"] true
  have planned : forCatalog (.setNotNull "orders" "total") decision .default { tables := [("orders", t.entry)] } =
      .ok ([.alter "orders" (.addConstraint helper (.notNull "total") true), .validate "orders" helper,
        .alter "orders" (.setNotNull "total")] ++ [.dropConstraint "orders" helper]) := rfl
  have ran : t.runStrictly server [.alter "orders" (.addConstraint helper (.notNull "total") true),
      .validate "orders" helper, .alter "orders" (.setNotNull "total")] = some s := by
    decide +kernel
  have stands : s.entry.notNullChecks "total" = [(notNullRule "orders" "total").toConstraintInfo] := by
    decide +kernel
  have drops : s.runStrictly server [.dropConstraint "orders" helper] = some (t.withNotNull ["total"] true) := by
    decide +kernel
  have back : forCatalog (.dropNotNull "orders" "total") decision .default { tables := [("orders", s.entry)] } =
      .ok [.dropConstraint "orders" helper] := by
    change dropNotNull "orders" "total" (some s.entry) = _
    rw [dropNotNull, notNullCheck, stands]
    rfl
  exact ⟨_, _, s, _, _, planned, ran, congrArg List.length stands, back, drops, rfl⟩

theorem letter_no_digit (c : Char) (letter : startsIdentifier c = true) : Text.isDigit c = false := by
  simp only [startsIdentifier, Text.isLetter, Text.isDigit, Bool.or_eq_true, Bool.and_eq_true, decide_eq_true_eq,
    beq_iff_eq, Char.le_def, UInt32.le_iff_toNat_le, Bool.and_eq_false_iff, decide_eq_false_iff_not] at letter ⊢
  rcases letter with (⟨low, -⟩ | ⟨low, -⟩) | same
  · right
    exact fun high => absurd (Nat.le_trans low high) (by decide)
  · right
    exact fun high => absurd (Nat.le_trans low high) (by decide)
  · right
    rw [same]
    decide

theorem plain_start (name : String) (plain : isPlainIdentifier name = true) :
    ∃ first others, name.toList = first :: others ∧ ObjectName.startsBadly [first] = (first == '_') := by
  rw [isPlainIdentifier] at plain
  split at plain
  · cases plain
  · rename_i first others spelled
    rw [Bool.and_eq_true, Bool.and_eq_true] at plain
    refine ⟨first, others, spelled, ?_⟩
    rw [ObjectName.startsBadly, letter_no_digit first plain.1.1, Bool.or_false]

-- The name of a helper ends as such names do unless it exceeds the limit and starts with an underscore.
theorem helper_ends_iff (table column : String) (plain : isPlainIdentifier table = true) :
    Text.endsWith "_notnull" (notNullHelper table column) = true ↔
      table.length + column.length ≤ 45 ∨ table.toList.head? ≠ some '_' := by
  obtain ⟨first, others, spelled, start⟩ := plain_start table plain
  have kept := ObjectName.suffix_kept_iff table [column] column.toList first others '_' "notnull".toList
    (by decide) (by decide)
  have size : ObjectName.overruns (first :: others) column.toList
      (ObjectName.digest table [column] ++ "_notnull".toList) = decide (45 < table.length + column.length) := by
    have suffix : "_notnull".toList.length = 8 := by decide
    have name : (first :: others).length = table.length := by rw [← spelled, String.length_toList]
    rw [ObjectName.overruns, ObjectName.maxLength, decide_eq_decide]
    simp only [List.length_append, List.length_cons, ObjectName.digest_length, String.length_toList, suffix] at name ⊢
    omega
  have name : (notNullHelper table column).toList =
      ObjectName.assemble (first :: others) column.toList (ObjectName.digest table [column] ++ "_notnull".toList) := by
    rw [← spelled]
    exact String.toList_ofList
  rw [Text.endsWith, List.isSuffixOf_iff_suffix, name]
  refine kept.trans ?_
  change (ObjectName.overruns (first :: others) column.toList
    (ObjectName.digest table [column] ++ "_notnull".toList) && _) = false ↔ _
  rw [size, start, spelled]
  rw [← Nat.not_lt]
  by_cases exceeds : 45 < table.length + column.length <;> simp [exceeds]

-- The plan of NOT NULL on a server that would scan leaves the helper, and the way back drops it exactly
-- where its name can be recognized.
theorem helper_round_trip_iff (t : Table) (column : String) (decision : Decision) (caps : ServerCaps)
    (catalog later : Catalog) (plain : isPlainIdentifier t.name = true)
    (assisted : decision.notNull = some .constraintAssisted) (scans : caps.version < 120000)
    (bare : t.constraints = []) (listed : catalog.table? t.name = some t.entry)
    (shown : later.table? t.name = some (t.withConstraint (notNullRule t.name column)).entry) :
    ∃ steps, forCatalog (.setNotNull t.name column) decision caps catalog = .ok steps ∧
      t.runStrictly server steps = some (if (t.entry.column? column).any (·.notNull) then t
        else t.withConstraint (notNullRule t.name column)) ∧
      (forCatalog (.dropNotNull t.name column) decision caps later =
          .ok [.dropConstraint t.name (notNullHelper t.name column)] ↔
        t.name.length + column.length ≤ 45 ∨ t.name.toList.head? ≠ some '_') := by
  have free : t.hasConstraint (notNullHelper t.name column) = false := by
    rw [Table.hasConstraint, bare]
    rfl
  have unchecked : caps.setNotNullUsesCheck = false := by
    rw [ServerCaps.setNotNullUsesCheck, decide_eq_false_iff_not]
    exact UInt32.not_le.mpr scans
  have there : forCatalog (.setNotNull t.name column) decision caps catalog =
      .ok (if (t.entry.column? column).any (·.notNull) then []
        else addNotValid (some t.entry) t.name (notNullHelper t.name column) (.notNull column)) := by
    rw [for_catalog, Operation.table, listed, steps, assisted]
    simp [setNotNull, isNotNullDone, adoptNotNull, unchecked, (t.constraint_absent_iff _).mpr free]
  have adding := (add_not_valid_resumable server t (notNullRule t.name column) (.notNull column) free
    fun _ => rfl).finishes t (.inl (.inl rfl))
  have found : (t.withConstraint (notNullRule t.name column)).entry.notNullChecks column =
      if Text.endsWith "_notnull" (notNullHelper t.name column) then [(notNullRule t.name column).toConstraintInfo]
      else [] := by
    simp [TableEntry.notNullChecks, Table.entry, Table.withConstraint, bare, notNullRule, List.filter_cons]
  have back : forCatalog (.dropNotNull t.name column) decision caps later =
      dropNotNull t.name column (some (t.withConstraint (notNullRule t.name column)).entry) := by
    rw [for_catalog, Operation.table, shown]
    rfl
  refine ⟨_, there, ?_, ?_⟩
  · split
    · rfl
    · exact adding
  · rw [back, dropNotNull, notNullCheck, found, ← helper_ends_iff t.name column plain]
    cases Text.endsWith "_notnull" (notNullHelper t.name column) with
    | true => exact ⟨fun _ => rfl, fun _ => rfl⟩
    | false =>
        refine ⟨fun same => ?_, fun ends => ?_⟩
        · cases same
        · cases ends

theorem shortened_helper_found :
    let server : Server := ⟨fun _ => [], fun _ => Table.keyIndex "" [] false, fun _ _ _ => ""⟩
    let t : Table := ⟨"customer_account_change_history", [], [], [⟨"settlement_date", "date", false⟩]⟩
    let s := t.withConstraint (notNullRule t.name "settlement_date")
    let decision : Decision := ⟨.unsafeFixable, some .constraintAssisted⟩
    let caps : ServerCaps := ⟨110000, false⟩
    isPlainIdentifier t.name = true ∧ caps.version < 120000 ∧ 45 < t.name.length + "settlement_date".length ∧
      ∃ steps, forCatalog (.setNotNull t.name "settlement_date") decision caps { tables := [(t.name, t.entry)] } =
          .ok steps ∧
        t.runStrictly server steps = some s ∧
        forCatalog (.dropNotNull t.name "settlement_date") decision caps { tables := [(t.name, s.entry)] } =
          .ok [.dropConstraint t.name (notNullHelper t.name "settlement_date")] := by
  intro server t s decision caps
  obtain ⟨steps, planned, ran, returns⟩ := helper_round_trip_iff server t "settlement_date" decision caps
    { tables := [(t.name, t.entry)] } { tables := [(t.name, s.entry)] } (by decide) rfl (by decide) rfl rfl rfl
  exact ⟨by decide, by decide, by decide, steps, planned, ran, returns.mpr (.inr (by decide))⟩

-- A shortened name that starts with an underscore gets a letter in front and loses its last character.
-- The helper is then not recognized, and the statement is that of the flag, which is down.
theorem underscored_helper_missed :
    let server : Server := ⟨fun _ => [], fun _ => Table.keyIndex "" [] false, fun _ _ _ => ""⟩
    let t : Table := ⟨"_customer_account_change_history", [], [], [⟨"settlement_date", "date", false⟩]⟩
    let s := t.withConstraint (notNullRule t.name "settlement_date")
    let decision : Decision := ⟨.unsafeFixable, some .constraintAssisted⟩
    let caps : ServerCaps := ⟨110000, false⟩
    let helper := "D_customer_account_chan_settlement_date_a66410a3_notnul"
    isPlainIdentifier t.name = true ∧ isPlainIdentifier "settlement_date" = true ∧
      forCatalog (.setNotNull t.name "settlement_date") decision caps { tables := [(t.name, t.entry)] } =
        .ok [.alter t.name (.addConstraint helper (.notNull "settlement_date") true), .validate t.name helper] ∧
      t.runStrictly server [.alter t.name (.addConstraint helper (.notNull "settlement_date") true),
        .validate t.name helper] = some s ∧
      forCatalog (.dropNotNull t.name "settlement_date") decision caps { tables := [(t.name, s.entry)] } =
        .ok [.alter t.name (.dropNotNull "settlement_date")] ∧
      .alter t.name (.dropNotNull "settlement_date") ≠ Step.dropConstraint t.name helper := by
  intro server t s decision caps helper
  have named : notNullHelper t.name "settlement_date" = helper := by decide +kernel
  have there : forCatalog (.setNotNull t.name "settlement_date") decision caps { tables := [(t.name, t.entry)] } =
      .ok [.alter t.name (.addConstraint helper (.notNull "settlement_date") true), .validate t.name helper] := by
    rw [← named]
    rfl
  have ran : t.runStrictly server [.alter t.name (.addConstraint helper (.notNull "settlement_date") true),
      .validate t.name helper] = some s := by
    decide +kernel
  have missed : s.entry.notNullChecks "settlement_date" = [] := by decide +kernel
  have back : forCatalog (.dropNotNull t.name "settlement_date") decision caps { tables := [(t.name, s.entry)] } =
      .ok [.alter t.name (.dropNotNull "settlement_date")] := by
    change dropNotNull t.name "settlement_date" (some s.entry) = _
    rw [dropNotNull, notNullCheck, missed]
    rfl
  exact ⟨by decide, by decide, there, ran, back, by decide⟩

end OnlineDdl.Stepwise
