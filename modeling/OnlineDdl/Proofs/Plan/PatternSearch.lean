import OnlineDdl.Plan.Stepwise
import OnlineDdl.Proofs.Schema.CharacterType

/-! Indexes for pattern searches, which go with the keys and indexes of columns that hold characters. Which
columns these are is told by what the spelling of their type begins with, so that such an index is planned for
other types as well; the server refuses it when the column and its key are there already. -/

set_option autoImplicit false

namespace OnlineDdl

open Text ColumnType PatternOps

namespace Stepwise

variable (find : String → Option TableEntry) (index : IndexSpec)

theorem build_index_creates (spec : IndexSpec)
    (created : .createIndexConcurrently index ∈ buildIndex find spec) : index = spec := by
  rw [buildIndex] at created
  split at created
  · cases List.mem_singleton.mp created
    rfl
  · split at created
    · cases created
    · rcases List.mem_pair.mp created with drops | creates
      · cases drops
      · cases creates
        rfl

theorem add_not_valid_creates (entry : Option TableEntry) (table name : String) (body : ConstraintBody) :
    .createIndexConcurrently index ∉ addNotValid entry table name body := by
  rw [addNotValid]
  split
  · simp [Step.createIndexConcurrently, Step.alter, Step.wrapped, Step.validate, Step.flexible]
  · split <;> simp [Step.createIndexConcurrently, Step.validate, Step.flexible]

theorem add_key_creates (key : Key) (created : .createIndexConcurrently index ∈ addKey find key) :
    index = key.index := by
  rw [addKey, List.mem_append] at created
  rcases created with built | attached
  · exact build_index_creates find index key.index built
  · split at attached
    · cases attached
    · cases List.mem_singleton.mp attached

theorem column_reference_creates (table : String) (column : ColumnDef)
    (created : .createIndexConcurrently index ∈ columnReference table column find) :
    index = .generated table [column.name] := by
  rw [columnReference] at created
  split at created
  · rw [addForeignKey, List.mem_append] at created
    rcases created with built | added
    · split at built
      · cases built
      · exact build_index_creates find index _ built
    · exact absurd added (add_not_valid_creates index (find table) table _ _)
  · split at created
    · exact build_index_creates find index _ created
    · cases created

theorem add_column_searches (table : String) (column : ColumnDef) (caps : ServerCaps)
    (created : .createIndexConcurrently index ∈ addColumn table column caps find)
    (special : index.opclasses ≠ []) : column.patternIndex table caps = some index := by
  rw [addColumn, List.mem_append, List.mem_append, List.mem_append, or_assoc, or_assoc] at created
  rcases created with added | keyed | referring | searched
  · rcases List.mem_cons.mp added with same | dropped
    · cases same
    · rw [Baseline.dropDefault] at dropped
      split at dropped
      · cases List.mem_singleton.mp dropped
      · cases dropped
  · obtain ⟨key, -, built⟩ := List.mem_flatMap.mp keyed
    rw [add_key_creates find index key built] at special
    exact absurd rfl special
  · rw [column_reference_creates find index table column referring] at special
    exact absurd rfl special
  · obtain ⟨spec, member, built⟩ := List.mem_flatMap.mp searched
    rw [build_index_creates find index spec built]
    exact Option.mem_toList.mp member

end Stepwise

-- Where a type is told alike in both ways, its columns get an index for pattern searches if they hold text
-- or characters with a limit, and only then.
theorem character_types_told_alike_iff (t : String) :
    (forType t = (parse t).patternOps ↔
      (∀ rest, tidy (lower t.toList) = "varchar".toList ++ rest → Lengthed rest) ∧
        ∀ rest, tidy (lower t.toList) = "character varying".toList ++ rest →
          (Lengthed rest ↔ "character varying".toList <+: core t)) ∧
      (forType t = some .text ↔ (parse t).patternOps = some .text) ∧
      (forType t = (parse t).patternOps →
        ∀ table column caps find index, column.dataType = t →
          .createIndexConcurrently index ∈ Stepwise.addColumn table column caps find → index.opclasses ≠ [] →
          ∃ ops, (parse t).patternOps = some ops ∧ index = .patternOps table [column.name] ops) := by
  refine ⟨(told_alike_iff t).trans (varchar_told_alike_iff t), text_told_alike t,
    fun alike table column caps find index typed created special => ?_⟩
  have searched := Stepwise.add_column_searches find index table column caps created special
  rw [ColumnDef.patternIndex, ColumnDef.patternOps, typed, alike] at searched
  split at searched
  · obtain ⟨ops, known, same⟩ := Option.map_eq_some_iff.mp searched
    exact ⟨ops, known, same.symm⟩
  · cases searched

theorem limited_column_searched :
    let column := { ColumnDef.plain "code" " VarChar ( 40)" with unique := true }
    let index := IndexSpec.patternOps "orders" ["code"] .varchar
    forType column.dataType = (parse column.dataType).patternOps ∧
      (∀ rest, tidy (lower column.dataType.toList) = "varchar".toList ++ rest → Lengthed rest) ∧
      .createIndexConcurrently index ∈ Stepwise.addColumn "orders" column .default (fun _ => none) ∧
      ∃ ops, (parse column.dataType).patternOps = some ops ∧ index = .patternOps "orders" ["code"] ops := by
  intro column index
  obtain ⟨agree, -, planned⟩ := character_types_told_alike_iff column.dataType
  have alike : forType column.dataType = (parse column.dataType).patternOps := by decide +kernel
  have created : .createIndexConcurrently index ∈ Stepwise.addColumn "orders" column .default (fun _ => none) := by
    decide +kernel
  exact ⟨alike, (agree.mp alike).1, created, planned alike "orders" column .default (fun _ => none) index rfl created (by decide)⟩

-- A column of lists is taken for one of characters, and two spaces hide a name.
theorem list_column_searched :
    let column := { ColumnDef.plain "codes" "varchar(20)[]" with unique := true }
    forType column.dataType = some .varchar ∧ parse column.dataType = .other "varchar(20)[]".toList ∧
      .createIndexConcurrently (.patternOps "orders" ["codes"] .varchar) ∈
        Stepwise.addColumn "orders" column .default (fun _ => none) ∧
      forType "character  varying(20)" = none ∧ parse "character  varying(20)" = .varchar (some 20) ∧
      ¬ ∀ t, forType t = (parse t).patternOps := by
  intro column
  have told : forType column.dataType = some .varchar := by decide +kernel
  have read : parse column.dataType = .other "varchar(20)[]".toList := by decide +kernel
  refine ⟨told, read, by decide +kernel, by decide +kernel, by decide +kernel, fun alike => ?_⟩
  have both := alike column.dataType
  rw [told, read] at both
  cases both

end OnlineDdl
