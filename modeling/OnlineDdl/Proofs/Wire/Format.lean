import OnlineDdl.Proofs.Entries
import OnlineDdl.Proofs.Json.Tagged
import OnlineDdl.Proofs.Wire.Shape
import OnlineDdl.Wire.Catalog
import OnlineDdl.Wire.Config
import OnlineDdl.Wire.Operation
import OnlineDdl.Wire.Plan

/-! The types of requests and plans, each read back from what it is written as, and written as its table says
whatever it is read from. -/

set_option autoImplicit false

namespace OnlineDdl

open Format (string bool strings uint32 uint64)

theorem PatternOps.format : Format toJson ofJson? (.word true ["varchar", "text"]) :=
  .word true words (by simp [words, toJson]) fun ops => by cases ops <;> exact ⟨_, rfl, rfl⟩

theorem IndexMethod.format :
    Format toJson ofJson? (.word true ["btree", "hash", "gist", "spgist", "gin", "brin"]) :=
  .word true words (by simp [words, toJson, word]) fun method => by cases method <;> exact ⟨_, rfl, rfl⟩

theorem ConstraintKind.format : Format toJson ofJson? (shape false) :=
  .word false words (by simp [words, toJson, word]) fun kind => by cases kind <;> exact ⟨_, rfl, rfl⟩

theorem ConstraintKind.content_format : Format toJson ofContent? (shape true) :=
  .word true words (by simp [words, toJson, word]) fun kind => by cases kind <;> exact ⟨_, rfl, rfl⟩

theorem Deferrable.format : Format toJson ofJson? (.word true ["deferred", "immediate"]) :=
  .word true words (by simp [words, toJson]) fun d => by cases d <;> exact ⟨_, rfl, rfl⟩

theorem TogetherKind.format : Format toJson ofJson? (.word true ["unique", "index"]) :=
  .word true words (by simp [words, toJson]) fun kind => by cases kind <;> exact ⟨_, rfl, rfl⟩

theorem TimeoutClass.format : Format toJson ofJson? (.word false ["wrapped", "flexible_wrapped", "unwrapped"]) :=
  .word false words (by simp [words, toJson]) fun c => by cases c <;> exact ⟨_, rfl, rfl⟩

theorem StatementRole.format : Format toJson ofJson? (.word false ["ddl", "timeout_set", "timeout_reset"]) :=
  .word false words (by simp [words, toJson]) fun role => by cases role <;> exact ⟨_, rfl, rfl⟩

theorem NotNullMode.word_told (j : Json) : (j.oneOf false plainWords).map toJson =
    Shape.word false ["never", "always_use_constraint", "pg_attribute_update_for_superuser"] j :=
  Format.word_told false plainWords (by simp [plainWords, toJson]) j

theorem NotNullMode.format : Format toJson ofJson? shape := by
  refine ⟨fun mode => ?_, fun mode => ?_, fun j => ?_⟩
  · cases mode with
    | sizeThreshold rows => exact congrArg (Option.map sizeThreshold) (uint64.back rows)
    | _ => rfl
  · cases mode <;> nofun
  · by_cases threshold : ∃ rows, j = .object [("size_threshold", rows)]
    · obtain ⟨rows, rfl⟩ := threshold
      have read : (rows.uint64?).map (fun rows => toJson (sizeThreshold rows)) =
          (Shape.whole UInt64.size rows).map fun rows => .object [("size_threshold", rows)] := by
        rw [← uint64.told rows, Option.map_map]
        rfl
      exact (Option.map_map _ _ _).trans read
    · have other (rows : Json) : j ≠ .object [("size_threshold", rows)] := fun same => threshold ⟨rows, same⟩
      rw [ofJson?.eq_2 j other, shape.eq_2 j other, word_told]

theorem ForeignKeyRef.format : Format toJson ofJson? shape :=
  (((string.required "table").map mk).seq (string.required "column") |>.seq (string.optional "name")
    |>.seq (string.optional "onDelete") |>.seq (bool.defaulted "deferrable" true)).format
    (by decide) (fun _ => rfl) fun fk => by simp [string.back, bool.back, string.optional_back]

theorem ColumnDef.format : Format toJson ofJson? shape :=
  (((string.required "name").map mk).seq (string.required "dataType") |>.seq (bool.defaulted "nullable" true)
    |>.seq (string.optional "default") |>.seq (bool.defaulted "volatileDefault" false)
    |>.seq (bool.defaulted "keepDefault" false) |>.seq (bool.defaulted "primaryKey" false)
    |>.seq (bool.defaulted "unique" false) |>.seq (bool.defaulted "index" false)
    |>.seq (ForeignKeyRef.format.optional "references")).format
    (by decide) (fun _ => rfl) fun c => by
      simp [string.back, bool.back, string.optional_back, ForeignKeyRef.format.optional_back]

theorem IndexDef.format : Format toJson ofJson? shape :=
  (((string.optional "name").map mk).seq (strings.required "columns") |>.seq (strings.defaulted "opclasses" [])
    |>.seq (bool.defaulted "unique" false) |>.seq (IndexMethod.format.optional "method")
    |>.seq (string.optional "condition") |>.seq (bool.defaulted "concurrently" false)
    |>.seq (PatternOps.format.optional "patternOps")).format
    (by decide) (fun _ => rfl) fun d => by
      simp [strings.back, bool.back, string.optional_back, IndexMethod.format.optional_back,
        PatternOps.format.optional_back]

theorem ConstraintDef.tells : List.Forall₂ (Record.Tells "kind" toJson) records variants :=
  .cons ((((string.optional "name").map check).seq (strings.defaulted "columns" [])
    |>.seq (string.required "expression")).tells "check" (by decide) fun _ => rfl) <|
  .cons ((((string.optional "name").map unique).seq (strings.required "columns")
    |>.seq (string.optional "condition") |>.seq (Deferrable.format.optional "deferrable")).tells "unique"
      (by decide) fun _ => rfl) <|
  .cons ((((string.optional "name").map primaryKey).seq (strings.required "columns")).tells "primary_key"
    (by decide) fun _ => rfl) <|
  .cons ((((string.optional "name").map foreignKey).seq (strings.required "columns")
    |>.seq (string.required "referencesTable") |>.seq (strings.required "referencesColumns")
    |>.seq (string.optional "onDelete") |>.seq (bool.defaulted "deferrable" true)).tells "foreign_key"
      (by decide) fun _ => rfl) <|
  .cons ((((string.required "name").map exclusion).seq (string.required "expression")).tells "exclusion"
    (by decide) fun _ => rfl) .nil

theorem ConstraintDef.format : Format toJson ofJson? shape := by
  refine ⟨fun c => ?_, fun _ => nofun, Shape.tagged_told tells (by decide) true⟩
  cases c <;> refine (Json.variant_back true "kind" _ records _ _ rfl (by simp [payload])).trans ?_ <;>
    simp [payload, string.back, strings.back, bool.back, string.optional_back, Deferrable.format.optional_back]

theorem groups_format : Format groupsToJson groupsOfJson? Shape.text.list.list := strings.list

theorem Operation.tells : List.Forall₂ (Record.Tells "type" toJson) records variants :=
  .cons ((((string.required "table").map createTable).seq (ColumnDef.format.list.required "columns")).tells
    "create_table" (by decide) fun _ => rfl) <|
  .cons ((((string.required "table").map dropTable).seq (bool.defaulted "cascade" true)).tells
    "drop_table" (by decide) fun _ => rfl) <|
  .cons ((((string.required "table").map renameTable).seq (string.required "newName")).tells
    "rename_table" (by decide) fun _ => rfl) <|
  .cons ((((string.required "table").map setTablespace).seq (string.required "tablespace")).tells
    "set_tablespace" (by decide) fun _ => rfl) <|
  .cons ((((string.required "table").map addColumn).seq (ColumnDef.format.required "column")).tells
    "add_column" (by decide) fun _ => rfl) <|
  .cons ((((string.required "table").map dropColumn).seq (string.required "column")
    |>.seq (bool.defaulted "cascade" true)).tells "drop_column" (by decide) fun _ => rfl) <|
  .cons ((((string.required "table").map renameColumn).seq (string.required "column")
    |>.seq (string.required "newName")).tells "rename_column" (by decide) fun _ => rfl) <|
  .cons ((((string.required "table").map alterColumnType).seq (string.required "column")
    |>.seq (string.required "fromType") |>.seq (string.required "toType") |>.seq (string.optional "using")).tells
      "alter_column_type" (by decide) fun _ => rfl) <|
  .cons ((((string.required "table").map setNotNull).seq (string.required "column")).tells
    "set_not_null" (by decide) fun _ => rfl) <|
  .cons ((((string.required "table").map dropNotNull).seq (string.required "column")).tells
    "drop_not_null" (by decide) fun _ => rfl) <|
  .cons ((((string.required "table").map addConstraint).seq (ConstraintDef.format.required "constraint")).tells
    "add_constraint" (by decide) fun _ => rfl) <|
  .cons ((((string.required "table").map dropConstraint).seq (string.optional "name")
    |>.seq (strings.defaulted "columns" []) |>.seq (ConstraintKind.content_format.optional "kind")).tells
      "drop_constraint" (by decide) fun _ => rfl) <|
  .cons ((((string.required "table").map addIndex).seq (IndexDef.format.required "index")).tells
    "add_index" (by decide) fun _ => rfl) <|
  .cons ((((string.required "table").map dropIndex).seq (string.optional "name")
    |>.seq (strings.defaulted "columns" [])).tells "drop_index" (by decide) fun _ => rfl) <|
  .cons ((((string.required "table").map alterTogether).seq (TogetherKind.format.required "kind")
    |>.seq (groups_format.defaulted "add" []) |>.seq (groups_format.defaulted "remove" [])).tells
      "alter_columns_together" (by decide) fun _ => rfl) .nil

theorem Operation.format : Format toJson ofJson? shape := by
  refine ⟨fun op => ?_, fun _ => nofun, Shape.tagged_told tells (by decide) false⟩
  cases op <;> refine (Json.variant_back false "type" _ records _ _ rfl (by simp [payload])).trans ?_ <;>
    simp [payload, table, string.back, strings.back, bool.back, string.optional_back, ColumnDef.format.back,
      ColumnDef.format.list.back, ConstraintDef.format.back, ConstraintKind.content_format.optional_back,
      IndexDef.format.back, TogetherKind.format.back, groups_format.back]

theorem SessionDefaults.format : Format toJson ofJson? shape :=
  (((string.defaulted "statementTimeout" _).map mk).seq (string.defaulted "lockTimeout" _)).format
    (by decide) (fun _ => rfl) fun d => by simp [string.back]

theorem PlannerConfig.format : Format toJson ofJson? shape :=
  (((uint64.optional "lockTimeoutMs").map mk).seq (uint64.optional "statementTimeoutMs")
    |>.seq (bool.defaulted "flexibleStatementTimeout" _) |>.seq (uint64.defaulted "flexibleStatementTimeoutMs" _)
    |>.seq (bool.defaulted "raiseForUnsafe" _) |>.seq (NotNullMode.format.defaulted "notNullMode" _)
    |>.seq (SessionDefaults.format.defaulted "sessionDefaults" _) |>.seq (uint32.optional "serverVersion")).format
    (by decide) (fun _ => rfl) fun c => by
      simp [bool.back, uint64.back, uint32.optional_back, uint64.optional_back, NotNullMode.format.back,
        SessionDefaults.format.back]

theorem ServerCaps.format : Format toJson ofJson? shape :=
  (((uint32.required "serverVersionNum").map mk).seq (bool.defaulted "cCollation" false)).format
    (by decide) (fun _ => rfl) fun caps => by simp [uint32.back, bool.back]

theorem ConstraintInfo.format : Format toJson ofJson? shape :=
  (((string.required "name").map mk).seq (ConstraintKind.format.required "kind") |>.seq (strings.required "columns")
    |>.seq (bool.defaulted "validated" true) |>.seq (string.optional "index")).format
    (by decide) (fun _ => rfl) fun c => by
      simp [string.back, strings.back, bool.back, string.optional_back, ConstraintKind.format.back]

theorem IndexInfo.format : Format toJson ofJson? shape :=
  (((string.required "name").map mk).seq (strings.required "columns") |>.seq (strings.defaulted "opclasses" [])
    |>.seq (bool.defaulted "unique" false) |>.seq (bool.defaulted "primary" false)
    |>.seq (bool.defaulted "valid" true) |>.seq (bool.defaulted "partitioned" false)
    |>.seq (string.optional "constraint")).format
    (by decide) (fun _ => rfl) fun i => by simp [string.back, strings.back, bool.back, string.optional_back]

theorem ColumnInfo.format : Format toJson ofJson? shape :=
  (((string.required "name").map mk).seq (string.required "dataType") |>.seq (bool.required "notNull")).format
    (by decide) (fun _ => rfl) fun c => by simp [string.back, bool.back]

theorem TableEntry.format : Format toJson ofJson? shape :=
  (((ConstraintInfo.format.list.defaulted "constraints" []).map mk).seq
    (IndexInfo.format.list.defaulted "indexes" []) |>.seq (ColumnInfo.format.list.defaulted "columns" [])).format
    (by decide) (fun _ => rfl) fun entry => by
      simp [ConstraintInfo.format.list.back, IndexInfo.format.list.back, ColumnInfo.format.list.back]

theorem Catalog.format : Format toJson ofJson? shape := by
  refine ⟨fun catalog => ?_, fun _ => nofun, fun j => ?_⟩
  · have told := TableEntry.format.entries_back catalog.tables
    have same := Entries.gathered_same catalog.tables catalog.distinct
    rw [toJson, ofJson?, Json.entries?, Json.fields?, Option.bind_some, told, Option.map_some, ofEntries]
    cases catalog
    simp only [same]
  · cases j with
    | object given =>
        rw [ofJson?, Json.entries?, Json.fields?, Option.bind_some, Option.map_map, shape, Shape.table,
          ← TableEntry.format.entries_told given, Option.map_map]
        refine Option.map_congr fun entries _ => ?_
        exact congrArg Json.object (Entries.gathered_map TableEntry.toJson entries)
    | _ => rfl

theorem Statement.format : Format toJson ofJson? shape :=
  (((string.required "sql").map mk).seq (TimeoutClass.format.required "timeout")
    |>.seq (bool.required "outsideTransaction") |>.seq (StatementRole.format.required "role")).format
    (by decide) (fun _ => rfl) fun s => by
      simp [string.back, bool.back, TimeoutClass.format.back, StatementRole.format.back]

theorem Plan.format : Format toJson ofJson? shape := Statement.format.list

end OnlineDdl
