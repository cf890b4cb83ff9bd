import OnlineDdl.Proofs.Json.RoundTrip
import OnlineDdl.Proofs.Wire.Format

/-! The wire formats as a whole. What is written is read back as it was. What is read is written under the
names and with the defaults of its table, whatever it was read from. -/

set_option autoImplicit false

namespace OnlineDdl

namespace Shape

theorem text_told (j : Json) (s : String) (told : text j = some (.string s)) : j = .string s := by
  cases j with
  | string _ => exact Option.some.inj told
  | _ => cases told

theorem required_text (given : List Json) (s : String) (told : given? none text given = some (.string s)) :
    given = [.string s] := by
  match given, told with
  | [j], told => rw [text_told j s told]

theorem tag_outside (words : List String) (t : Json) (word : String) (meant : tagWord false words t = some word) :
    t = .string word := by
  cases t with
  | string _ => exact congrArg Json.string (Option.some.inj meant)
  | number n => cases n <;> cases meant
  | _ => cases meant

end Shape

namespace Operation

theorem tagged_format : TaggedFormat toJson ofJson? false "type" variants :=
  format.tagged_format (by decide) (by decide)

theorem begins_with_table (word : String) (fields : List FieldShape) (listed : (word, fields) ∈ variants) :
    ∃ rest, fields = .required "table" .text :: rest := by
  obtain ⟨⟨type, rest⟩, -, same⟩ := List.mem_map.mp listed
  exact ⟨rest, (congrArg Prod.snd same).symm⟩

theorem told_apart (given : Fields) (op : Operation) (read : ofJson? (.object given) = some op) :
    given.under "type" = [.string op.kindName] ∧ given.under "table" = [.string op.table] := by
  obtain ⟨t, word, fields, written, once, meant, listed, filled, same⟩ := tagged_format.tagged given op read
  obtain ⟨rest, rfl⟩ := begins_with_table word fields listed
  obtain ⟨table, first, others⟩ := Option.bind_eq_some_iff.mp filled
  obtain ⟨more, -, rfl⟩ := Option.map_eq_some_iff.mp others
  rw [toJson, Json.object.injEq, List.cons.injEq, List.cons.injEq] at same
  obtain ⟨typed, named, -⟩ := same
  obtain rfl := Shape.tag_outside _ t word meant
  obtain rfl := (Prod.mk.inj named).2
  exact ⟨(Prod.mk.inj typed).2 ▸ once, Shape.required_text _ _ first⟩

end Operation

namespace ConstraintDef

theorem tagged_format : TaggedFormat toJson ofJson? true "kind" variants :=
  format.tagged_format (by decide) (by decide)

theorem told_apart (given : Fields) (c : ConstraintDef) (read : ofJson? (.object given) = some c) :
    ∃ t, given.under "kind" = [t] ∧ Shape.tagWord true (variants.map (·.1)) t = some c.kind.word := by
  obtain ⟨t, word, fields, written, once, meant, -, -, same⟩ := tagged_format.tagged given c read
  rw [toJson, Json.object.injEq, List.cons.injEq] at same
  have kind : c.kind.word = word := Json.string.inj (Prod.mk.inj same.1).2
  exact ⟨t, once, kind ▸ meant⟩

end ConstraintDef

theorem Catalog.last_entry (given : Fields) (catalog : Catalog) (read : ofJson? (.object given) = some catalog)
    (table : String) : catalog.table? table = (given.under table).getLast?.bind TableEntry.ofJson? := by
  obtain ⟨entries, told, rfl⟩ := Option.map_eq_some_iff.mp read
  have each := congrArg List.getLast? (Format.entries_under given entries told table)
  rw [List.getLast?_map, List.getLast?_map] at each
  rw [table?, ofEntries, Entries.lookup_gathered, List.getLast?_map]
  cases given : (Fields.under given table).getLast? with
  | none => rw [given] at each; rw [Option.map_eq_none_iff.mp each.symm]; rfl
  | some j =>
      rw [given] at each
      obtain ⟨last, found, same⟩ := Option.map_eq_some_iff.mp each.symm
      rw [found]
      exact same

structure WireFormats : Prop where
  operation : TaggedFormat Operation.toJson Operation.ofJson? false "type" Operation.variants
  column : RecordFormat ColumnDef.toJson ColumnDef.ofJson? ColumnDef.fields
  reference : RecordFormat ForeignKeyRef.toJson ForeignKeyRef.ofJson? ForeignKeyRef.fields
  constraint : TaggedFormat ConstraintDef.toJson ConstraintDef.ofJson? true "kind" ConstraintDef.variants
  index : RecordFormat IndexDef.toJson IndexDef.ofJson? IndexDef.fields
  config : RecordFormat PlannerConfig.toJson PlannerConfig.ofJson? PlannerConfig.fields
  sessionDefaults : RecordFormat SessionDefaults.toJson SessionDefaults.ofJson? SessionDefaults.fields
  server : RecordFormat ServerCaps.toJson ServerCaps.ofJson? ServerCaps.fields
  catalog : RoundTrips Catalog.toJson Catalog.ofJson? Catalog.shape
  entry : RecordFormat TableEntry.toJson TableEntry.ofJson? TableEntry.fields
  listedConstraint : RecordFormat ConstraintInfo.toJson ConstraintInfo.ofJson? ConstraintInfo.fields
  listedIndex : RecordFormat IndexInfo.toJson IndexInfo.ofJson? IndexInfo.fields
  listedColumn : RecordFormat ColumnInfo.toJson ColumnInfo.ofJson? ColumnInfo.fields
  plan : RoundTrips Plan.toJson Plan.ofJson? Plan.shape
  statement : RecordFormat Statement.toJson Statement.ofJson? Statement.fields
  -- The two tags are not taken for each other, nor for a field of their own name.
  operationTag : ∀ given op, Operation.ofJson? (.object given) = some op →
    Fields.under given "type" = [.string op.kindName] ∧ Fields.under given "table" = [.string op.table]
  constraintTag : ∀ given c, ConstraintDef.ofJson? (.object given) = some c → ∃ t,
    Fields.under given "kind" = [t] ∧ Shape.tagWord true (ConstraintDef.variants.map (·.1)) t = some c.kind.word
  lastEntry : ∀ given catalog, Catalog.ofJson? (.object given) = some catalog → ∀ table,
    catalog.table? table = (Fields.under given table).getLast?.bind TableEntry.ofJson?

theorem wire_formats_round_trip : WireFormats where
  operation := Operation.tagged_format
  column := ColumnDef.format.record_format (by decide)
  reference := ForeignKeyRef.format.record_format (by decide)
  constraint := ConstraintDef.tagged_format
  index := IndexDef.format.record_format (by decide)
  config := PlannerConfig.format.record_format (by decide)
  sessionDefaults := SessionDefaults.format.record_format (by decide)
  server := ServerCaps.format.record_format (by decide)
  catalog := Catalog.format.round_trips
  entry := TableEntry.format.record_format (by decide)
  listedConstraint := ConstraintInfo.format.record_format (by decide)
  listedIndex := IndexInfo.format.record_format (by decide)
  listedColumn := ColumnInfo.format.record_format (by decide)
  plan := Plan.format.round_trips
  statement := Statement.format.record_format (by decide)
  operationTag := Operation.told_apart
  constraintTag := ConstraintDef.told_apart
  lastEntry := Catalog.last_entry

example : (Json.parse? "\x7b\"table\":\"orders\",\"type\":\"drop_table\"\x7d").bind Operation.ofJson? =
    some (.dropTable "orders" true) := by decide +kernel

end OnlineDdl
