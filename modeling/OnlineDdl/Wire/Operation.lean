import OnlineDdl.Change.Operation
import OnlineDdl.Wire.Constraint
import OnlineDdl.Wire.Index

/-! Operations as JSON; the field `type` says which they are. -/

set_option autoImplicit false

namespace OnlineDdl

open Record (required optional defaulted)

def TogetherKind.toJson : TogetherKind → Json
  | .unique => .string "unique"
  | .index => .string "index"

def TogetherKind.words : List (String × TogetherKind) :=
  [("unique", .unique), ("index", .index)]

def TogetherKind.ofJson? : Json → Option TogetherKind := Json.oneOf true words

def groupsToJson (groups : List (List String)) : Json := .array (groups.map Json.strings)

def groupsOfJson? (j : Json) : Option (List (List String)) := j.list? Json.strings?

namespace Operation

def payload : Operation → Fields
  | .createTable _ columns => [("columns", .array (columns.map ColumnDef.toJson))]
  | .dropTable _ cascade => [("cascade", .bool cascade)]
  | .renameTable _ newName => [("newName", .string newName)]
  | .setTablespace _ tablespace => [("tablespace", .string tablespace)]
  | .addColumn _ column => [("column", column.toJson)]
  | .dropColumn _ column cascade => [("column", .string column), ("cascade", .bool cascade)]
  | .renameColumn _ column newName => [("column", .string column), ("newName", .string newName)]
  | .alterColumnType _ column fromType toType conversion =>
    [("column", .string column), ("fromType", .string fromType), ("toType", .string toType),
      ("using", .nullable .string conversion)]
  | .setNotNull _ column => [("column", .string column)]
  | .dropNotNull _ column => [("column", .string column)]
  | .addConstraint _ constraint => [("constraint", constraint.toJson)]
  | .dropConstraint _ name columns kind =>
    [("name", .nullable .string name), ("columns", .strings columns),
      ("kind", .nullable ConstraintKind.toJson kind)]
  | .addIndex _ index => [("index", index.toJson)]
  | .dropIndex _ name columns =>
    [("name", .nullable .string name), ("columns", .strings columns)]
  | .alterTogether _ kind add remove =>
    [("kind", kind.toJson), ("add", groupsToJson add), ("remove", groupsToJson remove)]

def toJson (op : Operation) : Json :=
  .object (("type", .string op.kindName) :: ("table", .string op.table) :: op.payload)

def records : List (String × Record Operation) :=
  [("create_table",
      .createTable <$> required "table" Json.string?
        <*> required "columns" (Json.list? ColumnDef.ofJson?)),
    ("drop_table",
      .dropTable <$> required "table" Json.string? <*> defaulted "cascade" true Json.bool?),
    ("rename_table",
      .renameTable <$> required "table" Json.string? <*> required "newName" Json.string?),
    ("set_tablespace",
      .setTablespace <$> required "table" Json.string? <*> required "tablespace" Json.string?),
    ("add_column",
      .addColumn <$> required "table" Json.string? <*> required "column" ColumnDef.ofJson?),
    ("drop_column",
      .dropColumn <$> required "table" Json.string? <*> required "column" Json.string?
        <*> defaulted "cascade" true Json.bool?),
    ("rename_column",
      .renameColumn <$> required "table" Json.string? <*> required "column" Json.string?
        <*> required "newName" Json.string?),
    ("alter_column_type",
      .alterColumnType <$> required "table" Json.string? <*> required "column" Json.string?
        <*> required "fromType" Json.string? <*> required "toType" Json.string?
        <*> optional "using" Json.string?),
    ("set_not_null",
      .setNotNull <$> required "table" Json.string? <*> required "column" Json.string?),
    ("drop_not_null",
      .dropNotNull <$> required "table" Json.string? <*> required "column" Json.string?),
    ("add_constraint",
      .addConstraint <$> required "table" Json.string?
        <*> required "constraint" ConstraintDef.ofJson?),
    ("drop_constraint",
      .dropConstraint <$> required "table" Json.string? <*> optional "name" Json.string?
        <*> defaulted "columns" [] Json.strings? <*> optional "kind" ConstraintKind.ofContent?),
    ("add_index",
      .addIndex <$> required "table" Json.string? <*> required "index" IndexDef.ofJson?),
    ("drop_index",
      .dropIndex <$> required "table" Json.string? <*> optional "name" Json.string?
        <*> defaulted "columns" [] Json.strings?),
    ("alter_columns_together",
      .alterTogether <$> required "table" Json.string? <*> required "kind" TogetherKind.ofJson?
        <*> defaulted "add" [] groupsOfJson? <*> defaulted "remove" [] groupsOfJson?)]

def ofJson? : Json → Option Operation := Json.variant? false "type" records

end Operation

end OnlineDdl
