import OnlineDdl.Proofs.Json.Shape

/-! The wire formats of requests, settings, catalogs and plans: the names of all fields in their order, what
may be left out, and what is meant then. -/

set_option autoImplicit false

namespace OnlineDdl

def ForeignKeyRef.fields : List FieldShape :=
  [.required "table" .text, .required "column" .text, .optional "name" .text, .optional "onDelete" .text,
    .defaulted "deferrable" (.bool true) .flag]

def ForeignKeyRef.shape : Shape := .record fields

def ColumnDef.fields : List FieldShape :=
  [.required "name" .text, .required "dataType" .text, .defaulted "nullable" (.bool true) .flag,
    .optional "default" .text, .defaulted "volatileDefault" (.bool false) .flag,
    .defaulted "keepDefault" (.bool false) .flag, .defaulted "primaryKey" (.bool false) .flag,
    .defaulted "unique" (.bool false) .flag, .defaulted "index" (.bool false) .flag,
    .optional "references" ForeignKeyRef.shape]

def ColumnDef.shape : Shape := .record fields

def IndexDef.fields : List FieldShape :=
  [.optional "name" .text, .required "columns" (.list .text), .defaulted "opclasses" (.array []) (.list .text),
    .defaulted "unique" (.bool false) .flag,
    .optional "method" (.word true ["btree", "hash", "gist", "spgist", "gin", "brin"]), .optional "condition" .text,
    .defaulted "concurrently" (.bool false) .flag, .optional "patternOps" (.word true ["varchar", "text"])]

def IndexDef.shape : Shape := .record fields

def ConstraintDef.variants : List (String × List FieldShape) :=
  [("check", [.optional "name" .text, .defaulted "columns" (.array []) (.list .text), .required "expression" .text]),
    ("unique", [.optional "name" .text, .required "columns" (.list .text), .optional "condition" .text,
      .optional "deferrable" (.word true ["deferred", "immediate"])]),
    ("primary_key", [.optional "name" .text, .required "columns" (.list .text)]),
    ("foreign_key", [.optional "name" .text, .required "columns" (.list .text), .required "referencesTable" .text,
      .required "referencesColumns" (.list .text), .optional "onDelete" .text,
      .defaulted "deferrable" (.bool true) .flag]),
    ("exclusion", [.required "name" .text, .required "expression" .text])]

def ConstraintDef.shape : Shape := .tagged true "kind" variants

def ConstraintKind.shape (inside : Bool) : Shape :=
  .word inside ["check", "unique", "primary_key", "foreign_key", "exclusion"]

def Operation.variants : List (String × List FieldShape) :=
  [("create_table", [.required "columns" (.list ColumnDef.shape)]),
    ("drop_table", [.defaulted "cascade" (.bool true) .flag]),
    ("rename_table", [.required "newName" .text]),
    ("set_tablespace", [.required "tablespace" .text]),
    ("add_column", [.required "column" ColumnDef.shape]),
    ("drop_column", [.required "column" .text, .defaulted "cascade" (.bool true) .flag]),
    ("rename_column", [.required "column" .text, .required "newName" .text]),
    ("alter_column_type",
      [.required "column" .text, .required "fromType" .text, .required "toType" .text, .optional "using" .text]),
    ("set_not_null", [.required "column" .text]),
    ("drop_not_null", [.required "column" .text]),
    ("add_constraint", [.required "constraint" ConstraintDef.shape]),
    ("drop_constraint", [.optional "name" .text, .defaulted "columns" (.array []) (.list .text),
      .optional "kind" (ConstraintKind.shape true)]),
    ("add_index", [.required "index" IndexDef.shape]),
    ("drop_index", [.optional "name" .text, .defaulted "columns" (.array []) (.list .text)]),
    ("alter_columns_together", [.required "kind" (.word true ["unique", "index"]),
      .defaulted "add" (.array []) (.list (.list .text)), .defaulted "remove" (.array []) (.list (.list .text))])].map
    fun (type, fields) => (type, .required "table" .text :: fields)

def Operation.shape : Shape := .tagged false "type" variants

def NotNullMode.shape : Shape
  | .object [("size_threshold", j)] => (Shape.whole UInt64.size j).map fun rows => .object [("size_threshold", rows)]
  | j => Shape.word false ["never", "always_use_constraint", "pg_attribute_update_for_superuser"] j

def SessionDefaults.fields : List FieldShape :=
  [.defaulted "statementTimeout" (.string "0ms") .text, .defaulted "lockTimeout" (.string "0ms") .text]

def SessionDefaults.shape : Shape := .record fields

def PlannerConfig.fields : List FieldShape :=
  [.optional "lockTimeoutMs" (.whole UInt64.size), .optional "statementTimeoutMs" (.whole UInt64.size),
    .defaulted "flexibleStatementTimeout" (.bool false) .flag,
    .defaulted "flexibleStatementTimeoutMs" (.nat 0) (.whole UInt64.size),
    .defaulted "raiseForUnsafe" (.bool false) .flag,
    .defaulted "notNullMode" (.string "always_use_constraint") NotNullMode.shape,
    .defaulted "sessionDefaults" (.object [("statementTimeout", .string "0ms"), ("lockTimeout", .string "0ms")])
      SessionDefaults.shape,
    .optional "serverVersion" (.whole UInt32.size)]

def PlannerConfig.shape : Shape := .record fields

def ServerCaps.fields : List FieldShape :=
  [.required "serverVersionNum" (.whole UInt32.size), .defaulted "cCollation" (.bool false) .flag]

def ServerCaps.shape : Shape := .record fields

def ConstraintInfo.fields : List FieldShape :=
  [.required "name" .text, .required "kind" (ConstraintKind.shape false), .required "columns" (.list .text),
    .defaulted "validated" (.bool true) .flag, .optional "index" .text]

def ConstraintInfo.shape : Shape := .record fields

def IndexInfo.fields : List FieldShape :=
  [.required "name" .text, .required "columns" (.list .text), .defaulted "opclasses" (.array []) (.list .text),
    .defaulted "unique" (.bool false) .flag, .defaulted "primary" (.bool false) .flag,
    .defaulted "valid" (.bool true) .flag, .defaulted "partitioned" (.bool false) .flag, .optional "constraint" .text]

def IndexInfo.shape : Shape := .record fields

def ColumnInfo.fields : List FieldShape :=
  [.required "name" .text, .required "dataType" .text, .required "notNull" .flag]

def ColumnInfo.shape : Shape := .record fields

def TableEntry.fields : List FieldShape :=
  [.defaulted "constraints" (.array []) (.list ConstraintInfo.shape),
    .defaulted "indexes" (.array []) (.list IndexInfo.shape), .defaulted "columns" (.array []) (.list ColumnInfo.shape)]

def TableEntry.shape : Shape := .record fields

def Catalog.shape : Shape := .table TableEntry.shape

def Statement.fields : List FieldShape :=
  [.required "sql" .text, .required "timeout" (.word false ["wrapped", "flexible_wrapped", "unwrapped"]),
    .required "outsideTransaction" .flag, .required "role" (.word false ["ddl", "timeout_set", "timeout_reset"])]

def Statement.shape : Shape := .record fields

def Plan.shape : Shape := .list Statement.shape

end OnlineDdl
