import OnlineDdl.Schema.Catalog
import OnlineDdl.Wire.Constraint

/-! Catalogs as JSON: an object with one field for each table. -/

set_option autoImplicit false

namespace OnlineDdl

open Record (required optional defaulted)

def ConstraintInfo.toJson (c : ConstraintInfo) : Json :=
  .object [("name", .string c.name), ("kind", c.kind.toJson), ("columns", .strings c.columns),
    ("validated", .bool c.validated), ("index", .nullable .string c.index)]

def ConstraintInfo.record : Record ConstraintInfo :=
  mk <$> required "name" Json.string? <*> required "kind" ConstraintKind.ofJson?
    <*> required "columns" Json.strings? <*> defaulted "validated" true Json.bool?
    <*> optional "index" Json.string?

def ConstraintInfo.ofJson? : Json → Option ConstraintInfo := record.ofJson?

def IndexInfo.toJson (i : IndexInfo) : Json :=
  .object [("name", .string i.name), ("columns", .strings i.columns),
    ("opclasses", .strings i.opclasses), ("unique", .bool i.unique), ("primary", .bool i.primary),
    ("valid", .bool i.valid), ("partitioned", .bool i.partitioned),
    ("constraint", .nullable .string i.constraint)]

def IndexInfo.record : Record IndexInfo :=
  mk <$> required "name" Json.string? <*> required "columns" Json.strings?
    <*> defaulted "opclasses" [] Json.strings? <*> defaulted "unique" false Json.bool?
    <*> defaulted "primary" false Json.bool? <*> defaulted "valid" true Json.bool?
    <*> defaulted "partitioned" false Json.bool? <*> optional "constraint" Json.string?

def IndexInfo.ofJson? : Json → Option IndexInfo := record.ofJson?

def ColumnInfo.toJson (c : ColumnInfo) : Json :=
  .object [("name", .string c.name), ("dataType", .string c.dataType), ("notNull", .bool c.notNull)]

def ColumnInfo.record : Record ColumnInfo :=
  mk <$> required "name" Json.string? <*> required "dataType" Json.string?
    <*> required "notNull" Json.bool?

def ColumnInfo.ofJson? : Json → Option ColumnInfo := record.ofJson?

def TableEntry.toJson (entry : TableEntry) : Json :=
  .object [("constraints", .array (entry.constraints.map ConstraintInfo.toJson)),
    ("indexes", .array (entry.indexes.map IndexInfo.toJson)),
    ("columns", .array (entry.columns.map ColumnInfo.toJson))]

def TableEntry.record : Record TableEntry :=
  mk <$> defaulted "constraints" [] (Json.list? ConstraintInfo.ofJson?)
    <*> defaulted "indexes" [] (Json.list? IndexInfo.ofJson?)
    <*> defaulted "columns" [] (Json.list? ColumnInfo.ofJson?)

def TableEntry.ofJson? : Json → Option TableEntry := record.ofJson?

def Catalog.toJson (catalog : Catalog) : Json :=
  .object (catalog.tables.map fun (table, entry) => (table, entry.toJson))

def Catalog.ofJson? (j : Json) : Option Catalog :=
  (j.entries? TableEntry.ofJson?).map Catalog.ofEntries

end OnlineDdl
