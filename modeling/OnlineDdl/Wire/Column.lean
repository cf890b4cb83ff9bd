import OnlineDdl.Json.Record
import OnlineDdl.Schema.Column

/-! Column definitions as JSON. -/

set_option autoImplicit false

namespace OnlineDdl

open Record (required optional defaulted)

def PatternOps.toJson : PatternOps → Json
  | .varchar => .string "varchar"
  | .text => .string "text"

def PatternOps.words : List (String × PatternOps) :=
  [("varchar", .varchar), ("text", .text)]

def PatternOps.ofJson? : Json → Option PatternOps := Json.oneOf true words

def ForeignKeyRef.toJson (fk : ForeignKeyRef) : Json :=
  .object [("table", .string fk.table), ("column", .string fk.column),
    ("name", .nullable .string fk.name), ("onDelete", .nullable .string fk.onDelete),
    ("deferrable", .bool fk.deferrable)]

def ForeignKeyRef.record : Record ForeignKeyRef :=
  mk <$> required "table" Json.string? <*> required "column" Json.string?
    <*> optional "name" Json.string? <*> optional "onDelete" Json.string?
    <*> defaulted "deferrable" true Json.bool?

def ForeignKeyRef.ofJson? : Json → Option ForeignKeyRef := record.ofJson?

def ColumnDef.toJson (c : ColumnDef) : Json :=
  .object [("name", .string c.name), ("dataType", .string c.dataType),
    ("nullable", .bool c.nullable), ("default", .nullable .string c.defaultValue),
    ("volatileDefault", .bool c.volatileDefault), ("keepDefault", .bool c.keepDefault),
    ("primaryKey", .bool c.primaryKey), ("unique", .bool c.unique), ("index", .bool c.index),
    ("references", .nullable ForeignKeyRef.toJson c.references)]

def ColumnDef.record : Record ColumnDef :=
  mk <$> required "name" Json.string? <*> required "dataType" Json.string?
    <*> defaulted "nullable" true Json.bool? <*> optional "default" Json.string?
    <*> defaulted "volatileDefault" false Json.bool? <*> defaulted "keepDefault" false Json.bool?
    <*> defaulted "primaryKey" false Json.bool? <*> defaulted "unique" false Json.bool?
    <*> defaulted "index" false Json.bool? <*> optional "references" ForeignKeyRef.ofJson?

def ColumnDef.ofJson? : Json → Option ColumnDef := record.ofJson?

end OnlineDdl
