import OnlineDdl.Json.Record
import OnlineDdl.Schema.Constraint

/-! Constraints as JSON; the field `kind` says which they are. -/

set_option autoImplicit false

namespace OnlineDdl

open Record (required optional defaulted)

def ConstraintKind.word : ConstraintKind → String
  | .check => "check"
  | .unique => "unique"
  | .primaryKey => "primary_key"
  | .foreignKey => "foreign_key"
  | .exclusion => "exclusion"

def ConstraintKind.toJson (kind : ConstraintKind) : Json := .string kind.word

def ConstraintKind.words : List (String × ConstraintKind) :=
  [("check", .check), ("unique", .unique), ("primary_key", .primaryKey),
    ("foreign_key", .foreignKey), ("exclusion", .exclusion)]

def ConstraintKind.ofJson? : Json → Option ConstraintKind := Json.oneOf false words

def ConstraintKind.ofContent? : Json → Option ConstraintKind := Json.oneOf true words

def Deferrable.toJson : Deferrable → Json
  | .deferred => .string "deferred"
  | .immediate => .string "immediate"

def Deferrable.words : List (String × Deferrable) :=
  [("deferred", .deferred), ("immediate", .immediate)]

def Deferrable.ofJson? : Json → Option Deferrable := Json.oneOf true words

namespace ConstraintDef

def payload : ConstraintDef → Fields
  | .check name columns expression =>
    [("name", .nullable .string name), ("columns", .strings columns),
      ("expression", .string expression)]
  | .unique name columns condition deferrable =>
    [("name", .nullable .string name), ("columns", .strings columns),
      ("condition", .nullable .string condition),
      ("deferrable", .nullable Deferrable.toJson deferrable)]
  | .primaryKey name columns =>
    [("name", .nullable .string name), ("columns", .strings columns)]
  | .foreignKey name columns toTable toColumns onDelete deferrable =>
    [("name", .nullable .string name), ("columns", .strings columns),
      ("referencesTable", .string toTable), ("referencesColumns", .strings toColumns),
      ("onDelete", .nullable .string onDelete), ("deferrable", .bool deferrable)]
  | .exclusion name expression => [("name", .string name), ("expression", .string expression)]

def toJson (c : ConstraintDef) : Json := .object (("kind", c.kind.toJson) :: c.payload)

def records : List (String × Record ConstraintDef) :=
  [("check",
      .check <$> optional "name" Json.string? <*> defaulted "columns" [] Json.strings?
        <*> required "expression" Json.string?),
    ("unique",
      .unique <$> optional "name" Json.string? <*> required "columns" Json.strings?
        <*> optional "condition" Json.string? <*> optional "deferrable" Deferrable.ofJson?),
    ("primary_key",
      .primaryKey <$> optional "name" Json.string? <*> required "columns" Json.strings?),
    ("foreign_key",
      .foreignKey <$> optional "name" Json.string? <*> required "columns" Json.strings?
        <*> required "referencesTable" Json.string?
        <*> required "referencesColumns" Json.strings? <*> optional "onDelete" Json.string?
        <*> defaulted "deferrable" true Json.bool?),
    ("exclusion",
      .exclusion <$> required "name" Json.string? <*> required "expression" Json.string?)]

def ofJson? : Json → Option ConstraintDef := Json.variant? true "kind" records

end ConstraintDef

end OnlineDdl
