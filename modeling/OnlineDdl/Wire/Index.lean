import OnlineDdl.Schema.Index
import OnlineDdl.Wire.Column

/-! Index definitions as JSON. -/

set_option autoImplicit false

namespace OnlineDdl

open Record (required optional defaulted)

def IndexMethod.toJson (method : IndexMethod) : Json := .string method.word

def IndexMethod.words : List (String × IndexMethod) :=
  [("btree", .btree), ("hash", .hash), ("gist", .gist), ("spgist", .spgist), ("gin", .gin),
    ("brin", .brin)]

def IndexMethod.ofJson? : Json → Option IndexMethod := Json.oneOf true words

def IndexDef.toJson (d : IndexDef) : Json :=
  .object [("name", .nullable .string d.name), ("columns", .strings d.columns),
    ("opclasses", .strings d.opclasses), ("unique", .bool d.unique),
    ("method", .nullable IndexMethod.toJson d.method),
    ("condition", .nullable .string d.condition), ("concurrently", .bool d.concurrently),
    ("patternOps", .nullable PatternOps.toJson d.patternOps)]

def IndexDef.record : Record IndexDef :=
  mk <$> optional "name" Json.string? <*> required "columns" Json.strings?
    <*> defaulted "opclasses" [] Json.strings? <*> defaulted "unique" false Json.bool?
    <*> optional "method" IndexMethod.ofJson? <*> optional "condition" Json.string?
    <*> defaulted "concurrently" false Json.bool? <*> optional "patternOps" PatternOps.ofJson?

def IndexDef.ofJson? : Json → Option IndexDef := record.ofJson?

end OnlineDdl
