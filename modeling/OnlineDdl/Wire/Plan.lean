import OnlineDdl.Plan.Compile
import OnlineDdl.Run.Execute
import OnlineDdl.Wire.Config

/-! Verdicts, plans and compiled operations as JSON. -/

set_option autoImplicit false

namespace OnlineDdl

open Record (required)

def UnsafeReason.toJson (reason : UnsafeReason) : Json := .string reason.code

def UnsafeReason.ofJson? : Json → Option UnsafeReason :=
  Json.oneOf false [("rename_table", .renameTable), ("set_tablespace", .setTablespace),
    ("rename_column", .renameColumn), ("alter_column_type", .alterColumnType),
    ("add_column_default", .addColumnDefault), ("add_column_not_null", .addColumnNotNull),
    ("set_not_null", .setNotNull), ("add_exclusion_constraint", .addExclusionConstraint)]

def Classification.toJson : Classification → Json
  | .safe => .object [("verdict", .string "safe")]
  | .unsafeFixable => .object [("verdict", .string "unsafe_fixable")]
  | .unsafeUnfixable reason =>
    .object [("verdict", .string "unsafe_unfixable"), ("reason", reason.toJson)]

-- Only the verdict that has a reason may be given one.
def Classification.ofJson? (j : Json) : Option Classification := do
  let fields ← j.fields?
  let verdict ← fields.required "verdict" Json.string?
  let noReason := (← fields.optional "reason" some).isNone
  match verdict with
  | "safe" => if noReason then some .safe else none
  | "unsafe_fixable" => if noReason then some .unsafeFixable else none
  | "unsafe_unfixable" => (fields.required "reason" UnsafeReason.ofJson?).map .unsafeUnfixable
  | _ => none

def Action.toJson : Action → Json
  | .proceed => .object [("action", .string "proceed")]
  | .proceedWithWarning reason =>
    .object [("action", .string "proceed_with_warning"), ("reason", reason.toJson)]
  | .abort reason => .object [("action", .string "abort"), ("reason", reason.toJson)]

def TimeoutClass.toJson : TimeoutClass → Json
  | .wrapped => .string "wrapped"
  | .flexibleWrapped => .string "flexible_wrapped"
  | .unwrapped => .string "unwrapped"

def TimeoutClass.words : List (String × TimeoutClass) :=
  [("wrapped", .wrapped), ("flexible_wrapped", .flexibleWrapped), ("unwrapped", .unwrapped)]

def TimeoutClass.ofJson? : Json → Option TimeoutClass := Json.oneOf false words

def StatementRole.toJson : StatementRole → Json
  | .ddl => .string "ddl"
  | .timeoutSet => .string "timeout_set"
  | .timeoutReset => .string "timeout_reset"

def StatementRole.words : List (String × StatementRole) :=
  [("ddl", .ddl), ("timeout_set", .timeoutSet), ("timeout_reset", .timeoutReset)]

def StatementRole.ofJson? : Json → Option StatementRole := Json.oneOf false words

def Statement.toJson (s : Statement) : Json :=
  .object [("sql", .string s.sql), ("timeout", s.timeout.toJson),
    ("outsideTransaction", .bool s.outsideTransaction), ("role", s.role.toJson)]

def Statement.record : Record Statement :=
  mk <$> required "sql" Json.string? <*> required "timeout" TimeoutClass.ofJson?
    <*> required "outsideTransaction" Json.bool? <*> required "role" StatementRole.ofJson?

def Statement.ofJson? : Json → Option Statement := record.ofJson?

def Plan.toJson (plan : Plan) : Json := .array (plan.map Statement.toJson)

def Plan.ofJson? (j : Json) : Option Plan := j.list? Statement.ofJson?

def Fields.present {α : Type} (name : String) (write : α → Json) (a : Option α) : Fields :=
  a.toList.map fun a => (name, write a)

def Compiled.toFields (c : Compiled) : Fields :=
  [("operation", .string c.operation), ("table", .string c.table),
    ("classification", c.classification.toJson), ("action", c.action.toJson)]
    ++ Fields.present "strategy" NotNullStrategy.toJson c.strategy
    ++ [("baseSql", .strings c.baseSql), ("statements", Plan.toJson c.statements)]

def Compiled.toJson (c : Compiled) : Json := .object c.toFields

def Execution.toJson (e : Execution) : Json :=
  .object [("success", .bool true), ("executedStatements", .strings e.executedStatements)]

end OnlineDdl
