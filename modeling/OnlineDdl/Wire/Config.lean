import OnlineDdl.Json.Record
import OnlineDdl.Safety.Config

/-! Settings, capabilities and strategies as JSON. -/

set_option autoImplicit false

namespace OnlineDdl

open Record (required optional defaulted)

def ServerCaps.toJson (caps : ServerCaps) : Json :=
  .object [("serverVersionNum", .nat caps.version.toNat), ("cCollation", .bool caps.cCollation)]

def ServerCaps.record : Record ServerCaps :=
  mk <$> required "serverVersionNum" Json.uint32? <*> defaulted "cCollation" false Json.bool?

def ServerCaps.ofJson? : Json → Option ServerCaps := record.ofJson?

def RowEstimate.toJson : RowEstimate → Json
  | .unknown => .string "unknown"
  | .known rows => .object [("known", .nat rows.toNat)]

def RowEstimate.ofJson? : Json → Option RowEstimate
  | .object [("known", rows)] => rows.uint64?.map .known
  | j => j.oneOf false [("unknown", .unknown)]

def NotNullMode.toJson : NotNullMode → Json
  | .never => .string "never"
  | .alwaysUseConstraint => .string "always_use_constraint"
  | .sizeThreshold rows => .object [("size_threshold", .nat rows.toNat)]
  | .catalogUpdateForSuperuser => .string "pg_attribute_update_for_superuser"

def NotNullMode.plainWords : List (String × NotNullMode) :=
  [("never", .never), ("always_use_constraint", .alwaysUseConstraint),
    ("pg_attribute_update_for_superuser", .catalogUpdateForSuperuser)]

def NotNullMode.ofJson? : Json → Option NotNullMode
  | .object [("size_threshold", rows)] => rows.uint64?.map .sizeThreshold
  | j => j.oneOf false plainWords

def NotNullStrategy.word : NotNullStrategy → String
  | .directUnsafe => "direct_unsafe"
  | .constraintAssisted => "constraint_assisted"
  | .catalogUpdate => "pg_attribute_hack"

def NotNullStrategy.toJson (strategy : NotNullStrategy) : Json := .string strategy.word

def NotNullStrategy.ofJson? : Json → Option NotNullStrategy :=
  Json.oneOf false [("direct_unsafe", .directUnsafe),
    ("constraint_assisted", .constraintAssisted), ("pg_attribute_hack", .catalogUpdate)]

def SessionDefaults.toJson (d : SessionDefaults) : Json :=
  .object [("statementTimeout", .string d.statementTimeout), ("lockTimeout", .string d.lockTimeout)]

def SessionDefaults.record : Record SessionDefaults :=
  mk <$> defaulted "statementTimeout" default.statementTimeout Json.string?
    <*> defaulted "lockTimeout" default.lockTimeout Json.string?

def SessionDefaults.ofJson? : Json → Option SessionDefaults := record.ofJson?

def PlannerConfig.toJson (c : PlannerConfig) : Json :=
  .object [("lockTimeoutMs", .nullable (fun n => .nat n.toNat) c.lockTimeoutMs),
    ("statementTimeoutMs", .nullable (fun n => .nat n.toNat) c.statementTimeoutMs),
    ("flexibleStatementTimeout", .bool c.flexibleStatementTimeout),
    ("flexibleStatementTimeoutMs", .nat c.flexibleStatementTimeoutMs.toNat),
    ("raiseForUnsafe", .bool c.raiseForUnsafe), ("notNullMode", c.notNullMode.toJson),
    ("sessionDefaults", c.sessionDefaults.toJson),
    ("serverVersion", .nullable (fun n => .nat n.toNat) c.serverVersion)]

def PlannerConfig.record : Record PlannerConfig :=
  mk <$> optional "lockTimeoutMs" Json.uint64? <*> optional "statementTimeoutMs" Json.uint64?
    <*> defaulted "flexibleStatementTimeout" default.flexibleStatementTimeout Json.bool?
    <*> defaulted "flexibleStatementTimeoutMs" default.flexibleStatementTimeoutMs Json.uint64?
    <*> defaulted "raiseForUnsafe" default.raiseForUnsafe Json.bool?
    <*> defaulted "notNullMode" default.notNullMode NotNullMode.ofJson?
    <*> defaulted "sessionDefaults" default.sessionDefaults SessionDefaults.ofJson?
    <*> optional "serverVersion" Json.uint32?

def PlannerConfig.ofJson? : Json → Option PlannerConfig := record.ofJson?

end OnlineDdl
