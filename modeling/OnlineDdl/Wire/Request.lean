import OnlineDdl.Service.Answer
import OnlineDdl.Service.Request
import OnlineDdl.Service.Response
import OnlineDdl.Wire.Catalog
import OnlineDdl.Wire.Operation
import OnlineDdl.Wire.Plan

/-! Requests and the answers to them as JSON. -/

set_option autoImplicit false

namespace OnlineDdl

open Record (required optional defaulted)

def rowEstimatesOfJson? (j : Json) : Option (List (String × UInt64)) :=
  (j.entries? Json.uint64?).map Entries.gathered

def PlanRequest.record : Record PlanRequest :=
  mk <$> required "operations" (Json.list? Operation.ofJson?)
    <*> optional "config" PlannerConfig.ofJson? <*> optional "server" ServerCaps.ofJson?
    <*> optional "catalog" Catalog.ofJson? <*> defaulted "rowEstimates" [] rowEstimatesOfJson?
    <*> defaulted "live" false Json.bool?

def PlanRequest.ofJson? : Json → Option PlanRequest := record.ofJson?

def ErrorResponse.toJson (r : ErrorResponse) : Json :=
  .object ([("success", .bool false), ("message", .string r.message)]
    ++ Fields.present "error" .string r.error
    ++ [("code", .string r.code)]
    ++ Fields.present "statements" .strings r.statements)

def successBody (verb : String) (count : Nat) (fields : Fields) : Json :=
  .object (("success", .bool true)
    :: ("message", .string (verb ++ " " ++ toString count ++ " operations.")) :: fields)

def PlanResponse.toFields (r : PlanResponse) : Fields :=
  [("server", r.server.toJson), ("operations", .array (r.operations.map Compiled.toJson)),
    ("warnings", .strings (warnings r.operations))]

def PlanResponse.toJson (r : PlanResponse) : Json :=
  successBody "Planned" r.operations.length r.toFields

def ExecuteResponse.toJson (r : ExecuteResponse) : Json :=
  successBody "Executed" r.executions.length
    (r.plan.toFields ++ [("executions", .array (r.executions.map Execution.toJson))])

end OnlineDdl
