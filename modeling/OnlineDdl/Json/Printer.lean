import OnlineDdl.Json.Basic
import OnlineDdl.Text.Ascii

/-! Writing JSON text without white space between its tokens. -/

set_option autoImplicit false

namespace OnlineDdl.Json

def escape (c : Char) : List Char :=
  if c = '"' then ['\\', '"']
  else if c = '\\' then ['\\', '\\']
  else if c.toNat < 0x20 then
    ['\\', 'u', '0', '0', Text.hexDigit (c.toNat / 16), Text.hexDigit (c.toNat % 16)]
  else [c]

def printString (s : String) : String := "\"" ++ String.ofList (s.toList.flatMap escape) ++ "\""

def printNumber : JsonNumber → String
  | .natural n => toString n
  | .scientific negative mantissa exponent =>
    (if negative then "-" else "") ++ toString mantissa ++ "e" ++ toString exponent

mutual

def print : Json → String
  | .null => "null"
  | .bool value => if value then "true" else "false"
  | .number value => printNumber value
  | .string value => printString value
  | .array items => "[" ++ ",".intercalate (printItems items) ++ "]"
  | .object fields => "\x7b" ++ ",".intercalate (printFields fields) ++ "\x7d"

def printItems : List Json → List String
  | [] => []
  | item :: rest => print item :: printItems rest

def printFields : List (String × Json) → List String
  | [] => []
  | (key, value) :: rest => (printString key ++ ":" ++ print value) :: printFields rest

end

end OnlineDdl.Json
