/-! JSON values, and reading typed values out of them. A reader returns `none` for a value of the
wrong shape. -/

set_option autoImplicit false

namespace OnlineDdl

-- A number keeps how it was written: a numeral without sign, fraction or exponent is natural.
inductive JsonNumber where
  | natural (n : Nat)
  | scientific (negative : Bool) (mantissa : Nat) (exponent : Int)
deriving DecidableEq

inductive Json where
  | null
  | bool (value : Bool)
  | number (value : JsonNumber)
  | string (value : String)
  | array (items : List Json)
  | object (fields : List (String × Json))

abbrev Fields := List (String × Json)

namespace Json

def nat (n : Nat) : Json := .number (.natural n)

def strings (items : List String) : Json := .array (items.map .string)

def nullable {α : Type} (write : α → Json) : Option α → Json
  | none => .null
  | some a => write a

-- Nothing at all; inside of a tagged value an empty object says the same.
def isNothing (inside : Bool) : Json → Bool
  | .null => true
  | .object [] => inside
  | _ => false

def bool? : Json → Option Bool
  | .bool value => some value
  | _ => none

def string? : Json → Option String
  | .string value => some value
  | _ => none

def array? : Json → Option (List Json)
  | .array items => some items
  | _ => none

def fields? : Json → Option Fields
  | .object fields => some fields
  | _ => none

def natBelow? (bound : Nat) : Json → Option Nat
  | .number (.natural n) => if n < bound then some n else none
  | _ => none

def uint32? (j : Json) : Option UInt32 := (j.natBelow? UInt32.size).map UInt32.ofNat

def uint64? (j : Json) : Option UInt64 := (j.natBelow? UInt64.size).map UInt64.ofNat

def readAll {α : Type} (read : Json → Option α) : List Json → Option (List α)
  | [] => some []
  | j :: rest =>
    match read j with
    | none => none
    | some a => (readAll read rest).map (a :: ·)

def list? {α : Type} (read : Json → Option α) (j : Json) : Option (List α) :=
  j.array?.bind (readAll read)

-- A word of a table, alone or as the name of the one field of an object that holds nothing.
def oneOf {α : Type} (inside : Bool) (table : List (String × α)) : Json → Option α
  | .string word => table.lookup word
  | .object [(word, j)] => if isNothing inside j then table.lookup word else none
  | _ => none

def strings? (j : Json) : Option (List String) := j.list? string?

def readEntries {α : Type} (read : Json → Option α) : Fields → Option (List (String × α))
  | [] => some []
  | (key, j) :: rest =>
    match read j with
    | none => none
    | some a => (readEntries read rest).map ((key, a) :: ·)

def entries? {α : Type} (read : Json → Option α) (j : Json) : Option (List (String × α)) :=
  j.fields?.bind (readEntries read)

end Json

namespace Fields

def find? (fields : Fields) (name : String) : Option Json := fields.lookup name

def under (fields : Fields) (name : String) : List Json :=
  (fields.filter (·.1 == name)).map (·.2)

-- Whatever is asked for may be given once only.
def required {α : Type} (fields : Fields) (name : String) (read : Json → Option α) : Option α :=
  match fields.under name with
  | [j] => read j
  | _ => none

def optional {α : Type} (fields : Fields) (name : String) (read : Json → Option α) :
    Option (Option α) :=
  match fields.under name with
  | [] => some none
  | [.null] => some none
  | [j] => (read j).map some
  | _ => none

def defaulted {α : Type} (fields : Fields) (name : String) (default : α)
    (read : Json → Option α) : Option α :=
  match fields.under name with
  | [] => some default
  | [j] => read j
  | _ => none

end Fields

end OnlineDdl
