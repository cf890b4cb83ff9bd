import OnlineDdl.Json.Basic

/-! Reading records. A record is an object, where the fields stand in any order among others that nobody
asks for, or an array of its fields in their order, where the last ones may be missing. -/

set_option autoImplicit false

namespace OnlineDdl

structure Record (α : Type) where
  names : List String
  read : Fields → Option α

namespace Record

variable {α : Type}

instance : Functor Record where
  map f r := ⟨r.names, fun fields => (r.read fields).map f⟩

instance : Seq Record where
  seq f r := ⟨f.names ++ (r ()).names, fun fields => (f.read fields).bind fun g => ((r ()).read fields).map g⟩

def required (name : String) (read : Json → Option α) : Record α :=
  ⟨[name], fun fields => fields.required name read⟩

def optional (name : String) (read : Json → Option α) : Record (Option α) :=
  ⟨[name], fun fields => fields.optional name read⟩

def defaulted (name : String) (default : α) (read : Json → Option α) : Record α :=
  ⟨[name], fun fields => fields.defaulted name default read⟩

def ofJson? (r : Record α) : Json → Option α
  | .object fields => r.read fields
  | .array items => if items.length ≤ r.names.length then r.read (r.names.zip items) else none
  | _ => none

end Record

namespace Json

-- The tag of a value and the value without it: what stands under a name, or comes first in an array.
def tagged? (tag : String) : Json → Option (Json × Json)
  | .object fields =>
    match Fields.under fields tag with
    | [t] => some (t, .object (fields.filter (·.1 != tag)))
    | _ => none
  | .array (t :: items) => some (t, .array items)
  | _ => none

-- The record that a tag means. Inside of a tagged value a number counts the records.
def record? {α : Type} (inside : Bool) (records : List (String × Record α)) : Json → Option (Record α)
  | .string word => records.lookup word
  | .number (.natural n) => if inside then records[n]?.map (·.2) else none
  | _ => none

def variant? {α : Type} (inside : Bool) (tag : String) (records : List (String × Record α)) (j : Json) :
    Option α := do
  let (t, content) ← j.tagged? tag
  let record ← record? inside records t
  record.ofJson? content

end Json

end OnlineDdl
