import OnlineDdl.Entries
import OnlineDdl.Json.Record

/-! Wire formats as tables. A shape says of each JSON value whether it may be read and what it is written as
then: fields in their order under their own names, and defaults in place of what is missing. -/

set_option autoImplicit false

namespace OnlineDdl

abbrev Shape := Json → Option Json

structure FieldShape where
  name : String
  -- What stands for the field where it is left out.
  missing : Option Json
  shape : Shape
  stable : ∀ j, missing = some j → shape j = some j

namespace Shape

def text : Shape
  | .string s => some (.string s)
  | _ => none

def flag : Shape
  | .bool b => some (.bool b)
  | _ => none

def whole (bound : Nat) : Shape
  | .number (.natural n) => if n < bound then some (.nat n) else none
  | _ => none

def isVoid (inside : Bool) : Json → Bool
  | .null => true
  | .object [] => inside
  | _ => false

def known (words : List String) (s : String) : Option Json := if s ∈ words then some (.string s) else none

def word (inside : Bool) (words : List String) : Shape
  | .string s => known words s
  | .object [(s, j)] => if isVoid inside j then known words s else none
  | _ => none

def items (item : Shape) : List Json → Option (List Json)
  | [] => some []
  | j :: rest => (item j).bind fun j => (items item rest).map (j :: ·)

def list (item : Shape) : Shape
  | .array js => (item.items js).map .array
  | _ => none

def entries (entry : Shape) : Fields → Option Fields
  | [] => some []
  | (key, j) :: rest => (entry j).bind fun j => (entries entry rest).map ((key, j) :: ·)

def table (entry : Shape) : Shape
  | .object fields => (entry.entries fields).map fun entries => .object (Entries.gathered entries)
  | _ => none

def nullable (shape : Shape) : Shape
  | .null => some .null
  | j => shape j

end Shape

namespace FieldShape

@[simp]
def required (name : String) (shape : Shape) : FieldShape := ⟨name, none, shape, nofun⟩

@[simp]
def optional (name : String) (shape : Shape) : FieldShape :=
  ⟨name, some .null, shape.nullable, fun _ same => by cases same; rfl⟩

@[simp]
def defaulted (name : String) (default : Json) (shape : Shape)
    (stable : shape default = some default := by rfl) : FieldShape :=
  ⟨name, some default, shape, fun _ same => by cases same; exact stable⟩

end FieldShape

namespace Shape

def given? (missing : Option Json) (shape : Shape) : List Json → Option Json
  | [] => missing
  | [j] => shape j
  | _ => none

@[simp]
def fill : List FieldShape → Fields → Option Fields
  | [], _ => some []
  | f :: rest, given =>
    (given? f.missing f.shape (given.under f.name)).bind fun j => (fill rest given).map ((f.name, j) :: ·)

def fillInOrder : List FieldShape → List Json → Option Fields
  | [], [] => some []
  | [], _ :: _ => none
  | f :: rest, js =>
    (given? f.missing f.shape (js.take 1)).bind fun j => (fillInOrder rest (js.drop 1)).map ((f.name, j) :: ·)

def filled (fields : List FieldShape) : Json → Option Fields
  | .object given => fill fields given
  | .array js => fillInOrder fields js
  | _ => none

def record (fields : List FieldShape) : Shape := fun j => (filled fields j).map .object

-- What the tag of a variant means; inside of a tagged value a number counts the variants.
def tagWord (inside : Bool) (words : List String) : Json → Option String
  | .string word => some word
  | .number (.natural n) => if inside then words[n]? else none
  | _ => none

def variant (inside : Bool) (tag : String) (variants : List (String × List FieldShape)) (t content : Json) :
    Option Json :=
  (tagWord inside (variants.map (·.1)) t).bind fun word =>
    (variants.lookup word).bind fun fields =>
      (filled fields content).map fun written => .object ((tag, .string word) :: written)

-- The tag stands among the fields of an object and before the items of an array.
def tagged (inside : Bool) (tag : String) (variants : List (String × List FieldShape)) : Shape
  | .object given =>
    match Fields.under given tag with
    | [t] => variant inside tag variants t (.object (given.filter (·.1 != tag)))
    | _ => none
  | .array (t :: js) => variant inside tag variants t (.array js)
  | _ => none

end Shape

end OnlineDdl
