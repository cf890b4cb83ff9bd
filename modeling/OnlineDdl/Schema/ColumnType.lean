import OnlineDdl.Text.Blank
import OnlineDdl.Text.Decimal
import OnlineDdl.Text.Lowercase

/-! Column types as far as it matters which changes between them leave the stored rows alone. -/

set_option autoImplicit false

namespace OnlineDdl

-- A missing parameter means no limit. Numbers have a precision and a scale.
inductive ColumnType where
  | varchar (length : Option Nat)
  | text
  | numeric (size : Option (Nat × Nat))
  | varbit (length : Option Nat)
  | other (spelling : List Char)
deriving DecidableEq, Repr

namespace ColumnType

def closeParens : List Char → List Char
  | ' ' :: '(' :: rest => '(' :: closeParens rest
  | c :: rest => c :: closeParens rest
  | [] => []

def closeCommas : List Char → List Char
  | ',' :: ' ' :: rest => ',' :: closeCommas rest
  | c :: rest => c :: closeCommas rest
  | [] => []

-- One spelling for types that differ in case and spacing alone.
def normalize (raw : List Char) : List Char :=
  closeCommas (closeParens (Text.lower (Text.joinWith [' '] (Text.words raw))))

def readNumbers (s : List Char) : Option (List Nat) :=
  (Text.pieces (· == ',') s).mapM fun piece => Text.readNumeral Text.u32Bound (Text.trim piece)

inductive Family where
  | varchar
  | text
  | numeric
  | varbit
deriving DecidableEq, Repr

def Family.ofName? (name : List Char) : Option Family :=
  if name = "varchar".toList ∨ name = "character varying".toList then some .varchar
  else if name = "text".toList then some .text
  else if name = "numeric".toList ∨ name = "decimal".toList then some .numeric
  else if name = "varbit".toList ∨ name = "bit varying".toList then some .varbit
  else none

-- The type of a family with the given parameters; a scale that is left out is zero.
def ofFamily? : Family → List Nat → Option ColumnType
  | .varchar, [] => some (.varchar none)
  | .varchar, [length] => some (.varchar (some length))
  | .text, [] => some .text
  | .numeric, [] => some (.numeric none)
  | .numeric, [precision] => some (.numeric (some (precision, 0)))
  | .numeric, [precision, scale] => some (.numeric (some (precision, scale)))
  | .varbit, [] => some (.varbit none)
  | .varbit, [length] => some (.varbit (some length))
  | _, _ => none

def parts (normalized : List Char) : List Char × Option (List Nat) :=
  match Text.splitFirst '(' normalized with
  | none => (normalized, some [])
  | some (name, params) =>
    (Text.trim name, readNumbers (Text.dropWhileEnd (· == ')') params))

def parse (raw : String) : ColumnType :=
  let normalized := normalize raw.toList
  match parts normalized with
  | (name, some params) =>
    ((Family.ofName? name).bind fun family => ofFamily? family params).getD (.other normalized)
  | (_, none) => .other normalized

-- Whether every stored value of one type is stored the same way under the other.
def widensTo (source target : ColumnType) : Bool :=
  source == target ||
    match source, target with
    | .varchar (some old), .varchar (some new) => decide (old ≤ new)
    | .varchar _, .varchar none => true
    | .varchar _, .text => true
    | .numeric (some (oldPrecision, oldScale)), .numeric (some (newPrecision, newScale)) =>
      newScale == oldScale && decide (oldPrecision ≤ newPrecision)
    | .numeric _, .numeric none => true
    | .varbit (some old), .varbit (some new) => decide (old ≤ new)
    | .varbit _, .varbit none => true
    | _, _ => false

end ColumnType

end OnlineDdl
