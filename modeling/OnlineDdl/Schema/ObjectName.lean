import OnlineDdl.Md5
import OnlineDdl.Text.Pieces
import OnlineDdl.Text.Utf8

/-! Names of generated constraints and indexes: the table, the columns, eight digits of a digest of
both, and a suffix for the purpose. A name that would exceed the limit keeps the digest and the
suffix as far as a third of it, and shortens the table and the columns evenly. -/

set_option autoImplicit false

namespace OnlineDdl.ObjectName

def maxLength : Nat := 63

inductive Purpose where
  | index
  | unique
  | primaryKey
  | check
  | notNull
  | patternOps
  | togetherIndex
  | foreignKey (toTable toColumn : String)
deriving DecidableEq

def Purpose.suffix : Purpose → String
  | .index => ""
  | .unique => "_uniq"
  | .primaryKey => "_pk"
  | .check => "_check"
  | .notNull => "_notnull"
  | .patternOps => "_like"
  | .togetherIndex => "_idx"
  | .foreignKey toTable toColumn => s!"_fk_{toTable}_{toColumn}"

def digestInput (table : String) (columns : List String) : List Char :=
  (table :: columns).flatMap String.toList

def digest (table : String) (columns : List String) : List Char :=
  (Md5.hex (Text.utf8 (digestInput table columns))).take 8

-- An unquoted name starts with neither an underscore nor a digit.
def startsBadly : List Char → Bool
  | [] => false
  | c :: _ => c == '_' || Text.isDigit c

-- Puts a `D` in front of a name that starts badly, at the cost of its last character.
def mendStart (name : List Char) : List Char :=
  if startsBadly name then 'D' :: name.take (name.length - 1) else name

def shortened (table joined tail : List Char) : List Char :=
  let tail := tail.take (maxLength / 3)
  let share := (maxLength - tail.length) / 2 - 1
  mendStart (table.take share ++ '_' :: joined.take share ++ '_' :: tail)

def assemble (table joined tail : List Char) : List Char :=
  let name := table ++ '_' :: joined ++ '_' :: tail
  if name.length ≤ maxLength then name else shortened table joined tail

def generate (table : String) (columns : List String) (suffix : String) : String :=
  String.ofList (assemble table.toList (Text.joinWith ['_'] (columns.map String.toList))
    (digest table columns ++ suffix.toList))

def named (purpose : Purpose) (table : String) (columns : List String) : String :=
  generate table columns purpose.suffix

end OnlineDdl.ObjectName
