import OnlineDdl.Text.Blank
import OnlineDdl.Text.Lowercase

/-! Column definitions as a change request gives them. -/

set_option autoImplicit false

namespace OnlineDdl

inductive PatternOps where
  | varchar
  | text
deriving DecidableEq, Repr

namespace PatternOps

def forType (dataType : String) : Option PatternOps :=
  let normalized := Text.lower (Text.trim dataType.toList)
  if "varchar".toList.isPrefixOf normalized || "character varying".toList.isPrefixOf normalized then
    some .varchar
  else if normalized = "text".toList then some .text
  else none

def opclass : PatternOps → String
  | .varchar => "varchar_pattern_ops"
  | .text => "text_pattern_ops"

end PatternOps

structure ForeignKeyRef where
  table : String
  column : String
  name : Option String
  onDelete : Option String
  deferrable : Bool
deriving DecidableEq, Repr

structure ColumnDef where
  name : String
  dataType : String
  nullable : Bool
  defaultValue : Option String
  volatileDefault : Bool
  -- Whether the default stays after it has filled the existing rows.
  keepDefault : Bool
  primaryKey : Bool
  unique : Bool
  index : Bool
  references : Option ForeignKeyRef
deriving DecidableEq, Repr

namespace ColumnDef

def plain (name dataType : String) : ColumnDef :=
  ⟨name, dataType, true, none, false, false, false, false, false, none⟩

def refersTo (c : ColumnDef) (table column : String) : ColumnDef :=
  { c with references := some ⟨table, column, none, none, true⟩ }

def hasInlineObjects (c : ColumnDef) : Bool :=
  c.primaryKey || c.unique || c.index || c.references.isSome

def patternOps (c : ColumnDef) : Option PatternOps := PatternOps.forType c.dataType

end ColumnDef

end OnlineDdl
