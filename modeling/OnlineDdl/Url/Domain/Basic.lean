import OnlineDdl.Text.Composition
import OnlineDdl.Url.Domain.Direction
import OnlineDdl.Url.Domain.Joining
import OnlineDdl.Url.Domain.Mapping
import OnlineDdl.Url.Domain.Punycode

/-! Domains: labels with dots between them, in one spelling whatever case, form or code they come
in. -/

set_option autoImplicit false

namespace OnlineDdl.Url.Domain

def isAscii (c : Char) : Bool := c.toNat < 128

def isForbidden (c : Char) : Bool :=
  c.toNat ≤ 0x20 || c.toNat = 0x7F || "#/:<>?@[\\]^|%".toList.contains c

def normalize? (s : List Char) : Option (List Char) :=
  (s.mapM mapped?).map fun texts => Text.compose texts.flatten

def codedMark : List Char := "xn--".toList

def maxCodedLength : Nat := 2000

def maxLabelLength : Nat := 1000

-- The text of a label. A coded label must stand for a text beyond ASCII in its one spelling.
def labelText? (s : List Char) : Option (List Char) :=
  if codedMark.isPrefixOf s then
    let coded := s.drop codedMark.length
    if !coded.all isAscii || s.getLast? = some '-' || maxCodedLength < coded.length then none
    else
      match Punycode.decode? coded with
      | some text => if normalize? text = some text then some text else none
      | none => none
  else some s

-- Whether a label starts with a base, if at all, and every character of it may stand there.
def isLabel (s : List Char) : Bool :=
  !s.head?.any Text.Mark.isMark && !s.any isForbidden && joinersFit [] s
    && (s.all isAscii || decide (s.length ≤ maxLabelLength))

def labels? (name : List Char) : Option (List (List Char)) := do
  let text ← normalize? name
  let labels ← (Text.pieces (· == '.') text).mapM labelText?
  if labels.all isLabel && Direction.areSettled labels then some labels else none

end OnlineDdl.Url.Domain
