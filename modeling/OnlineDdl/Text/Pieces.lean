/-! Taking texts apart and putting them together. Texts are lists of characters where a function is a
recursion on its text. -/

set_option autoImplicit false

namespace OnlineDdl.Text

def dropWhileEnd (p : Char → Bool) (s : List Char) : List Char := (s.reverse.dropWhile p).reverse

-- The pieces between the characters of a class: one more than there are such characters.
def pieces (p : Char → Bool) : List Char → List (List Char)
  | [] => [[]]
  | c :: rest =>
    if p c then [] :: pieces p rest
    else
      match pieces p rest with
      | [] => [[c]]
      | piece :: others => (c :: piece) :: others

def splitFirst (mark : Char) : List Char → Option (List Char × List Char)
  | [] => none
  | c :: rest =>
    if c = mark then some ([], rest)
    else (splitFirst mark rest).map fun (before, after) => (c :: before, after)

def splitLast (mark : Char) (s : List Char) : Option (List Char × List Char) :=
  (splitFirst mark s.reverse).map fun (after, before) => (before.reverse, after.reverse)

def occursIn (needle : List Char) : List Char → Bool
  | [] => needle.isEmpty
  | c :: rest => needle.isPrefixOf (c :: rest) || occursIn needle rest

def endsWith (ending s : String) : Bool := ending.toList.isSuffixOf s.toList

def joinWith (separator : List Char) : List (List Char) → List Char
  | [] => []
  | [s] => s
  | s :: rest => s ++ separator ++ joinWith separator rest

def commaSeparated (items : List String) : String := ", ".intercalate items

theorem pieces_ne_nil (p : Char → Bool) (s : List Char) : pieces p s ≠ [] := by
  cases s with
  | nil => simp [pieces]
  | cons c rest =>
    unfold pieces
    split
    · simp
    · split <;> simp

end OnlineDdl.Text
