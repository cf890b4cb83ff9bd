import OnlineDdl.Text.LetterCase

/-! Full lowercasing. Every character maps to one lowercase character but two: a dotted capital I
becomes two characters, and a capital sigma takes its final form at the end of a word. -/

set_option autoImplicit false

namespace OnlineDdl.Text

-- Whether the nearest character that carries case information is a cased letter.
def meetsCased (s : List Char) : Bool :=
  match s.dropWhile LetterCase.isIgnorable with
  | [] => false
  | c :: _ => LetterCase.isCased c

-- The lowercase form of `c`, with the text before it reversed and the text after it.
def lowerInContext (before : List Char) (c : Char) (after : List Char) : List Char :=
  if c = 'İ' then ['i', '\u0307']
  else if c = 'Σ' then (if meetsCased before && !meetsCased after then ['ς'] else ['σ'])
  else [LetterCase.lowercase c]

def lowerFrom (before : List Char) : List Char → List Char
  | [] => []
  | c :: rest => lowerInContext before c rest ++ lowerFrom (c :: before) rest

def lower (s : List Char) : List Char := lowerFrom [] s

end OnlineDdl.Text
