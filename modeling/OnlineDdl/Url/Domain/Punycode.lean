import OnlineDdl.Text.Ascii
import OnlineDdl.Text.Decimal
import OnlineDdl.Text.Pieces

/-! Punycode: a text beyond ASCII in letters, digits and hyphens. Its ASCII characters stand before
the last hyphen, and numbers behind it say which other characters go where. -/

set_option autoImplicit false

namespace OnlineDdl.Url.Domain.Punycode

-- The value of a digit: letters are low, decimal digits are high.
def digit? (c : Char) : Option Nat :=
  if 'a' ≤ c ∧ c ≤ 'z' then some (c.toNat - 'a'.toNat)
  else if Text.isDigit c then some (c.toNat - '0'.toNat + 26)
  else none

def base : Nat := 36

-- The least value of a digit that another one follows, at a position that grows by the base.
def threshold (bias position : Nat) : Nat :=
  if position ≤ bias then 1 else min 26 (position - bias)

def biasOf (size : Nat) : Nat :=
  if 455 < size then base + biasOf (size / 35) else base * size / (size + 38)
termination_by size
decreasing_by omega

-- The bias after a number, of which the first tends to be large.
def adapt (number count : Nat) (isFirst : Bool) : Nat :=
  let size := if isFirst then number / 700 else number / 2
  biasOf (size + size / count)

structure State where
  text : List Char
  -- The code of the character inserted last.
  code : Nat
  -- Where the next character would go, with the digits read so far added.
  index : Nat
  -- What `index` was before the first digit.
  start : Nat
  bias : Nat
  weight : Nat
  position : Nat
deriving DecidableEq, Repr

namespace State

def initial (text : List Char) : State :=
  { text, code := 128, index := 0, start := 0, bias := 72, weight := 1, position := base }

-- Inserts the character that a finished number stands for: counting goes round all places of the
-- text before it goes on to the next code.
def insert (s : State) : Option State :=
  let places := s.text.length + 1
  let code := s.code + s.index / places
  let place := s.index % places
  if code.isValidChar then
    some
      { text := s.text.insertIdx place (Char.ofNat code)
        code
        index := place + 1
        start := place + 1
        bias := adapt (s.index - s.start) places (s.start = 0)
        weight := 1
        position := base }
  else none

-- Reads a digit; numbers and weights stay below 2^32.
def step (s : State) (c : Char) : Option State := do
  let digit ← digit? c
  let index := s.index + digit * s.weight
  let least := threshold s.bias s.position
  let weight := s.weight * (base - least)
  if Text.u32Bound ≤ index then none
  else if digit < least then insert { s with index }
  else if Text.u32Bound ≤ weight then none
  else some { s with index, weight, position := s.position + base }

def isBetweenNumbers (s : State) : Bool := s.position = base

end State

-- The plain characters of a coded text, and the digits. A hyphen at the start separates nothing.
def split (s : List Char) : List Char × List Char :=
  match Text.splitLast '-' s with
  | none => ([], s)
  | some ([], _) => ([], s)
  | some parts => parts

def decode? (s : List Char) : Option (List Char) :=
  let (plain, digits) := split s
  match digits.foldlM State.step (State.initial plain) with
  | some state => if state.isBetweenNumbers then some state.text else none
  | none => none

end OnlineDdl.Url.Domain.Punycode
