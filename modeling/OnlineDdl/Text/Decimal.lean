import OnlineDdl.Text.Ascii

/-! Decimal numerals: an optional plus sign and one or more ASCII digits, read below a bound. -/

set_option autoImplicit false

namespace OnlineDdl.Text

def digitValue (c : Char) : Nat := c.toNat - '0'.toNat

-- The value of a string of digits, most significant first, after `value`.
def digitsValue (value : Nat) : List Char → Nat
  | [] => value
  | c :: rest => digitsValue (value * 10 + digitValue c) rest

def readDigits (s : List Char) : Option Nat :=
  if !s.isEmpty && s.all isDigit then some (digitsValue 0 s) else none

-- A numeral with a value below `bound`; leading zeros are allowed.
def readNumeral (bound : Nat) (s : List Char) : Option Nat :=
  let digits := match s with
    | '+' :: rest => rest
    | _ => s
  match readDigits digits with
  | some n => if n < bound then some n else none
  | none => none

def u16Bound : Nat := 65536
def u32Bound : Nat := 4294967296
def u64Bound : Nat := 18446744073709551616

end OnlineDdl.Text
