import OnlineDdl.Json.Basic
import OnlineDdl.Text.Decimal

/-! Reading JSON text. The reader takes fuel for two steps a character, which is enough, since of two
nested steps at least one consumes a character. -/

set_option autoImplicit false

namespace OnlineDdl.Json

def isSpace (c : Char) : Bool := c = ' ' || c = '\t' || c = '\n' || c = '\r'

def skipSpace (s : List Char) : List Char := s.dropWhile isSpace

def unit? (a b c d : Char) : Option Nat :=
  match Text.hexValue? a, Text.hexValue? b, Text.hexValue? c, Text.hexValue? d with
  | some a, some b, some c, some d => some (((a * 16 + b) * 16 + c) * 16 + d)
  | _, _, _, _ => none

def isHighUnit (n : Nat) : Bool := decide (0xD800 ≤ n ∧ n < 0xDC00)

def isLowUnit (n : Nat) : Bool := decide (0xDC00 ≤ n ∧ n < 0xE000)

def escape? : Char → Option Char
  | '"' => some '"'
  | '\\' => some '\\'
  | '/' => some '/'
  | 'b' => some '\x08'
  | 'f' => some '\x0c'
  | 'n' => some '\n'
  | 'r' => some '\r'
  | 't' => some '\t'
  | _ => none

def push (c : Char) (read : Option (List Char × List Char)) : Option (List Char × List Char) :=
  read.map fun (s, rest) => (c :: s, rest)

-- The character of an escape by code units, after the first of them, and what follows it.
def afterUnit (n : Nat) (rest : List Char) : Option (Char × List Char) :=
  if isLowUnit n then none
  else if isHighUnit n then
    match rest with
    | '\\' :: 'u' :: a :: b :: c :: d :: rest =>
      match unit? a b c d with
      | none => none
      | some m =>
        if isLowUnit m then some (Char.ofNat (0x10000 + (n - 0xD800) * 1024 + (m - 0xDC00)), rest)
        else none
    | _ => none
  else some (Char.ofNat n, rest)

def readText : Nat → List Char → Option (List Char × List Char)
  | 0, _ => none
  | _ + 1, [] => none
  | _ + 1, '"' :: rest => some ([], rest)
  | fuel + 1, '\\' :: 'u' :: a :: b :: c :: d :: rest =>
    match unit? a b c d with
    | none => none
    | some n =>
      match afterUnit n rest with
      | none => none
      | some (c, rest) => push c (readText fuel rest)
  | fuel + 1, '\\' :: e :: rest =>
    match escape? e with
    | none => none
    | some c => push c (readText fuel rest)
  | fuel + 1, c :: rest => if c.toNat < 0x20 then none else push c (readText fuel rest)

def takeDigits (s : List Char) : Option (List Char × List Char) :=
  match s.takeWhile Text.isDigit with
  | [] => none
  | digits => some (digits, s.dropWhile Text.isDigit)

-- An integer part has no leading zero.
def takeInteger (s : List Char) : Option (List Char × List Char) :=
  match s with
  | '0' :: rest => some (['0'], rest)
  | _ => takeDigits s

def takeFraction (s : List Char) : Option (Option (List Char) × List Char) :=
  match s with
  | '.' :: rest => (takeDigits rest).map fun (digits, rest) => (some digits, rest)
  | _ => some (none, s)

def takeExponent (s : List Char) : Option (Option Int × List Char) :=
  match s with
  | c :: rest =>
    if c = 'e' || c = 'E' then
      let (sign, rest) : Int × List Char := match rest with
        | '-' :: rest => (-1, rest)
        | '+' :: rest => (1, rest)
        | _ => (1, rest)
      (takeDigits rest).map fun (digits, rest) =>
        (some (sign * (Text.digitsValue 0 digits : Int)), rest)
    else some (none, s)
  | [] => some (none, s)

def readNumber (s : List Char) : Option (JsonNumber × List Char) := do
  let (negative, s) := match s with
    | '-' :: rest => (true, rest)
    | _ => (false, s)
  let (integer, s) ← takeInteger s
  let (fraction, s) ← takeFraction s
  let (exponent, s) ← takeExponent s
  match negative, fraction, exponent with
  | false, none, none => some (.natural (Text.digitsValue 0 integer), s)
  | _, _, _ =>
    let decimals := fraction.getD []
    some (.scientific negative (Text.digitsValue 0 (integer ++ decimals))
      (exponent.getD 0 - decimals.length), s)

def dropWord : List Char → List Char → Option (List Char)
  | [], s => some s
  | _ :: _, [] => none
  | w :: word, c :: s => if w = c then dropWord word s else none

mutual

def readValue : Nat → List Char → Option (Json × List Char)
  | 0, _ => none
  | fuel + 1, s =>
    match skipSpace s with
    | '{' :: rest =>
      match skipSpace rest with
      | '}' :: rest => some (.object [], rest)
      | rest => (readFields fuel rest).map fun (fields, rest) => (.object fields, rest)
    | '[' :: rest =>
      match skipSpace rest with
      | ']' :: rest => some (.array [], rest)
      | rest => (readItems fuel rest).map fun (items, rest) => (.array items, rest)
    | '"' :: rest =>
      (readText fuel rest).map fun (s, rest) => (.string (String.ofList s), rest)
    | 't' :: rest => (dropWord "rue".toList rest).map fun rest => (.bool true, rest)
    | 'f' :: rest => (dropWord "alse".toList rest).map fun rest => (.bool false, rest)
    | 'n' :: rest => (dropWord "ull".toList rest).map fun rest => (.null, rest)
    | s => (readNumber s).map fun (n, rest) => (.number n, rest)

def readItems : Nat → List Char → Option (List Json × List Char)
  | 0, _ => none
  | fuel + 1, s =>
    match readValue fuel s with
    | none => none
    | some (item, rest) =>
      match skipSpace rest with
      | ',' :: rest => (readItems fuel rest).map fun (items, rest) => (item :: items, rest)
      | ']' :: rest => some ([item], rest)
      | _ => none

def readFields : Nat → List Char → Option (Fields × List Char)
  | 0, _ => none
  | fuel + 1, s =>
    match skipSpace s with
    | '"' :: rest =>
      match readText fuel rest with
      | none => none
      | some (key, rest) =>
        match skipSpace rest with
        | ':' :: rest =>
          match readValue fuel rest with
          | none => none
          | some (value, rest) =>
            match skipSpace rest with
            | ',' :: rest =>
              (readFields fuel rest).map fun (fields, rest) =>
                ((String.ofList key, value) :: fields, rest)
            | '}' :: rest => some ([(String.ofList key, value)], rest)
            | _ => none
        | _ => none
    | _ => none

end

def parse? (text : String) : Option Json :=
  let s := text.toList
  match readValue (2 * s.length + 2) s with
  | some (value, rest) => if (skipSpace rest).isEmpty then some value else none
  | none => none

end OnlineDdl.Json
