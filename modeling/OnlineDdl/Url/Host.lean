import OnlineDdl.Text.Decimal
import OnlineDdl.Text.Pieces
import OnlineDdl.Url.Domain.Basic

/-! Hosts in URLs: IPv6 addresses in brackets, and names, which some schemes check as domains and
others take as they are. -/

set_option autoImplicit false

namespace OnlineDdl.Url

def readBase (base : Nat) (s : List Char) : Option Nat :=
  s.foldl (fun value c =>
    match value, Text.hexValue? c with
    | some value, some digit => if digit < base then some (value * base + digit) else none
    | _, _ => none) (some 0)

def octet? (s : List Char) : Option Nat :=
  match Text.readDigits s with
  | some n => if n ≤ 255 ∧ (s.length = 1 ∨ s.head? ≠ some '0') then some n else none
  | none => none

def dottedQuad? (s : List Char) : Option (List Nat) :=
  match Text.pieces (· == '.') s with
  | [a, b, c, d] => [a, b, c, d].mapM octet?
  | _ => none

def group? (s : List Char) : Option Nat :=
  if s.isEmpty || 4 < s.length then none else readBase 16 s

-- Groups with colons between them; a dotted quad at the end counts as two.
def groups? : List (List Char) → Option (List Nat)
  | [] => some []
  | [last] =>
    match group? last, dottedQuad? last with
    | some n, _ => some [n]
    | none, some [a, b, c, d] => some [a * 256 + b, c * 256 + d]
    | none, _ => none
  | s :: rest =>
    match group? s, groups? rest with
    | some n, some others => some (n :: others)
    | _, _ => none

def splitColons : List Char → Option (List Char × List Char)
  | ':' :: ':' :: rest => some ([], rest)
  | c :: rest => (splitColons rest).map fun (before, after) => (c :: before, after)
  | [] => none

def sideGroups? (s : List Char) : Option (List Nat) :=
  if s.isEmpty then some [] else groups? (Text.pieces (· == ':') s)

-- The eight groups of an address; a pair of colons stands for one or more zeros.
def ipv6Groups? (s : List Char) : Option (List Nat) :=
  match splitColons s with
  | none =>
    match sideGroups? s with
    | some groups => if groups.length = 8 then some groups else none
    | none => none
  | some (before, after) =>
    if before.contains '.' then none
    else
      match sideGroups? before, sideGroups? after with
      | some left, some right =>
        if left.length + right.length ≤ 7 then
          some (left ++ List.replicate (8 - left.length - right.length) 0 ++ right)
        else none
      | _, _ => none

def leadingZeros (groups : List Nat) : Nat := (groups.takeWhile (· == 0)).length

-- Start and length of the longest run of zeros, the first one of equals, from a position on.
def longestZeros (position : Nat) : List Nat → Nat × Nat
  | [] => (position, 0)
  | group :: rest =>
    let here := leadingZeros (group :: rest)
    let (start, length) := longestZeros (position + 1) rest
    if length ≤ here then (position, here) else (start, length)

def hexText (n : Nat) : List Char := Nat.toDigits 16 n

def joinGroups (groups : List Nat) : List Char := Text.joinWith [':'] (groups.map hexText)

-- The shortest text of an address: its longest run of two or more zeros is left out.
def ipv6Text (groups : List Nat) : List Char :=
  let (start, length) := longestZeros 0 groups
  if length < 2 then joinGroups groups
  else joinGroups (groups.take start) ++ [':', ':'] ++ joinGroups (groups.drop (start + length))

def bracketed? (s : List Char) : Option (List Char) :=
  match s.reverse with
  | ']' :: inner => (ipv6Groups? inner.reverse).map fun groups => '[' :: (ipv6Text groups ++ [']'])
  | _ => none

def percentByte (b : UInt8) : List Char := '%' :: (Text.byteHex b).map Char.toUpper

-- Control characters, characters beyond ASCII and those of a class become percent signs with the
-- digits of their bytes.
def percentEncode (special : List Char) (s : List Char) : List Char :=
  s.flatMap fun c =>
    if c.toNat < 0x20 ∨ 0x7F ≤ c.toNat ∨ c ∈ special then
      (String.utf8EncodeChar c).flatMap percentByte
    else [c]

def percentDecode : List Char → List UInt8
  | [] => []
  | '%' :: a :: b :: rest =>
    match Text.hexValue? a, Text.hexValue? b with
    | some high, some low => UInt8.ofNat (high * 16 + low) :: percentDecode rest
    | _, _ => '%'.toUInt8 :: percentDecode (a :: b :: rest)
  | c :: rest => String.utf8EncodeChar c ++ percentDecode rest

def forbiddenInHost : List Char :=
  ['\x00', '\t', '\n', '\r', ' ', '#', '/', ':', '<', '>', '?', '@', '[', '\\', ']', '^', '|']

def opaqueHost? (s : List Char) : Option (List Char) :=
  if s.head? = some '[' then bracketed? (s.drop 1)
  else if s.any forbiddenInHost.contains then none
  else some (percentEncode [] s)

-- A number of an IPv4 address in base ten, eight or sixteen; nothing at all after the mark of the
-- base counts as zero.
def ipv4Number? (s : List Char) : Option Nat :=
  match s with
  | [] => none
  | ['0', 'x'] => some 0
  | ['0', 'X'] => some 0
  | '0' :: 'x' :: rest => readBase 16 rest
  | '0' :: 'X' :: rest => readBase 16 rest
  | '0' :: c :: rest => readBase 8 (c :: rest)
  | s => readBase 10 s

def withoutRoot (labels : List (List Char)) : List (List Char) :=
  match labels.reverse with
  | [] :: rest => rest.reverse
  | _ => labels

def endsInNumber (labels : List (List Char)) : Bool :=
  match labels.reverse with
  | last :: _ => (!last.isEmpty && last.all Text.isDigit) || (ipv4Number? last).isSome
  | [] => false

-- Whether numbers make up an IPv4 address: the last one fills the bytes that are left.
def isIpv4 (numbers : List Nat) : Bool :=
  match numbers.reverse with
  | [] => false
  | last :: others =>
    decide (numbers.length ≤ 4) && others.all (· ≤ 255) && decide (last < Nat.pow 256 (5 - numbers.length))

-- Whether labels name a host: those that end in a number must be an IPv4 address.
def isHostName (labels : List (List Char)) : Bool :=
  if endsInNumber labels then ((labels.mapM ipv4Number?).map isIpv4).getD false else true

def decodedText? (s : List Char) : Option (List Char) :=
  (String.fromUTF8? (ByteArray.mk (percentDecode s).toArray)).map String.toList

-- Whether a host is one that schemes of the web accept: an address in brackets, or a domain of
-- which not only empty text is left.
def isWebHost (s : List Char) : Bool :=
  if s.head? = some '[' then (bracketed? (s.drop 1)).isSome
  else
    match (decodedText? s).bind Domain.labels? with
    | some labels => decide (labels ≠ [[]]) && isHostName (withoutRoot labels)
    | none => false

end OnlineDdl.Url
