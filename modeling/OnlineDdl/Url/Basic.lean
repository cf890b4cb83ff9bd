import OnlineDdl.Url.Host

/-! URLs, as far as a database is addressed by one: the scheme, the host, the path with its dot
segments resolved, and the pairs of the query. -/

set_option autoImplicit false

namespace OnlineDdl

-- Host, path and query are kept for schemes outside the web alone.
structure Url where
  scheme : String
  host : Option String
  path : String
  query : List Char
deriving DecidableEq, Repr

namespace Url

-- Drops control characters and blanks around a text, and tabs and line ends inside it.
def tidy (s : List Char) : List Char :=
  let outer := fun (c : Char) => c.toNat ≤ 0x20
  (Text.dropWhileEnd outer (s.dropWhile outer)).filter fun c => c ≠ '\t' ∧ c ≠ '\n' ∧ c ≠ '\r'

def isSchemeChar (c : Char) : Bool := Text.isLetter c || Text.isDigit c || c = '+' || c = '-' || c = '.'

def takeScheme (s : List Char) : Option (List Char × List Char) :=
  match s with
  | [] => none
  | c :: _ =>
    if Text.isLetter c then
      match s.dropWhile isSchemeChar with
      | ':' :: rest => some ((s.takeWhile isSchemeChar).map Char.toLower, rest)
      | _ => none
    else none

def endsAuthority (special : Bool) (c : Char) : Bool :=
  c = '/' || c = '?' || c = '#' || (special && c = '\\')

-- The host at the start of a text, where a colon inside brackets belongs to it.
def takeHost (inBrackets : Bool) : List Char → List Char × List Char
  | [] => ([], [])
  | c :: rest =>
    if c = ':' ∧ !inBrackets then ([], c :: rest)
    else
      let inside := if c = '[' then true else if c = ']' then false else inBrackets
      let (host, after) := takeHost inside rest
      (c :: host, after)

-- Whether the text after a host is empty or a port below 2^16, which may be left out.
def isPort (s : List Char) : Bool :=
  match s with
  | [] => true
  | ':' :: digits =>
    digits.isEmpty || (Text.readDigits digits).any fun n => decide (n < Text.u16Bound)
  | _ => false

-- The credentials count as given where they are more than a colon.
def hasCredentials (userinfo : List Char) : Bool := userinfo ≠ [] ∧ userinfo ≠ [':']

-- The host of an authority, or nothing where its text is empty, and what follows a backslash that
-- ends the port.
def opaqueAuthority? (s after : List Char) : Option (Option (List Char) × List Char) := do
  let (userinfo, hostPort) ←
    match Text.splitLast '@' s with
    | none => some ([], s)
    | some ([], rest) => if rest.isEmpty && !after.isEmpty then none else some ([], rest)
    | some parts => some parts
  let (host, portText) := takeHost false hostPort
  let (port, rest) := portText.span (· ≠ '\\')
  if !isPort port then none
  else
    let host ← opaqueHost? host
    if host.isEmpty then
      if hasCredentials userinfo || !port.isEmpty then none else some (none, rest)
    else some (some host, rest)

def isWebAuthority (s : List Char) : Bool :=
  let hostPort := match Text.splitLast '@' s with
    | none => s
    | some (_, rest) => rest
  let (host, port) := takeHost false hostPort
  !host.isEmpty && isPort port && isWebHost host

def isDriveLetter (s : List Char) : Bool :=
  match s with
  | [c, mark] => Text.isLetter c && (mark = ':' || mark = '|')
  | _ => false

def isSingleDot (s : List Char) : Bool := [".", "%2e"].contains (String.ofList (s.map Char.toLower))

def isDoubleDot (s : List Char) : Bool :=
  ["..", ".%2e", "%2e.", "%2e%2e"].contains (String.ofList (s.map Char.toLower))

def startsWithDriveLetter (s : List Char) : Bool := isDriveLetter (s.takeWhile (· ≠ '\\'))

-- Takes back the last segment, which stays where it starts with a drive letter.
def dropSegment : List (List Char) → List (List Char)
  | [] => []
  | s :: rest => if startsWithDriveLetter s then s :: rest else rest

-- Resolves dot segments; the segments so far are reversed.
def resolveDots (done : List (List Char)) : List (List Char) → List (List Char)
  | [] => done.reverse
  | [s] =>
    if isDoubleDot s then ([] :: dropSegment done).reverse
    else if isSingleDot s then ([] :: done).reverse
    else (s :: done).reverse
  | s :: rest =>
    if isDoubleDot s then resolveDots (dropSegment done) rest
    else if isSingleDot s then resolveDots done rest
    else resolveDots (s :: done) rest

def encodedInPath : List Char := [' ', '"', '<', '>', '`', '#', '?', '\x7b', '\x7d']

def pathText (s : List Char) : List Char :=
  if s.isEmpty then []
  else
    let relative := if s.head? = some '/' then s.drop 1 else s
    let segments := (Text.pieces (· == '/') relative).map (percentEncode encodedInPath)
    '/' :: Text.joinWith ['/'] (resolveDots [] segments)

def queryText (s : List Char) : List Char :=
  match s with
  | '?' :: rest => rest.takeWhile (· ≠ '#')
  | _ => []

def webSchemes : List String := ["http", "https", "ws", "wss", "ftp"]

def ofOpaque? (scheme : String) (rest : List Char) : Option Url :=
  match rest with
  | '/' :: '/' :: rest =>
    let (authority, after) := rest.span fun c => !endsAuthority false c
    match opaqueAuthority? authority after with
    | none => none
    | some (host, backslash) =>
      let (path, after) := (backslash ++ after).span fun c => c ≠ '?' && c ≠ '#'
      some ⟨scheme, host.map String.ofList, String.ofList (pathText path), queryText after⟩
  | _ => some ⟨scheme, none, "", []⟩

-- The host of a file is checked unless it is empty or a drive letter.
def isFileUrl (rest : List Char) : Bool :=
  match rest with
  | a :: b :: rest =>
    if (a = '/' || a = '\\') && (b = '/' || b = '\\') then
      let host := rest.takeWhile fun c => !endsAuthority true c
      host.isEmpty || isDriveLetter host || isWebHost host
    else true
  | _ => true

def parse? (raw : String) : Option Url := do
  let (scheme, rest) ← takeScheme (tidy raw.toList)
  let name := String.ofList scheme
  if webSchemes.contains name then
    let rest := rest.dropWhile fun c => c = '/' || c = '\\'
    if isWebAuthority (rest.takeWhile fun c => !endsAuthority true c) then
      some ⟨name, none, "", []⟩
    else none
  else if name = "file" then
    if isFileUrl rest then some ⟨name, none, "", []⟩ else none
  else ofOpaque? name rest

-- The bytes of a name or a value in a query, where a plus sign stands for a blank.
def formDecode (s : List Char) : List UInt8 :=
  percentDecode (s.map fun c => if c = '+' then ' ' else c)

def queryPairs (url : Url) : List (List UInt8 × List UInt8) :=
  ((Text.pieces (· == '&') url.query).filter (!·.isEmpty)).map fun pair =>
    match Text.splitFirst '=' pair with
    | some (name, value) => (formDecode name, formDecode value)
    | none => (formDecode pair, [])

end Url

end OnlineDdl
