import Cutroom.Web.Host

/-! Addresses of the web and elsewhere. Reading an address puts it into its normal form: white space is dropped,
    the host is brought into one form, dots in the path are resolved, and characters that may not stand in a part
    are percent-encoded. What may stand where depends on the scheme. -/

namespace Cutroom

/-- An address in its normal form. --/
structure Url where
  scheme : String
  /-- Who signs in at the host, percent-encoded, and empty when nobody does. -/
  user : String
  password : Option String
  /-- The host, which may be empty; none in an address that has no place for one. -/
  host : Option Host
  /-- The number of the endpoint at the host, unless it is the usual one. -/
  endpoint : Option Nat
  path : String
  query : Option String
  fragment : Option String
deriving DecidableEq

namespace Url

/-! ### Schemes -/

/-- The schemes of the web, with the numbers of their usual endpoints. --/
def usualEndpoints : List (String × Nat) := [("http", 80), ("https", 443), ("ws", 80), ("wss", 443), ("ftp", 21)]

/-- What kind of address a scheme stands for: one of the web, one of a file, or another one. --/
inductive Kind where
  | web
  | file
  | other
deriving DecidableEq

def kindOf (scheme : String) : Kind :=
  if scheme = "file" then .file else if (usualEndpoints.lookup scheme).isSome then .web else .other

def isSchemeChar (c : Char) : Bool := c.isAlphanum || c = '+' || c = '-' || c = '.'

/-- The scheme in lower case, and what follows its colon. --/
def schemeOf? (cs : List Char) : Option (List Char × List Char) :=
  match cs.span isSchemeChar with
  | (c :: name, ':' :: rest) => if c.isAlpha then some ((c :: name).map Char.toLower, rest) else none
  | _ => none

/-- Slashes; a backslash counts as one, except in the addresses of other kinds. --/
def isSlash (k : Kind) (c : Char) : Bool := c = '/' || (c = '\x5c' && k != .other)

/-- Characters that end the host and what belongs to it. --/
def endsAuthority (k : Kind) (c : Char) : Bool := isSlash k c || c = '?' || c = '#'

/-! ### Characters -/

/-- The text of an address without white space and control characters at its ends, and without tabs and
    line ends. --/
def cleaned (cs : List Char) : List Char :=
  let blank (c : Char) : Bool := c.toNat ≤ 0x20
  ((cs.dropWhile blank).reverse.dropWhile blank).reverse.filter fun c => c != '\t' && c != '\n' && c != '\r'

/-- Characters that may not stand in a fragment. --/
def notInFragment (c : Char) : Bool := Percent.isForeign c || [' ', '\x22', '<', '>', '\x60'].contains c

/-- Characters that may not stand in a path. --/
def notInPath (c : Char) : Bool := notInFragment c || ['#', '?', '\x7b', '\x7d'].contains c

/-- Characters that may not stand in the name or the password of a user. --/
def notInUser (c : Char) : Bool :=
  notInPath c || ['/', ':', ';', '=', '@', '[', '\x5c', ']', '^', '|'].contains c

/-- Characters that may not stand in a query. --/
def notInQuery (k : Kind) (c : Char) : Bool :=
  Percent.isForeign c || [' ', '\x22', '#', '<', '>'].contains c || (c = '\x27' && k != .other)

/-! ### The authority -/

/-- The user and the password that an address names, and what follows the last at sign. There is none to name if
    nothing stands before the only at sign; then a host has to follow. --/
def userOf? (k : Kind) (cs : List Char) : Option (List Char × Option (List Char) × List Char) :=
  let (authority, path) := cs.span fun c => !endsAuthority k c
  match authority.reverse.span (· != '@') with
  | (_, []) => some ([], none, cs)
  | (host, _ :: info) =>
    let rest := host.reverse ++ path
    if info.isEmpty && host.isEmpty && !path.isEmpty then none
    else
      let (user, password) := info.reverse.span (· != ':')
      some (user, if (password.drop 1).isEmpty then none else some (password.drop 1), rest)

/-- Splits a text at the end of a host: a colon ends it, except between brackets. --/
def spanHost (k : Kind) (inBrackets : Bool) : List Char → List Char × List Char
  | [] => ([], [])
  | c :: cs =>
    if endsAuthority k c || (c = ':' && !inBrackets) then ([], c :: cs)
    else
      let (host, rest) := spanHost k (if c = '[' then true else if c = ']' then false else inBrackets) cs
      (c :: host, rest)

/-- The number of an endpoint behind its colon, none for one that is left out or usual, and the rest. --/
def endpointOf? (usual : Option Nat) (cs : List Char) : Option (Option Nat × List Char) :=
  let (digits, rest) := cs.span Decimal.isDigit
  if (rest.head?.map fun c => !endsAuthority .web c).getD false || Nat.pow 2 16 ≤ Decimal.value digits then none
  else
    let n := Decimal.value digits
    some (if digits.isEmpty || usual = some n then none else some n, rest)

/-- The host of an address of the web or elsewhere. --/
def hostOf? (k : Kind) (cs : List Char) : Option Host := if k = .other then Host.ofOther? cs else Host.ofWeb? cs

/-! ### The path -/

/-- A part of a path that names the place it stands in. --/
def isDot (part : List Char) : Bool := [".", "%2e"].contains (String.ofList (part.map Char.toLower))

/-- A part of a path that leads back. --/
def isDotDot (part : List Char) : Bool :=
  ["..", ".%2e", "%2e.", "%2e%2e"].contains (String.ofList (part.map Char.toLower))

/-- A letter and a colon or a bar, which name a drive. --/
def isDriveName : List Char → Bool
  | [c, d] => c.isAlpha && (d = ':' || d = '|')
  | _ => false

/-- A part that names a drive, from which no path leads back. --/
def isDrive (part : List Char) : Bool := isDriveName (part.takeWhile (· != '\x5c'))

/-- Goes one part back; the last part comes first. --/
def back : List (List Char) → List (List Char)
  | part :: done => if isDrive part then part :: done else done
  | [] => []

/-- Goes to one more part. The path of a file that starts with a drive has a colon behind the letter. --/
def forth (k : Kind) (done : List (List Char)) (part : List Char) : List (List Char) :=
  if k = .file && done.isEmpty && isDriveName part then [part.take 1 ++ [':']] else part :: done

/-- Goes along the parts of a path; `done` holds the last one first. A dot at the end leaves an empty
    part. --/
def resolve (k : Kind) (done : List (List Char)) : List (List Char) → List (List Char)
  | [] => done.reverse
  | [part] =>
    if isDot part then ([] :: done).reverse
    else if isDotDot part then ([] :: back done).reverse
    else (forth k done part).reverse
  | part :: rest =>
    if isDot part then resolve k done rest
    else if isDotDot part then resolve k (back done) rest
    else resolve k (forth k done part) rest

/-- The parts of a path between its slashes, one at least. --/
def parts (k : Kind) : List Char → List (List Char)
  | [] => [[]]
  | c :: cs =>
    if isSlash k c then [] :: parts k cs
    else
      match parts k cs with
      | part :: rest => (c :: part) :: rest
      | [] => [[c]]

/-- The parts of a path in their normal form. --/
def normalParts (k : Kind) (cs : List Char) : List (List Char) :=
  resolve k [] ((parts k cs).map (Percent.encode notInPath))

def pathChars (parts : List (List Char)) : List Char := parts.flatMap fun part => '/' :: part

/-- What stands behind the slash that a path starts with; the slash may be missing. --/
def behindSlash (k : Kind) : List Char → List Char
  | [] => []
  | c :: cs => if isSlash k c then cs else c :: cs

/-! ### Reading -/

/-- Splits a text at the first `c`, none of which is kept. --/
def splitAt (c : Char) (cs : List Char) : List Char × Option (List Char) :=
  match cs.span (· != c) with
  | (before, []) => (before, none)
  | (before, _ :: after) => (before, some after)

/-- An address of a scheme, with the path that `path` makes of what stands before the query. --/
def ofTail (k : Kind) (scheme : String) (host : Option Host) (path : List Char → List Char) (cs : List Char) : Url :=
  let (body, fragment) := splitAt '#' cs
  let (place, query) := splitAt '?' body
  { scheme := scheme
    user := ""
    password := none
    host := host
    endpoint := none
    path := String.ofList (path place)
    query := query.map fun q => String.ofList (Percent.encode (notInQuery k) q)
    fragment := fragment.map fun f => String.ofList (Percent.encode notInFragment f) }

/-- The path behind a host. In the web it is never empty. --/
def pathAtHost (k : Kind) (cs : List Char) : List Char :=
  if k = .other && cs.isEmpty then [] else pathChars (normalParts k (behindSlash k cs))

/-- Reads an address behind the two slashes that announce a host. --/
def ofAuthority? (k : Kind) (scheme : String) (cs : List Char) : Option Url := do
  let (user, password, rest) ← userOf? k cs
  let (name, rest) := spanHost k false rest
  let host ← hostOf? k name
  let behindColon := if rest.head? = some ':' then some (rest.drop 1) else none
  if name.isEmpty && (behindColon.isSome || !user.isEmpty || password.isSome) then none
  let (endpoint, rest) ← (behindColon.map (endpointOf? (usualEndpoints.lookup scheme))).getD (some (none, rest))
  let encoded (cs : List Char) : String := String.ofList (Percent.encode notInUser cs)
  some { ofTail k scheme (some host) (pathAtHost k) rest with
    user := encoded user
    password := password.map encoded
    endpoint := endpoint }

/-- The path of a file, which starts with one slash. --/
def filePath (parts : List (List Char)) : List Char := '/' :: (pathChars parts).dropWhile (· = '/')

/-- A file at no host. --/
def localFile (cs : List Char) : Url :=
  ofTail .file "file" (some (.named "")) (fun place => filePath (normalParts .file place)) cs

/-- A file at a host, unless its path starts with a drive. --/
def remoteFile (host : Host) (cs : List Char) : Url :=
  let partsOf (place : List Char) := normalParts .file (behindSlash .file place)
  let file := ofTail .file "file" (some host) (fun place => filePath (partsOf place)) cs
  let hasDrive := ((partsOf (cs.takeWhile fun c => c != '?' && c != '#')).head?.map isDriveName).getD false
  if hasDrive then { file with host := some (.named "") } else file

/-- Reads the address of a file. Two slashes announce a host, which may be missing; one that names a drive is none,
    and the host of the machine itself is left out. --/
def ofFile? (cs : List Char) : Option Url :=
  match cs with
  | c :: d :: rest =>
    if isSlash .file c && isSlash .file d then
      let (name, path) := rest.span fun c => !endsAuthority .file c
      if name.isEmpty || isDriveName name then some (localFile rest)
      else
        (Host.ofWeb? name).map fun host => if host = .named "localhost" then localFile path else remoteFile host path
    else some (localFile (behindSlash .file cs))
  | cs => some (localFile (behindSlash .file cs))

/-- Reads an address that has no place for a host. Its path has parts only if it starts with a slash. --/
def ofPlain (scheme : String) (cs : List Char) : Url :=
  ofTail .other scheme none
    (fun place =>
      if place.head? = some '/' then pathChars (normalParts .other (place.drop 1))
      else Percent.encode Percent.isForeign place) cs

/-- Reads an address; none when it has no scheme, or a host that cannot be. --/
def ofText? (s : String) : Option Url := do
  let (scheme, rest) ← schemeOf? (cleaned s.toList)
  let scheme := String.ofList scheme
  match kindOf scheme with
  | .web => ofAuthority? .web scheme (rest.dropWhile (isSlash .web))
  | .file => ofFile? rest
  | .other =>
    match rest with
    | '/' :: '/' :: rest => ofAuthority? .other scheme rest
    | rest => some (ofPlain scheme rest)

/-! ### Writing -/

/-- The host with the endpoint. --/
def authority (u : Url) : String :=
  ((u.host.map Host.text).getD "") ++ String.ofList ((u.endpoint.map fun n => ':' :: Decimal.numeral n).getD [])

/-- What stands before the host: the user and the password, if anybody signs in. --/
def userChars (u : Url) : List Char :=
  let password := (u.password.map fun p => ':' :: p.toList).getD []
  if u.user.isEmpty && password.isEmpty then [] else u.user.toList ++ password ++ ['@']

/-- The path with what stands before it. A path that could be taken for a host has a dot in front. --/
def placeChars (u : Url) : List Char :=
  if u.host.isSome then ['/', '/'] ++ u.userChars ++ u.authority.toList ++ u.path.toList
  else if ['/', '/'].isPrefixOf u.path.toList then ['/', '.'] ++ u.path.toList
  else u.path.toList

/-- What a request asks the server for: the path and the query. --/
def targetChars (u : Url) : List Char := u.path.toList ++ (u.query.map fun q => '?' :: q.toList).getD []

def target (u : Url) : String := String.ofList u.targetChars

def text (u : Url) : String :=
  String.ofList (u.scheme.toList ++ ':' :: u.placeChars ++ (u.query.map fun q => '?' :: q.toList).getD [] ++
    (u.fragment.map fun f => '#' :: f.toList).getD [])

/-! ### What an address says -/

/-- The host by itself; none where there is none or an empty one. --/
def hostName? (u : Url) : Option String := (u.host.map Host.name).filter fun name => !name.isEmpty

/-- The number of the endpoint, the usual one where none is written. --/
def endpoint? (u : Url) : Option Nat := u.endpoint <|> usualEndpoints.lookup u.scheme

/-- The user and the password that the address gives away. A password that is no text counts as none, a user that
    is no text hides both. --/
def account? (u : Url) : Option (String × Option String) := do
  let user ← Percent.text? u.user.toList
  let password := u.password.bind fun p => Percent.text? p.toList
  if user.isEmpty && password.isNone then none else some (user, password)

/-- The address without the user and the password that it gives away. --/
def withoutAccount (u : Url) : Url := if u.account?.isSome then { u with user := "", password := none } else u

/-- Adds parameters, the names and values of which need no encoding, to the query. --/
def withParameters (u : Url) (parameters : List (String × String)) : Url :=
  let added := String.intercalate "&" (parameters.map fun p => p.1 ++ "=" ++ p.2)
  if parameters.isEmpty then u
  else
    match u.query with
    | none => { u with query := some added }
    | some q => { u with query := some (if q.isEmpty then added else q ++ "&" ++ added) }

/-- The longest address that a request can be sent to, in bytes. --/
def lengthLimit : Nat := 65534

/-- The address is that of a page. --/
def isPage (u : Url) : Bool := u.scheme = "http" || u.scheme = "https"

/-- A request can name the address: its host is one that a request can name, and it is not too long. --/
def isNameable (u : Url) : Bool :=
  u.text.utf8ByteSize ≤ lengthLimit &&
    !(u.authority.toList.any fun c => ['\x22', '\x60', '\x7b', '\x7d'].contains c)

/-- A request can be sent to the address. --/
def takesRequests (u : Url) : Bool := u.isPage && u.isNameable

end Url
end Cutroom
