import Runboard.Url.Host

namespace Runboard

structure Url.Authority where
  /-- User name and password with the `@` behind them, or nothing. -/
  user : String
  host : Url.Host
  /-- The number of the service, unless it is the usual one of the scheme. -/
  portNumber : Option Nat
deriving DecidableEq, Repr

inductive Url.Path
  /-- Segments, each with a slash before it. -/
  | segments (items : List String)
  /-- A text that is not divided. -/
  | plain (text : String)
deriving DecidableEq, Repr

structure Url where
  scheme : String
  authority : Option Url.Authority
  path : Url.Path
  query : Option String
  fragment : Option String
deriving DecidableEq, Repr

namespace Url

def Path.text : Path → String
  | .segments items => String.join (items.map ("/" ++ ·))
  | .plain text => text

def Authority.text (a : Authority) : String :=
  "//" ++ a.user ++ a.host.text ++ (a.portNumber.elim "" fun p => ":" ++ toString p)

/-- The text between scheme and path. Where nobody is named, a path that starts with two slashes
is kept apart from an authority by a segment that changes nothing. -/
def lead (u : Url) : String :=
  match u.authority, u.path with
  | some a, _ => a.text
  | none, .segments ("" :: _ :: _) => "/."
  | none, _ => ""

def text (u : Url) : String :=
  u.scheme ++ ":" ++ u.lead ++ u.path.text ++ (u.query.elim "" ("?" ++ ·)) ++
    (u.fragment.elim "" ("#" ++ ·))

/-- The address is one of the web, which the catalog can be loaded from. -/
def isWeb (u : Url) : Bool := u.scheme = "http" || u.scheme = "https"

/-- The families of schemes that are read differently. -/
inductive Family
  | web
  | file
  | other
deriving DecidableEq, Repr

namespace Family

def ofScheme (scheme : String) : Family :=
  if scheme = "file" then .file
  else if ["http", "https", "ws", "wss", "ftp"].contains scheme then .web
  else .other

/-- A slash, also one that leans the other way where the family allows it. -/
def isSlash (family : Family) (c : Char) : Bool := c = '/' || (c = '\\' && family ≠ .other)

def endsAuthority (family : Family) (c : Char) : Bool :=
  c = '?' || c = '#' || family.isSlash c

end Family

/-- The number of the service that a scheme usually means. -/
def usualPort? (scheme : String) : Option Nat :=
  if scheme = "http" || scheme = "ws" then some 80
  else if scheme = "https" || scheme = "wss" then some 443
  else if scheme = "ftp" then some 21
  else none

/-- Drops blanks and controls around a text, and tabs and line ends inside it. -/
def trimmed (cs : List Char) : List Char :=
  let isEdge (c : Char) : Bool := c.toNat ≤ 0x20
  let inner := ((cs.dropWhile isEdge).reverse.dropWhile isEdge).reverse
  inner.filter fun c => c ≠ '\t' && c ≠ '\n' && c ≠ '\r'

def isSchemeChar (c : Char) : Bool := c.isAlphanum || c = '+' || c = '-' || c = '.'

def splitScheme? (cs : List Char) : Option (String × List Char) :=
  if (cs.head?.map Char.isAlpha).getD false then
    match cs.dropWhile isSchemeChar with
    | ':' :: rest => some (String.ofList ((cs.takeWhile isSchemeChar).map Char.toLower), rest)
    | _ => none
  else none

/-- The user name and password in their written form. The first colon divides them; a colon with
nothing behind it is dropped. -/
def userText (cs : List Char) : String :=
  let name := escaped notInUser (cs.takeWhile (· ≠ ':'))
  let password := escaped notInUser ((cs.dropWhile (· ≠ ':')).drop 1)
  let written := if password.isEmpty then name else name ++ ':' :: password
  if written.isEmpty then "" else String.ofList (written ++ ['@'])

def splitUser (cs : List Char) : Option (List Char) × List Char :=
  if cs.contains '@' then
    let host := (cs.reverse.takeWhile (· ≠ '@')).reverse
    (some (cs.take (cs.length - host.length - 1)), host)
  else (none, cs)

/-- Divides a host from the number behind it, at the first colon that is not in brackets. -/
def splitPort (inBrackets : Bool) : List Char → List Char × Option (List Char)
  | [] => ([], none)
  | c :: rest =>
    if c = ':' && !inBrackets then ([], some rest)
    else
      let (host, number) := splitPort ((inBrackets || c = '[') && c ≠ ']') rest
      (c :: host, number)

/-- The number behind a host; no digits mean the usual one. -/
def readPort (scheme : String) (cs : List Char) : Except Error (Option Nat) :=
  if ¬ cs.all Char.isDigit then .error .badPort
  else
    match number? 10 cs with
    | some n =>
      if 65535 < n then .error .badPort
      else .ok (if cs.isEmpty || usualPort? scheme = some n then none else some n)
    | none => .error .badPort

/-- Reads an authority. Only a scheme outside the web may leave the host out, and then also user
and number. -/
def readAuthority (family : Family) (scheme : String) (cs : List Char) (more : Bool) :
    Except Error Authority := do
  let (user, host) := splitUser cs
  let written := (user.map userText).getD ""
  if user = some [] && host.isEmpty && more then .error .emptyHost
  let (name, number) := splitPort false host
  if name.isEmpty && (family = .web || number.isSome) then .error .emptyHost
  let host ← if family = .web then webHost name else plainHost name
  let portNumber ← (number.map (readPort scheme)).getD (.ok none)
  if name.isEmpty && !written.isEmpty then .error .emptyHost
  return ⟨written, host, portNumber⟩

/-- A drive: a letter with `:` or `|` behind it. -/
def isDrive : List Char → Bool
  | [letter, mark] => letter.isAlpha && (mark = ':' || mark = '|')
  | _ => false

def splitPath (family : Family) : List Char → List (List Char)
  | [] => [[]]
  | c :: rest =>
    if family.isSlash c then [] :: splitPath family rest
    else
      match splitPath family rest with
      | piece :: pieces => (c :: piece) :: pieces
      | [] => [[c]]

/-- The segment stands for where it is. -/
def isHere (segment : List Char) : Bool :=
  [".", "%2e", "%2E"].contains (String.ofList segment)

/-- The segment stands for one step up. -/
def isUp (segment : List Char) : Bool :=
  ["..", "%2e%2e", "%2e.", ".%2e"].contains (String.ofList (segment.map Char.toLower))

/-- One step up; the drive of a file is not left. -/
def stepUp (family : Family) (segments : List (List Char)) : List (List Char) :=
  match segments.getLast? with
  | some last =>
    if family = .file && isDrive last then segments else segments.dropLast
  | none => []

/-- A segment in its written form; the drive of a file is written with a colon. -/
def writtenSegment (family : Family) (before : List (List Char)) (segment : List Char) :
    List Char :=
  if family = .file && before.all List.isEmpty && isDrive segment then segment.take 1 ++ [':']
  else segment

/-- The segments of a path with steps taken. -/
def resolve (family : Family) (before : List (List Char)) :
    List (List Char) → List (List Char)
  | [] => before
  | piece :: rest =>
    let segment := escaped notInPath piece
    let tail := if rest.isEmpty then [[]] else []
    if isUp segment then resolve family (stepUp family before ++ tail) rest
    else if isHere segment then resolve family (before ++ tail) rest
    else resolve family (before ++ [writtenSegment family before segment]) rest

/-- Reads a path. A slash at its front divides nothing; an empty path of the web is one slash. -/
def readPath (family : Family) (cs : List Char) : List (List Char) :=
  match cs with
  | [] => if family = .other then [] else [[]]
  | c :: rest => resolve family [] (splitPath family (if family.isSlash c then rest else cs))

/-- Divides what follows the authority into path, query and fragment. -/
def splitTail (cs : List Char) : List Char × Option (List Char) × Option (List Char) :=
  let address := cs.takeWhile (· ≠ '#')
  let fragment := (cs.dropWhile (· ≠ '#')).tail?
  let path := address.takeWhile (· ≠ '?')
  let query := (address.dropWhile (· ≠ '?')).tail?
  (path, query, fragment)

def build (scheme : String) (family : Family) (authority : Option Authority)
    (readPath : List Char → Path) (tail : List Char) : Url :=
  let (path, query, fragment) := splitTail tail
  let querySet := if family = .other then notInQuery else notInWebQuery
  { scheme, authority
    path := readPath path
    query := query.map fun q => String.ofList (escaped querySet q)
    fragment := fragment.map fun f => String.ofList (escaped notInFragment f) }

def segmentPath (family : Family) (cs : List Char) : Path :=
  .segments ((readPath family cs).map String.ofList)

/-- A path of a file: slashes at its front count as one. -/
def filePath (cs : List Char) : Path :=
  let segments := (readPath .file cs).dropWhile List.isEmpty
  .segments ((if segments.isEmpty then [[]] else segments).map String.ofList)

def readWithAuthority (scheme : String) (family : Family) (cs : List Char) : Except Error Url := do
  let authority := cs.takeWhile (!family.endsAuthority ·)
  let rest := cs.dropWhile (!family.endsAuthority ·)
  let authority ← readAuthority family scheme authority (!rest.isEmpty)
  return build scheme family (some authority) (segmentPath family) rest

def startsWithDrive : Path → Bool
  | .segments (first :: _) => isDrive first.toList
  | _ => false

/-- Reads what follows the scheme of a file. Its host may be left out, and the local host is left
out; so is any host before a drive. -/
def readFile (cs : List Char) : Except Error Url := do
  let hostless (tail : List Char) : Url :=
    build "file" .file (some ⟨"", .name "", none⟩) filePath tail
  match cs with
  | a :: b :: rest =>
    if Family.file.isSlash a && Family.file.isSlash b then
      let name := rest.takeWhile (!Family.file.endsAuthority ·)
      let tail := rest.dropWhile (!Family.file.endsAuthority ·)
      if isDrive name then return hostless rest
      if name.isEmpty then return hostless tail
      let host ← webHost name
      let u := hostless tail
      if host = .name "localhost" || startsWithDrive u.path then return u
      return { u with authority := some ⟨"", host, none⟩ }
    else return hostless cs
  | _ => return hostless cs

def readOther (scheme : String) : List Char → Except Error Url
  | '/' :: '/' :: rest => readWithAuthority scheme .other rest
  | '/' :: rest => .ok (build scheme .other none (segmentPath .other) ('/' :: rest))
  | cs => .ok (build scheme .other none (fun p => .plain (String.ofList (escaped neverPlain p))) cs)

def ofText (text : String) : Except Error Url :=
  match splitScheme? (trimmed text.toList) with
  | none => .error .noScheme
  | some (scheme, rest) =>
    match Family.ofScheme scheme with
    | .web => readWithAuthority scheme .web (rest.dropWhile Family.web.isSlash)
    | .file => readFile rest
    | .other => readOther scheme rest

end Url

end Runboard
