import SqlSchema.Net.Host

/-! Addresses of resources: a scheme, an authority with credentials, host and port, a path and a
query. Reading drops controls and spaces at the ends, and tabs and line ends everywhere. -/

namespace SqlSchema.Net

open SqlSchema.Number SqlSchema.Text

/-- An address. Credentials and query are as they are written; the path is encoded and has no dot
segments, unless it is the opaque text behind a scheme. -/
structure Url where
  scheme : String
  username : List Char := []
  password : List Char := []
  host : Option String := none
  port : Option Nat := none
  path : String := ""
  query : List Char := []
  deriving Repr

/-- The schemes of the web, which need a host. -/
def isWebScheme (scheme : String) : Bool :=
  scheme == "http" || scheme == "https" || scheme == "ws" || scheme == "wss" || scheme == "ftp"

/-- Whether a scheme reads a backslash as a slash. -/
def isSpecialScheme (scheme : String) : Bool :=
  isWebScheme scheme || scheme == "file"

/-- A text without controls and spaces at its ends, and without tabs and line ends. -/
def cleaned (s : String) : List Char :=
  let front := s.toList.dropWhile isControlOrSpace
  let both := (front.reverse.dropWhile isControlOrSpace).reverse
  both.filter fun c => !(c == '\t' || c == '\n' || c == '\r')

/-- Whether a character may stand in a scheme behind its first letter. -/
def isSchemeChar (c : Char) : Bool :=
  isLetter c || isDigit c || c == '+' || c == '-' || c == '.'

def scheme? (cs : List Char) : Option (String × List Char) :=
  match cs with
  | first :: _ =>
    if isLetter first then
      match cs.dropWhile isSchemeChar with
      | ':' :: rest => some (String.ofList ((cs.takeWhile isSchemeChar).map Char.toLower), rest)
      | _ => none
    else none
  | [] => none

def endsAuthority (special : Bool) (c : Char) : Bool :=
  c == '/' || c == '?' || c == '#' || (special && c == '\\')

/-- The credentials before the last at sign of the authority, and what follows it. -/
def readCredentials (special : Bool) (cs : List Char) :
    Except UrlFault ((List Char × List Char) × List Char) :=
  let authority := cs.takeWhile (!endsAuthority special ·)
  let rest := cs.dropWhile (!endsAuthority special ·)
  match cutLast? '@' authority with
  | none => .ok (([], []), cs)
  | some (credentials, host) =>
    if credentials.isEmpty && host.isEmpty && !rest.isEmpty then .error .emptyHost
    else .ok (cutFirst ':' credentials, host ++ rest)

/-- The characters of a host and the rest; a colon within brackets belongs to the host. -/
def spanHost (special inside : Bool) : List Char → List Char × List Char
  | [] => ([], [])
  | c :: rest =>
    if endsAuthority special c || (c == ':' && !inside) then ([], c :: rest)
    else
      let inside := if c == '[' then true else if c == ']' then false else inside
      let (host, rest) := spanHost special inside rest
      (c :: host, rest)

/-- A port of sixteen bits up to the path, which may be left out behind its colon. -/
def readPort (cs : List Char) : Except UrlFault (Option Nat × List Char) :=
  let (digits, rest) := spanDigits cs
  let port := digitsValue 0 digits
  if 65535 < port then .error .invalidPort
  else match rest with
    | c :: _ =>
      if c == '/' || c == '\\' || c == '?' || c == '#' then
        .ok (if digits.isEmpty then none else some port, rest)
      else .error .invalidPort
    | [] => .ok (if digits.isEmpty then none else some port, rest)

def isEncodedInPath (c : Char) : Bool :=
  isControl c || c == ' ' || c == '\x22' || c == '<' || c == '>' || c == '\x60' || c == '#'
    || c == '?' || c == '\x7b' || c == '\x7d'

/-- A segment with its encoded points spelled out. -/
def plainPoints : List Char → List Char
  | '%' :: '2' :: 'e' :: rest => '.' :: plainPoints rest
  | '%' :: '2' :: 'E' :: rest => '.' :: plainPoints rest
  | c :: rest => c :: plainPoints rest
  | [] => []

/-- Whether a segment starts with the letter of a drive, which is never left. -/
def isDrive (segment : List Char) : Bool :=
  match segment with
  | letter :: mark :: rest =>
    isLetter letter && (mark == ':' || mark == '|') && (rest.isEmpty || rest.head? == some '\\')
  | _ => false

def endsWithSlash (path : List Char) : Bool :=
  path.getLast? == some '/'

def upToSlash (path : List Char) : List Char :=
  (path.reverse.dropWhile (· != '/')).reverse

/-- A path that ends with a slash without its last segment: the segment before the slash goes, but
neither the root nor a drive does. -/
def leaveSegment (path : List Char) : List Char :=
  let bare := path.dropLast
  let segment := (bare.reverse.takeWhile (· != '/')).reverse
  if endsWithSlash path && bare.contains '/' && !isDrive segment then upToSlash bare
  else upToSlash path

/-- A path with one more segment, which a slash may follow. -/
def addSegment (path segment : List Char) (slash : Bool) : List Char :=
  let points := plainPoints segment
  if points == ['.', '.'] then
    let shorter := leaveSegment path
    if slash && !endsWithSlash shorter then shorter ++ ['/'] else shorter
  else if points == ['.'] then
    if endsWithSlash path then path else path ++ ['/']
  else path ++ segment ++ (if slash then ['/'] else [])

def addSegments (path : List Char) : List (List Char) → List Char
  | [] => path
  | [last] => addSegment path (percentEncode isEncodedInPath last) false
  | segment :: rest =>
    addSegments (addSegment path (percentEncode isEncodedInPath segment) true) rest

def endsPath (c : Char) : Bool :=
  c == '?' || c == '#'

/-- The path behind an authority, which starts with a slash unless it is empty. -/
def hierarchicalPath (special : Bool) (cs : List Char) : List Char :=
  let isSlash c := c == '/' || (special && c == '\\')
  match cs with
  | [] => if special then ['/'] else []
  | first :: rest =>
    let segments := if isSlash first then rest else first :: rest
    addSegments ['/'] (splitAt isSlash segments)

/-- The query of what follows a path, its mark left out. -/
def queryOf (cs : List Char) : List Char :=
  match cs with
  | '?' :: rest => rest.takeWhile (· != '#')
  | _ => []

/-- An address with an authority, from behind the two slashes. -/
def readAuthority (scheme : String) (cs : List Char) : Except UrlFault Url := do
  let special := isSpecialScheme scheme
  let ((username, password), cs) ← readCredentials special cs
  let (hostChars, cs) := spanHost special false cs
  let host ← if special then domainHost hostChars else opaqueHost hostChars
  if host.isEmpty && cs.head? == some ':' then throw .emptyHost
  let (port, cs) ←
    match cs with
    | ':' :: rest => readPort rest
    | _ => pure (none, cs)
  if host.isEmpty && !(username.isEmpty && password.isEmpty) then throw .emptyHost
  let path := hierarchicalPath special (cs.takeWhile (!endsPath ·))
  return { scheme := scheme, username := username, password := password,
           host := if host.isEmpty then none else some host, port := port,
           path := String.ofList path, query := queryOf (cs.dropWhile (!endsPath ·)) }

/-- An address without an authority: a path from the root, or a text that is taken as it is. -/
def readPathOnly (scheme : String) (cs : List Char) : Url :=
  let body := cs.takeWhile (!endsPath ·)
  let path := match body with
    | '/' :: rest => addSegments ['/'] (splitAt (· == '/') rest)
    | _ => percentEncode isControl body
  { scheme := scheme, path := String.ofList path, query := queryOf (cs.dropWhile (!endsPath ·)) }

def isDriveOnly (cs : List Char) : Bool :=
  cs.length == 2 && isDrive cs

/-- The address of a file. Behind two slashes stands a host, unless it is empty or a drive; the host
of the machine itself is left out. -/
def readFile (cs : List Char) : Except UrlFault Url := do
  let isSlash c := c == '/' || c == '\\'
  match cs with
  | first :: second :: rest =>
    let host := rest.takeWhile (!endsAuthority true ·)
    if !(isSlash first && isSlash second) then return readPathOnly "file" cs
    else if host.isEmpty || isDriveOnly host then return readPathOnly "file" ('/' :: rest)
    else
      let host ← domainHost host
      let rest := rest.dropWhile (!endsAuthority true ·)
      return { scheme := "file", host := if host == "localhost" then none else some host,
               path := String.ofList (hierarchicalPath true (rest.takeWhile (!endsPath ·))),
               query := queryOf (rest.dropWhile (!endsPath ·)) }
  | _ => return readPathOnly "file" cs

def Url.parse (s : String) : Except UrlFault Url :=
  match scheme? (cleaned s) with
  | none => .error .relative
  | some (scheme, cs) =>
    if isWebScheme scheme then
      readAuthority scheme (cs.dropWhile fun c => c == '/' || c == '\\')
    else if scheme == "file" then readFile cs
    else match cs with
      | '/' :: '/' :: rest => readAuthority scheme rest
      | _ => .ok (readPathOnly scheme cs)

/-- A text of a form: a plus sign is a space, and triples are decoded. Bytes that are not text give
none. -/
def formText? (cs : List Char) : Option String :=
  let bytes := utf8Encode (String.ofList (cs.map fun c => if c == '+' then ' ' else c))
  (utf8Decode (percentDecode bytes)).toOption

def Url.queryPairs (u : Url) : List (Option String × Option String) :=
  ((splitAt (· == '&') u.query).filter (!·.isEmpty)).map fun pair =>
    let (name, value) := cutFirst '=' pair
    (formText? name, formText? value)

end SqlSchema.Net
