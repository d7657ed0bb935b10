import FeatureFlags.Url.Basic
import FeatureFlags.Url.Domain

/-!
# Reading URLs

A text is read part by part: scheme, authority, path, query, fragment. Tabs and line breaks count
nowhere, controls and blanks not at the ends. What a part cannot hold is percent-encoded, and dot
segments are resolved.
-/
namespace FeatureFlags.Url

def isIgnored (c : Char) : Bool := c = '\t' || c = '\n' || c = '\r'

/-- The characters of a text that count. -/
def relevant (s : List Char) : List Char :=
  let isEdge (c : Char) : Bool := c.toNat ≤ 0x20
  (((s.dropWhile isEdge).reverse.dropWhile isEdge).reverse).filter fun c => !isIgnored c

/-- The scheme in lower case and what follows its colon. -/
def splitScheme : List Char → Option (List Char × List Char)
  | [] => none
  | c :: rest =>
    if c.isAlpha then
      let isName (c : Char) : Bool := c.isAlphanum || c = '+' || c = '-' || c = '.'
      match rest.dropWhile isName with
      | ':' :: after => some ((c :: rest.takeWhile isName).map Char.toLower, after)
      | _ => none
    else none

/-! ## Path -/

/-- Names of the current directory, with the full stop encoded or not. -/
def isDot (segment : List Char) : Bool :=
  ["." , "%2e"].contains (String.ofList (segment.map Char.toLower))

/-- Names of the parent directory. -/
def isDoubleDot (segment : List Char) : Bool :=
  ["..", ".%2e", "%2e.", "%2e%2e"].contains (String.ofList (segment.map Char.toLower))

/-- Names of drives: a letter with a colon or a bar. -/
def isDriveLetter : List Char → Bool
  | [c, d] => c.isAlpha && (d = ':' || d = '|')
  | _ => false

/-- Drives also count where a backslash follows them that is no slash. -/
def startsWithDrive (segment : List Char) : Bool :=
  isDriveLetter (segment.takeWhile (· ≠ '\\'))

/-- Drops the last segment, unless it starts with a drive. -/
def shorten (segments : List (List Char)) : List (List Char) :=
  if segments.getLast?.any startsWithDrive then segments else segments.dropLast

/-- Adds a segment of a path. Dot segments are resolved; where one is the last, the path ends with a
slash. -/
def addSegment (last : Bool) (segments : List (List Char)) (segment : List Char) :
    List (List Char) :=
  if isDoubleDot segment then
    let shorter := shorten segments
    if last then shorter ++ [[]] else shorter
  else if isDot segment then
    if last then segments ++ [[]] else segments
  else segments ++ [segment]

/-- Adds a segment of the path of a file: a drive in front of all others is written with a colon. -/
def addFileSegment (last : Bool) (segments : List (List Char)) (segment : List Char) :
    List (List Char) :=
  if segments.isEmpty && isDriveLetter segment then [segment.take 1 ++ [':']]
  else addSegment last segments segment

/-- Adds all segments of a path, told how to add one. -/
def addSegments (add : Bool → List (List Char) → List Char → List (List Char))
    (segments : List (List Char)) : List (List Char) → List (List Char)
  | [] => segments
  | [segment] => add true segments segment
  | segment :: rest => addSegments add (add false segments segment) rest

/-- What stands between the slashes of a path. -/
def pathPieces (scheme s : List Char) : List (List Char) :=
  let slashes := if isSpecialScheme scheme then s.map fun c => if c = '\\' then '/' else c else s
  (Text.splitAt '/' slashes).map Part.path.encode

def isPathStart (special : Bool) (c : Char) : Bool := c = '/' || special && c = '\\'

/-- A text without the slash that it may start with. -/
def withoutSlash (special : Bool) (s : List Char) : List Char :=
  if s.head?.any (isPathStart special) then s.drop 1 else s

/-- A path that has to have a slash in front unless it is empty; special schemes always have one. -/
def readPath (scheme : List Char) (s : List Char) : Path :=
  let special := isSpecialScheme scheme
  if s.isEmpty && !special then .segments []
  else .segments (addSegments addSegment [] (pathPieces scheme (withoutSlash special s)))

/-! ## Authority -/

/-- What stands before and after the last at sign. -/
def splitUserInfo (s : List Char) : Option (List Char × List Char) :=
  match (s.reverse.dropWhile (· ≠ '@')).reverse with
  | [] => none
  | front => some (front.dropLast, s.drop front.length)

/-- Up to the first colon outside brackets. -/
def splitPort : Bool → List Char → List Char × Option (List Char)
  | _, [] => ([], none)
  | inside, c :: rest =>
    if c = ':' ∧ inside = false then ([], some rest)
    else
      let inside := if c = '[' then true else if c = ']' then false else inside
      let (host, port) := splitPort inside rest
      (c :: host, port)

/-- The port of a scheme, `none` where it is left out; it has to be below 2^16. -/
def readPort? (scheme digits : List Char) : Option (Option Nat) :=
  if digits.isEmpty then some none
  else do
    let n ← numberInBase? 10 digits
    if n < 65536 then return (if defaultPort? scheme = some n then none else some n) else none

def bracketed? (s : List Char) : Option (List Char) :=
  if s.head? = some '[' then
    if s.getLast? = some ']' then
      (ipv6? (s.drop 1).dropLast).map fun pieces => '[' :: (ipv6Chars pieces ++ [']'])
    else none
  else none

/-- A host of a special scheme: an address or a domain, which may be percent-encoded. -/
def specialHost? (s : List Char) : Option (List Char) :=
  if s.head? = some '[' then bracketed? s
  else do
    let text ← String.fromUTF8? ⟨(percentDecode s).toArray⟩
    let domain ← domain? text.toList
    if endsInNumber domain then return ipv4Chars (← ipv4? domain) else return domain

/-- A host of any other scheme, which may be empty. -/
def plainHost? (s : List Char) : Option (List Char) :=
  if s.head? = some '[' then bracketed? s
  else
    let isForbidden (c : Char) : Bool :=
      c.toNat = 0 || c = ' ' || "#/:<>?@[\\]^|".toList.contains c
    if s.any isForbidden then none else some (Part.plain.encode s)

/-- The port behind a colon, and what does not belong to it: a backslash ends it. -/
def splitDigits? (s : List Char) : Option (List Char × List Char) :=
  let rest := s.dropWhile Char.isDigit
  if rest.isEmpty || rest.head? = some '\\' then some (s.takeWhile Char.isDigit, rest) else none

/-- The authority in front of a path, with what belongs to the path already. The flag says that
nothing follows: then a lone at sign is no user without a host. -/
def readAuthority? (scheme : List Char) (isLast : Bool) (s : List Char) :
    Option (Authority × List Char) := do
  let (user, rest) := (splitUserInfo s).getD ([], s)
  let (username, password) := (Text.splitOnce ':' user).getD (user, [])
  let (host, port) := splitPort false rest
  let host ← if isSpecialScheme scheme then specialHost? host else plainHost? host
  let isUserless := username.isEmpty && password.isEmpty
  let isStray := (splitUserInfo s).isSome && user.isEmpty && !isLast
  if host.isEmpty && (port.isSome || !isUserless || isStray) then none
  let (digits, path) ← splitDigits? (port.getD [])
  let port ← readPort? scheme digits
  return (⟨Part.userInfo.encode username, Part.userInfo.encode password, host, port⟩, path)

/-- Authority and path behind the two slashes. The flag says that nothing follows. -/
def readHierarchy? (scheme : List Char) (isLast : Bool) (s : List Char) :
    Option (Authority × Path) := do
  let isPath := isPathStart (isSpecialScheme scheme)
  let path := s.dropWhile fun c => !isPath c
  let (authority, front) ← readAuthority? scheme (isLast && path.isEmpty) (s.takeWhile (!isPath ·))
  return (authority, readPath scheme (front ++ path))

def noAuthority : Authority := ⟨[], [], [], none⟩

/-! ## Files -/

/-- The host of a file, empty for this machine, and the text of the path. A drive in place of a host
belongs to the path. -/
def splitFile? (s : List Char) : Option (List Char × List Char) :=
  let isPath := isPathStart true
  match s with
  | a :: b :: rest =>
    if isPath a && isPath b then
      let host := rest.takeWhile fun c => !isPath c
      let path := rest.dropWhile fun c => !isPath c
      if isDriveLetter host then some ([], rest)
      else if host.isEmpty then some ([], path)
      else do
        let host ← specialHost? host
        if host = "localhost".toList then return ([], path)
        else return (host, withoutSlash true path)
    else some ([], withoutSlash true s)
  | _ => some ([], withoutSlash true s)

/-- The path of a file without the empty segments in front of all others. -/
def withoutFront (segments : List (List Char)) : Path :=
  match segments.dropWhile (·.isEmpty) with
  | [] => .segments [[]]
  | counted => .segments counted

/-- A file has a host, which may be empty. A path that starts with a drive goes without a host. -/
def readFile? (s : List Char) : Option (Authority × Path) := do
  let (host, path) ← splitFile? s
  let segments := addSegments addFileSegment [] (pathPieces "file".toList path)
  let isDropped := segments.head?.any isDriveLetter
  return ({ noAuthority with host := if isDropped then [] else host }, withoutFront segments)

/-! ## The whole -/

/-- What stands before a mark, and behind it if it is there. -/
def cut (mark : Char) (s : List Char) : List Char × Option (List Char) :=
  match Text.splitOnce mark s with
  | some (front, back) => (front, some back)
  | none => (s, none)

/-- Authority, if any, and path of what stands between scheme and query. The flag says that nothing
follows. -/
def readBody? (scheme : List Char) (isLast : Bool) (s : List Char) :
    Option (Option Authority × Path) :=
  if isFileScheme scheme then (readFile? s).map fun r => (some r.1, r.2)
  else if isSpecialScheme scheme then
    (readHierarchy? scheme isLast (s.dropWhile (isPathStart true))).map fun r => (some r.1, r.2)
  else
    match s with
    | '/' :: '/' :: rest => (readHierarchy? scheme isLast rest).map fun r => (some r.1, r.2)
    | '/' :: _ => some (none, readPath scheme s)
    | _ => some (none, .plain (Part.plain.encode s))

def ofChars? (s : List Char) : Option Url := do
  let (scheme, rest) ← splitScheme (relevant s)
  let (rest, fragment) := cut '#' rest
  let (rest, query) := cut '?' rest
  let (authority, path) ← readBody? scheme (query.isNone && fragment.isNone) rest
  return {
    scheme
    authority
    hasDot := needsDot authority path
    path
    query := query.map (Part.query (isSpecialScheme scheme)).encode
    fragment := fragment.map Part.fragment.encode }

def ofText? (s : String) : Option Url := ofChars? s.toList

end FeatureFlags.Url
