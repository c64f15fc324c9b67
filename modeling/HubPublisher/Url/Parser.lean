import HubPublisher.Text.Blank
import HubPublisher.Url.Basic
import HubPublisher.Url.Domain

/-!
Reading absolute URLs.

Controls and spaces around the text and all tabs and line ends in it are passed over. The text is
then cut from left to right: scheme, authority, path, query, fragment. The first part that is wrong
decides the error.
-/
namespace HubPublisher.Url

open Text

inductive UrlError where
  | relative
  | emptyHost
  | invalidDomain
  | invalidDomainCharacter
  | invalidPort
  | invalidAddress
  | invalidPieces
  deriving DecidableEq, Repr

def UrlError.message : UrlError → String
  | relative => "relative URL without a base"
  | emptyHost => "empty host"
  | invalidDomain => "invalid international domain name"
  | invalidDomainCharacter => "invalid domain character"
  | invalidPort => "invalid port number"
  | invalidAddress => "invalid IPv4 address"
  | invalidPieces => "invalid IPv6 address"

/-! ## Scheme -/

/-- The text without what is passed over. -/
def clean (cs : List Char) : List Char :=
  let inside := trimBy (·.toNat ≤ 0x20) cs
  inside.filter fun c => !(c == '\t' || c == '\n' || c == '\r')

def isSchemeChar (c : Char) : Bool := c.isAlphanum || c == '+' || c == '-' || c == '.'

/-- The scheme, in lower case, and what follows its colon. -/
def readScheme? (cs : List Char) : Option (String × List Char) :=
  match cs with
  | [] => none
  | c :: _ =>
    if c.isAlpha then
      match cs.dropWhile isSchemeChar with
      | ':' :: rest => some (String.ofList ((cs.takeWhile isSchemeChar).map Char.toLower), rest)
      | _ => none
    else none

/-! ## Authority -/

/-- Where an authority ends. -/
def endsAuthority (special : Bool) (c : Char) : Bool :=
  c == '/' || c == '?' || c == '#' || (special && c == '\\')

/-- What stands before the last `@` of an authority, and what follows it. -/
def splitUser (special : Bool) (cs : List Char) : Option (List Char × List Char) :=
  let here := cs.takeWhile (!endsAuthority special ·)
  let rest := cs.dropWhile (!endsAuthority special ·)
  if here.contains '@' then
    let back := here.reverse
    some (((back.dropWhile (· != '@')).drop 1).reverse, (back.takeWhile (· != '@')).reverse ++ rest)
  else none

/-- User name and password, cut at the first colon. -/
def readUser (cs : List Char) : String × String :=
  let (name, password) := splitFirst ':' cs
  (String.ofList (encodeBy inUserInfo name), String.ofList (encodeBy inUserInfo (password.getD [])))

/-- The host at the start of an authority and what follows it. A colon between brackets belongs to
the host. -/
def splitHost (special : Bool) : Bool → List Char → List Char × List Char
  | _, [] => ([], [])
  | inside, c :: rest =>
    if (c == ':' && !inside) || endsAuthority special c then ([], c :: rest)
    else
      let inside := if c = '[' then true else if c = ']' then false else inside
      let (host, after) := splitHost special inside rest
      (c :: host, after)

/-- The text between brackets, if there are brackets around it. -/
def unbracket (cs : List Char) : Option (List Char) :=
  match cs.reverse with
  | ']' :: back => some (back.reverse.drop 1)
  | _ => none

/-- A host in brackets. -/
def readPiecesHost (cs : List Char) : Except UrlError Host :=
  match (unbracket cs).bind piecesOf? with
  | some ps => .ok (.pieces ps)
  | none => .error .invalidPieces

/-- A host of a URL that has to have one. -/
def readDomainHost (cs : List Char) : Except UrlError Host :=
  if cs.head? = some '[' then readPiecesHost cs
  else
    match domainToAscii? (Utf8.decodeLossy (percentDecode (Utf8.encode cs))) with
    | none => .error .invalidDomain
    | some [] => .error .emptyHost
    | some name =>
      if endsInNumber name then
        match addressOfName? name with
        | some n => .ok (.address n)
        | none => .error .invalidAddress
      else .ok (.name (String.ofList name))

/-- The characters that no host has. -/
def isForbiddenInHost (c : Char) : Bool :=
  c.toNat == 0 || c == ' ' || c == '#' || c == '/' || c == ':' || c == '<' || c == '>' || c == '?'
    || c == '@' || c == '[' || c == '\\' || c == ']' || c == '^' || c == '|'

/-- A host of any other URL, which is left as it stands. -/
def readOpaqueHost (cs : List Char) : Except UrlError (Option Host) :=
  if cs.head? = some '[' then (readPiecesHost cs).map some
  else if cs.any isForbiddenInHost then .error .invalidDomainCharacter
  else if cs.isEmpty then .ok none
  else .ok (some (.name (String.ofList (encodeBy isControl cs))))

/-- The digits of a port. -/
def readPort (scheme : String) (cs : List Char) : Except UrlError (Option Nat × List Char) :=
  let ds := cs.takeWhile Char.isDigit
  let rest := cs.dropWhile Char.isDigit
  let port := (valueIn? 10 ds).getD 0
  let stops :=
    match rest with
    | [] => true
    | c :: _ => endsAuthority true c
  if 65535 < port ∨ stops = false then .error .invalidPort
  else if ds.isEmpty ∨ defaultPort scheme = some port then .ok (none, rest)
  else .ok (some port, rest)

/-- The port, if a colon follows the host. -/
def readPortAfter (scheme : String) (cs : List Char) : Except UrlError (Option Nat × List Char) :=
  match cs with
  | ':' :: rest => readPort scheme rest
  | cs => .ok (none, cs)

/-- Reads an authority whose slashes are gone. -/
def readAuthority (scheme : String) (cs : List Char) : Except UrlError (Authority × List Char) :=
  let special := isSpecial scheme
  let user := splitUser special cs
  let after := (user.map (·.2)).getD cs
  let missing : Bool :=
    match user, after with
    | some ([], _), c :: _ => endsAuthority special c
    | _, _ => false
  if missing then .error .emptyHost
  else
    let (username, password) := readUser ((user.map (·.1)).getD [])
    let (hostChars, rest) := splitHost special false after
    let host : Except UrlError (Option Host) :=
      if special then
        if hostChars.isEmpty then .error .emptyHost else (readDomainHost hostChars).map some
      else readOpaqueHost hostChars
    match host with
    | .error e => .error e
    | .ok host =>
      if host.isNone && rest.head? == some ':' then .error .emptyHost
      else match readPortAfter scheme rest with
        | .error e => .error e
        | .ok (port, rest) =>
          if host.isNone && !(username == "" && password == "") then .error .emptyHost
          else .ok (⟨username, password, host, port⟩, rest)

/-! ## Path -/

def isSlash (special : Bool) (c : Char) : Bool := c == '/' || (special && c == '\\')

/-- A segment that stays where it is, by any of its spellings. -/
def isSingleDot (s : List Char) : Bool :=
  let t := s.map Char.toLower
  t == ['.'] || t == ['%', '2', 'e']

/-- A segment that goes one up, by any of its spellings. -/
def isDoubleDot (s : List Char) : Bool :=
  let t := s.map Char.toLower
  t == ['.', '.'] || t == ['.', '%', '2', 'e'] || t == ['%', '2', 'e', '.']
    || t == ['%', '2', 'e', '%', '2', 'e']

/-- A letter with a colon or a bar: the name of a drive. -/
def isDrive (s : List Char) : Bool :=
  match s with
  | [c, d] => c.isAlpha && (d == ':' || d == '|')
  | _ => false

/-- The name of a drive with its colon; any other segment as it is. -/
def normalDrive (s : List Char) : List Char :=
  match s with
  | [c, d] => if isDrive [c, d] then [c, ':'] else [c, d]
  | s => s

/-- Takes the last segment off a path, given in reverse; a drive stays. -/
def popSegment : List (List Char) → List (List Char)
  | [] => []
  | s :: rest => if isDrive s then s :: rest else rest

/-- Puts a segment at the end of a path, given in reverse. The path of a file may start with a
drive. -/
def pushSegment (file : Bool) (path : List (List Char)) (s : List Char) : List (List Char) :=
  (if file && path.isEmpty then normalDrive s else s) :: path

/-- A path of the given segments, in reverse, from the segments still to come. The dot segments are
gone from it; one at the end leaves an empty segment. -/
def resolveSegments (file : Bool) : List (List Char) → List (List Char) → List (List Char)
  | path, [] => path
  | path, [s] =>
    if isDoubleDot s then [] :: popSegment path
    else if isSingleDot s then [] :: path
    else pushSegment file path s
  | path, s :: rest =>
    if isDoubleDot s then resolveSegments file (popSegment path) rest
    else if isSingleDot s then resolveSegments file path rest
    else resolveSegments file (pushSegment file path s) rest

def joinSegments (segments : List (List Char)) : List Char := segments.flatMap ('/' :: ·)

/-- The path that starts after a slash. -/
def readSegments (special : Bool) (cs : List Char) : List Char :=
  let segments := (splitBy (isSlash special) cs).map (encodeBy inPath)
  joinSegments (resolveSegments false [] segments).reverse

/-- The path after an authority. -/
def readPathAfterHost (special : Bool) (cs : List Char) : List Char :=
  match cs with
  | [] => if special then ['/'] else []
  | c :: rest => readSegments special (if isSlash special c then rest else c :: rest)

/-! ## Files -/

/-- The path of a file, and whether it starts with a drive. Empty segments at its start are
dropped. -/
def readFilePath (cs : List Char) : List Char × Bool :=
  let segments := (splitBy (isSlash true) cs).map (encodeBy inPath)
  let resolved := (resolveSegments true [] segments).reverse
  let kept := resolved.dropWhile (·.isEmpty)
  (joinSegments (if kept.isEmpty then [[]] else kept), isDrive (resolved.headD []))

/-- The host of a file; this machine has none. -/
def readFileHost (cs : List Char) : Except UrlError (Option Host) :=
  if cs.isEmpty then .ok none
  else (readDomainHost cs).map fun h => if h = .name "localhost" then none else some h

/-- The path of a file after one or no slash. -/
def fileWithoutHost (cs : List Char) : Authority × List Char :=
  (⟨"", "", none, none⟩, (readFilePath cs).1)

/-- Host and path of a file. -/
def readFile (cs : List Char) : Except UrlError (Authority × List Char) :=
  match cs with
  | a :: b :: rest =>
    if isSlash true a && isSlash true b then
      let hostChars := rest.takeWhile (!endsAuthority true ·)
      if isDrive hostChars then .ok (fileWithoutHost rest)
      else
        let after := rest.dropWhile (!endsAuthority true ·)
        match readFileHost hostChars with
        | .error e => .error e
        | .ok host =>
          let (path, drive) :=
            match after with
            | [] => (['/'], false)
            | c :: more => readFilePath (if isSlash true c then more else c :: more)
          .ok (⟨"", "", if drive then none else host, none⟩, path)
    else if isSlash true a then .ok (fileWithoutHost (b :: rest))
    else .ok (fileWithoutHost cs)
  | [a] => .ok (fileWithoutHost (if isSlash true a then [] else [a]))
  | [] => .ok (fileWithoutHost [])

/-! ## The whole -/

/-- Query and fragment of a text, and what stands before them. -/
def splitSuffix (cs : List Char) : List Char × Option (List Char) × Option (List Char) :=
  let (front, fragment) := splitFirst '#' cs
  let (body, query) := splitFirst '?' front
  (body, query, fragment)

/-- What follows the colon of a scheme. -/
structure Parts where
  authority : Option Authority
  path : List Char
  /-- Query and fragment as they stand in the text. -/
  suffix : Option (List Char) × Option (List Char)

/-- The parts from an authority on. Query and fragment are cut off after it, since an authority is
also judged by the mark behind it. -/
def readFromAuthority (scheme : String) (cs : List Char) : Except UrlError Parts :=
  match readAuthority scheme cs with
  | .error e => .error e
  | .ok (a, rest) =>
    let (body, suffix) := splitSuffix rest
    .ok ⟨some a, readPathAfterHost (isSpecial scheme) body, suffix⟩

/-- The parts of a file. -/
def readFromFile (cs : List Char) : Except UrlError Parts :=
  let (body, suffix) := splitSuffix cs
  (readFile body).map fun r => ⟨some r.1, r.2, suffix⟩

/-- The parts of a URL that has no authority. -/
def readFromPath (cs : List Char) : Parts :=
  let (body, suffix) := splitSuffix cs
  match body with
  | '/' :: rest => ⟨none, readSegments false rest, suffix⟩
  | body => ⟨none, encodeBy isControl body, suffix⟩

def readParts (scheme : String) (cs : List Char) : Except UrlError Parts :=
  if scheme = "file" then readFromFile cs
  else if isSpecial scheme then readFromAuthority scheme (cs.dropWhile (isSlash true))
  else
    match cs with
    | '/' :: '/' :: rest => readFromAuthority scheme rest
    | cs => .ok (readFromPath cs)

/-- An absolute URL. -/
def parse (s : String) : Except UrlError Url :=
  match readScheme? (clean s.toList) with
  | none => .error .relative
  | some (scheme, rest) =>
    let special := isSpecial scheme || scheme = "file"
    match readParts scheme rest with
    | .error e => .error e
    | .ok parts => .ok {
        scheme := scheme
        authority := parts.authority
        path := String.ofList parts.path
        query := parts.suffix.1.map fun q =>
          String.ofList (encodeBy (if special then inSpecialQuery else inQuery) q)
        fragment := parts.suffix.2.map fun f => String.ofList (encodeBy inFragment f) }

/-! ## Origin -/

/-- Scheme, host and port of a URL that has to have a host. -/
def tupleOrigin (u : Url) : Option String :=
  if isSpecial u.scheme then
    u.authority.map fun a => u.scheme ++ "://" ++ a.writeHost ++ a.writePort
  else none

/-- Where a URL comes from, as text. A URL of a blob has the origin of the URL in its path; any
other without a tuple of scheme, host and port has none. -/
def originWith : Nat → Url → Option String
  | 0, u => tupleOrigin u
  | depth + 1, u =>
    if u.scheme = "blob" then
      match parse u.path with
      | .ok inner => originWith depth inner
      | .error _ => none
    else tupleOrigin u

def origin (u : Url) : String := (originWith (u.path.length + 1) u).getD "null"

end HubPublisher.Url
