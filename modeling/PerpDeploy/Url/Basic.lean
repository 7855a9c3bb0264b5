/-
Absolute addresses of network resources: how they are read and the normal form in which
they are written. Schemes of the web have a host and a path that starts with a slash, and
take backslashes for slashes; other schemes may have no host, or a path without structure.
-/

import PerpDeploy.Url.Host

namespace PerpDeploy

namespace Url

inductive SchemeKind
  | web
  | file
  | other
  deriving DecidableEq, Repr

def schemeKind (scheme : String) : SchemeKind :=
  if scheme ∈ ["http", "https", "ws", "wss", "ftp"] then .web
  else if scheme = "file" then .file
  else .other

/-- The port that need not be written. -/
def standardPort? (scheme : String) : Option Nat :=
  if scheme = "http" ∨ scheme = "ws" then some 80
  else if scheme = "https" ∨ scheme = "wss" then some 443
  else if scheme = "ftp" then some 21
  else none

/-- Whether letters count as special: those of the web and of files. -/
def SchemeKind.isSpecial (kind : SchemeKind) : Bool := kind ≠ .other

structure Authority where
  /-- Name and password up to the at sign, which is part of it, or nothing. -/
  credentials : String
  host : String
  port : Option Nat
  deriving DecidableEq, Repr

inductive UrlPath
  /-- Without structure, as it is written. -/
  | plain (text : String)
  /-- Each segment stands behind a slash. -/
  | segments (names : List String)
  deriving DecidableEq, Repr

end Url

structure Url where
  scheme : String
  authority : Option Url.Authority
  path : Url.UrlPath
  query : Option String
  fragment : Option String
  deriving DecidableEq, Repr

namespace Url

/-! ### Writing -/

def Authority.text (authority : Authority) : String :=
  "//" ++ authority.credentials ++ authority.host ++
    match authority.port with
    | none => ""
    | some port => ":" ++ toString port

def UrlPath.text : UrlPath → String
  | .plain text => text
  | .segments names => String.join (names.map fun name => "/" ++ name)

/-- A path that starts with an empty segment must not be taken for a host. -/
private def pathGuard (authority : Option Authority) : UrlPath → String
  | .segments ("" :: _ :: _) => if authority.isNone then "/." else ""
  | _ => ""

private def marked (mark : String) : Option String → String
  | none => ""
  | some text => mark ++ text

def text (url : Url) : String :=
  url.scheme ++ ":" ++ (url.authority.map Authority.text).getD "" ++
    pathGuard url.authority url.path ++ url.path.text ++ marked "?" url.query ++
    marked "#" url.fragment

/-! ### Reading -/

private def isTrimmed (c : Char) : Bool := c.toNat ≤ 0x20

/-- Without controls and spaces at the ends, and without tabs and line ends anywhere. -/
def cleaned (text : String) : List Char :=
  let front := text.toList.dropWhile isTrimmed
  let trimmed := (front.reverse.dropWhile isTrimmed).reverse
  trimmed.filter fun c => !(c = '\t' || c = '\n' || c = '\r')

private def isSchemeChar (c : Char) : Bool :=
  c.isAlphanum || c = '+' || c = '-' || c = '.'

def splitScheme? (chars : List Char) : Option (String × List Char) :=
  match chars with
  | [] => none
  | first :: _ =>
      let scheme := chars.takeWhile isSchemeChar
      match chars.dropWhile isSchemeChar with
      | ':' :: rest =>
          if first.isAlpha then some (String.ofList (scheme.map Char.toLower), rest) else none
      | _ => none

private def isSlash (kind : SchemeKind) (c : Char) : Bool := c = '/' || (kind.isSpecial && c = '\\')

private def endsAuthority (kind : SchemeKind) (c : Char) : Bool :=
  isSlash kind c || c = '?' || c = '#'

/-- The name, and the password with its colon unless it is empty. -/
private def credentialText (chars : List Char) : String :=
  let name := encode userSet (chars.takeWhile (· ≠ ':'))
  let password := encode userSet ((chars.dropWhile (· ≠ ':')).drop 1)
  let text := if password.isEmpty then name else name ++ ':' :: password
  if text.isEmpty then "" else String.ofList (text ++ ['@'])

private def splitCredentials (chars : List Char) : Option (List Char) × List Char :=
  let reversed := chars.reverse
  match reversed.dropWhile (· ≠ '@') with
  | [] => (none, chars)
  | _ :: front => (some front.reverse, (reversed.takeWhile (· ≠ '@')).reverse)

private def splitHost : Bool → List Char → List Char × List Char
  | _, [] => ([], [])
  | bracketed, c :: rest =>
      if c = ':' && !bracketed then ([], c :: rest)
      else
        let inside := if c = '[' then true else if c = ']' then false else bracketed
        let (host, after) := splitHost inside rest
        (c :: host, after)

/-- A port below `2 ^ 16`; none if no digit is written or the port is the standard one. -/
private def readPort (scheme : String) (chars : List Char) : Except Fault (Option Nat) :=
  if chars.all Char.isDigit then
    match chars.foldl (fun value c => min (value * 10 + (c.toNat - '0'.toNat)) 65536) 0 with
    | 65536 => .error .invalidPort
    | port => .ok (if chars.isEmpty || standardPort? scheme == some port then none else some port)
  else .error .invalidPort

/-- What stands between the slashes and the path, and what a port leaves behind a backslash;
`isLast` tells that nothing follows. -/
private def readAuthority (scheme : String) (isLast : Bool) (chars : List Char) :
    Except Fault (Authority × List Char) := do
  let (credentials, rest) := splitCredentials chars
  if credentials = some [] ∧ rest.isEmpty ∧ !isLast then .error .emptyHost
  else
    let credentials := (credentials.map credentialText).getD ""
    let (hostChars, after) := splitHost false rest
    let isWeb := schemeKind scheme == .web
    let host ← if isWeb then webHost hostChars else otherHost hostChars
    match after with
    | ':' :: portChars =>
        if host.isEmpty then .error .emptyHost
        else
          let port ← readPort scheme (portChars.takeWhile (· ≠ '\\'))
          .ok ({ credentials, host, port }, portChars.dropWhile (· ≠ '\\'))
    | _ =>
        if host.isEmpty && !credentials.isEmpty then .error .emptyHost
        else .ok ({ credentials, host, port := none }, [])

private def splitSegments (kind : SchemeKind) : List Char → List (List Char)
  | [] => [[]]
  | c :: rest =>
      if isSlash kind c then [] :: splitSegments kind rest
      else match splitSegments kind rest with
        | [] => [[c]]
        | piece :: pieces => (c :: piece) :: pieces

private def isSingleDot (segment : String) : Bool :=
  [".", "%2e", "%2E"].contains segment

private def isDoubleDot (segment : String) : Bool :=
  [ "..", "%2e%2e", "%2e%2E", "%2E%2e", "%2E%2E", "%2e.", "%2E.", ".%2e", ".%2E" ].contains segment

private def isDrive (segment : String) : Bool :=
  match segment.toList with
  | [letter, ':'] => letter.isAlpha
  | _ => false

/-- The bar behind the letter of a drive stands for a colon. -/
private def plainDrive (segment : String) : String :=
  match segment.toList with
  | [letter, '|'] => if letter.isAlpha then String.ofList [letter, ':'] else segment
  | _ => segment

/-- The path one level up; a drive is never left. -/
private def levelUp (kind : SchemeKind) (done : List String) : List String :=
  if kind == .file && (done.getLast?.map isDrive).getD false then done else done.dropLast

private def putSegment (kind : SchemeKind) (done : List String) (segment : String) : List String :=
  done ++ [if kind == .file && done.isEmpty then plainDrive segment else segment]

/-- Dots are followed on the way; one at the end leaves an empty segment. -/
private def resolveSegments (kind : SchemeKind) : List String → List String → List String
  | done, [] => done
  | done, [last] =>
      if isDoubleDot last then levelUp kind done ++ [""]
      else if isSingleDot last then done ++ [""]
      else putSegment kind done last
  | done, segment :: rest =>
      if isDoubleDot segment then resolveSegments kind (levelUp kind done) rest
      else if isSingleDot segment then resolveSegments kind done rest
      else resolveSegments kind (putSegment kind done segment) rest

private def dropEmptyFront : List String → List String
  | "" :: segment :: rest => dropEmptyFront (segment :: rest)
  | segments => segments

/-- A path behind its first slash; that of a file has no empty segments in front. -/
private def readSegments (kind : SchemeKind) (chars : List Char) : UrlPath :=
  let segments := (splitSegments kind chars).map fun piece => String.ofList (encode pathSet piece)
  let resolved := resolveSegments kind [] segments
  .segments (if kind == .file then dropEmptyFront resolved else resolved)

private def endsPath (c : Char) : Bool := c = '?' || c = '#'

private def readPathAfterHost (kind : SchemeKind) (chars : List Char) : UrlPath :=
  match chars with
  | [] => if kind.isSpecial then .segments [""] else .segments []
  | c :: rest => if isSlash kind c then readSegments kind rest else readSegments kind (c :: rest)

private def readQuery (kind : SchemeKind) (chars : List Char) : Option String :=
  match chars with
  | '?' :: rest =>
      let set := if kind.isSpecial then specialQuerySet else querySet
      some (String.ofList (encode set (rest.takeWhile (· ≠ '#'))))
  | _ => none

private def readFragment (chars : List Char) : Option String :=
  match chars.dropWhile (· ≠ '#') with
  | [] => none
  | _ :: rest => some (String.ofList (encode fragmentSet rest))

private def assemble (scheme : String) (authority : Option Authority)
    (path : List Char → UrlPath) (chars : List Char) : Url :=
  let kind := schemeKind scheme
  let after := chars.dropWhile fun c => !endsPath c
  { scheme
    authority
    path := path (chars.takeWhile fun c => !endsPath c)
    query := readQuery kind after
    fragment := readFragment after }

private def readWithAuthority (scheme : String) (chars : List Char) : Except Fault Url := do
  let kind := schemeKind scheme
  let rest := chars.dropWhile fun c => !endsAuthority kind c
  let (authority, surplus) ← readAuthority scheme rest.isEmpty
    (chars.takeWhile fun c => !endsAuthority kind c)
  .ok (assemble scheme (some authority) (readPathAfterHost kind) (surplus ++ rest))

private def readFileHost (chars : List Char) : Except Fault String := do
  if chars.isEmpty then .ok ""
  else
    let host ← webHost chars
    .ok (if host = "localhost" then "" else host)

/-- A path with a drive belongs to no host. -/
private def assembleFile (host : String) (chars : List Char) : Url :=
  let url := assemble "file" none (readPathAfterHost .file) chars
  let hasDrive := match url.path with
    | .segments (first :: _) => isDrive first
    | _ => false
  let host := if hasDrive then "" else host
  { url with authority := some { credentials := "", host, port := none } }

/-- A file address has a host only behind two slashes, and a drive there is none. -/
private def readFile (chars : List Char) : Except Fault Url := do
  match chars with
  | c :: d :: rest =>
      if isSlash .file c && isSlash .file d then
        let hostChars := rest.takeWhile fun c => !endsAuthority .file c
        if isDrive (plainDrive (String.ofList hostChars)) then .ok (assembleFile "" rest)
        else
          let host ← readFileHost hostChars
          .ok (assembleFile host (rest.dropWhile fun c => !endsAuthority .file c))
      else .ok (assembleFile "" chars)
  | _ => .ok (assembleFile "" chars)

private def readOther (scheme : String) (chars : List Char) : Except Fault Url :=
  match chars with
  | '/' :: '/' :: rest => readWithAuthority scheme rest
  | '/' :: rest => .ok (assemble scheme none (readSegments .other) rest)
  | _ =>
      .ok (assemble scheme none (fun path => .plain (String.ofList (encode controlSet path))) chars)

def parse (text : String) : Except Fault Url :=
  match splitScheme? (cleaned text) with
  | none => .error .relative
  | some (scheme, rest) =>
      match schemeKind scheme with
      | .web => readWithAuthority scheme (rest.dropWhile (isSlash .web))
      | .file => readFile rest
      | .other => readOther scheme rest

end Url

end PerpDeploy
