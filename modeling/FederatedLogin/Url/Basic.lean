import FederatedLogin.Text.Digits
import FederatedLogin.Text.Split
import FederatedLogin.Url.Host
import FederatedLogin.Url.Percent

/-!
# URLs

`Url.parse` reads an absolute URL as browsers do: it drops white space at the ends and line breaks
inside, resolves dot segments, and encodes what may not stand as it is. `Url.text` writes the
normalized URL.
-/

namespace FederatedLogin

open Text

/-- The part of a URL after its host. -/
inductive Url.Path where
  | opaqueText (text : List Char)
  | segments (segments : List (List Char))
  deriving DecidableEq, Repr

/-- An absolute URL, with all its parts encoded. -/
structure Url where
  scheme : List Char
  username : List Char
  password : List Char
  /-- There is none if no two slashes follow the scheme. -/
  host : Option Url.Host
  /-- There is none if it is that of the scheme. -/
  port : Option Nat
  path : Url.Path
  query : Option (List Char)
  fragment : Option (List Char)
  deriving DecidableEq, Repr

namespace Url

/-! ## Schemes -/

/-- The kinds of schemes: files, other special ones, and the rest. -/
inductive Kind where
  | file
  | special
  | plain
  deriving DecidableEq, Repr

/-- The kind of a scheme. -/
def kind (scheme : List Char) : Kind :=
  let s := String.ofList scheme
  if s = "file" then .file
  else if s ∈ ["http", "https", "ws", "wss", "ftp"] then .special
  else .plain

/-- The port of a special scheme. -/
def defaultPort? (scheme : List Char) : Option Nat :=
  let s := String.ofList scheme
  if s = "http" ∨ s = "ws" then some 80
  else if s = "https" ∨ s = "wss" then some 443
  else if s = "ftp" then some 21
  else none

/-- The character separates segments. -/
def isSlash (kind : Kind) (c : Char) : Bool := c = '/' || (c = '\\' && kind ≠ .plain)

/-- The character may stand in a scheme. -/
def isSchemeCharacter (c : Char) : Bool := c.isAlphanum || c = '+' || c = '-' || c = '.'

/-- Reads a scheme, in lower case, and the colon after it. -/
def readScheme? (cs : List Char) : Option (List Char × List Char) := do
  let (scheme, rest) ← cut? ':' cs
  match scheme with
  | c :: _ =>
    if c.isAlpha && scheme.all isSchemeCharacter then some (scheme.map Char.toLower, rest) else none
  | [] => none

/-! ## Paths -/

/-- The segment stands for its parent. -/
def isDoubleDot (segment : List Char) : Bool :=
  String.ofList (segment.map Char.toLower) ∈ ["..", ".%2e", "%2e.", "%2e%2e"]

/-- The segment stands for itself. -/
def isSingleDot (segment : List Char) : Bool :=
  String.ofList (segment.map Char.toLower) ∈ [".", "%2e"]

/-- The text is a letter and a colon or a bar. -/
def isDriveLetter (cs : List Char) : Bool :=
  match cs with
  | [c, d] => c.isAlpha && (d = ':' || d = '|')
  | _ => false

/-- The segments before the last one. The drive letter of a file is never removed. -/
def parent (kind : Kind) (before : List (List Char)) : List (List Char) :=
  match kind, before with
  | .file, [segment] => if isDriveLetter segment then [segment] else []
  | _, before => before.drop 1

/-- The segments after one more, the last one first. The flag says that no further one follows. -/
def addSegment (kind : Kind) (isLast : Bool) (before : List (List Char)) (segment : List Char) :
    List (List Char) :=
  if isDoubleDot segment then
    if isLast then [] :: parent kind before else parent kind before
  else if isSingleDot segment then
    if isLast then [] :: before else before
  else
    match kind, before, isDriveLetter segment, segment with
    | .file, [], true, c :: _ => [c, ':'] :: before
    | _, _, _, _ => segment :: before

/-- The segments of a path, of which the first ones are given with the last one first. -/
def resolve (kind : Kind) (before : List (List Char)) : List (List Char) → List (List Char)
  | [] => before.reverse
  | [segment] => (addSegment kind true before segment).reverse
  | segment :: rest => resolve kind (addSegment kind false before segment) rest

/-- The stretches between slashes. -/
def splitPath (kind : Kind) (cs : List Char) : List (List Char) :=
  pieces '/' (cs.map fun c => if isSlash kind c then '/' else c)

/-- Reads a path after its first slash. -/
def readSegments (kind : Kind) (cs : List Char) : List (List Char) :=
  let segments := resolve kind [] ((splitPath kind cs).map (percentEncode inPathSet))
  if kind = .file then
    match segments.dropWhile (· = []) with
    | [] => [[]]
    | segments => segments
  else segments

/-- Reads the path after a host. -/
def readPath (kind : Kind) (cs : List Char) : List (List Char) :=
  match cs with
  | [] => if kind = .plain then [] else [[]]
  | c :: rest => if isSlash kind c then readSegments kind rest else readSegments kind (c :: rest)

/-! ## User names, hosts and ports -/

/-- The character ends what stands between two slashes and the path. -/
def endsAuthority (kind : Kind) (c : Char) : Bool := isSlash kind c || c = '?' || c = '#'

/-- The text before the last at sign, if there is one, and the text after it. -/
def cutUser (cs : List Char) : Option (List Char) × List Char :=
  match cut? '@' cs.reverse with
  | none => (none, cs)
  | some (after, before) => (some before.reverse, after.reverse)

/-- A user name and a password, both encoded. -/
def readUser (cs : List Char) : List Char × List Char :=
  let (name, password) := (cut? ':' cs).getD (cs, [])
  (percentEncode inUserSet name, percentEncode inUserSet password)

/-- The text of a host, up to a colon outside brackets, and what follows it. -/
def cutHost (inBrackets : Bool) : List Char → List Char × List Char
  | [] => ([], [])
  | c :: cs =>
    if c = ':' && !inBrackets then ([], c :: cs)
    else
      let inBrackets := if c = '[' then true else if c = ']' then false else inBrackets
      let (host, rest) := cutHost inBrackets cs
      (c :: host, rest)

/-- Reads the digits of a port. Without digits there is none. -/
def readPort? (digits : List Char) : Option (Option Nat) :=
  if digits = [] then some none
  else
    match natural? digits with
    | some port => if port < twoPow 16 then some (some port) else none
    | none => none

/-- What stands between two slashes and the path. -/
structure Authority where
  username : List Char
  password : List Char
  host : Host
  port : Option Nat

/-- Reads what stands between two slashes and the path. With an empty host there may be no port, no
user name and no password; and no lone at sign, unless it ends the URL. -/
def readAuthority (scheme cs : List Char) (endsUrl : Bool) : Except Fault Authority := do
  let special := kind scheme ≠ .plain
  let (user, cs) := cutUser cs
  let (username, password) := readUser (user.getD [])
  let (host, rest) := cutHost false cs
  if host = [] ∧ (special ∨ rest ≠ [] ∨ username ≠ [] ∨ password ≠ [] ∨
      (user = some [] ∧ endsUrl = false)) then
    .error .emptyHost
  else
    let host ← if special then readHost host else readOpaqueHost host
    match readPort? (rest.drop 1) with
    | none => .error .invalidPort
    | some port =>
      .ok ⟨username, password, host, if port = defaultPort? scheme then none else port⟩

/-! ## Whole URLs -/

/-- A URL but for its query and its fragment. -/
def start (scheme : List Char) (authority : Authority) (path : Path) : Url :=
  ⟨scheme, authority.username, authority.password, some authority.host, authority.port, path,
    none, none⟩

/-- A URL without a host. -/
def hostless (scheme : List Char) (path : Path) : Url :=
  ⟨scheme, [], [], none, none, path, none, none⟩

/-- A URL of a file. -/
def ofFile (host : Host) (segments : List (List Char)) : Url :=
  ⟨"file".toList, [], [], some host, none, .segments segments, none, none⟩

/-- The text after two slashes of either direction, if it starts with them. -/
def afterTwoSlashes? (kind : Kind) (cs : List Char) : Option (List Char) :=
  match cs with
  | a :: b :: rest => if isSlash kind a && isSlash kind b then some rest else none
  | _ => none

/-- The host of a file. The own host is written as no host at all. -/
def readFileHost (cs : List Char) : Except Fault Host :=
  if cs = [] then .ok (.name [])
  else do
    let host ← readHost cs
    .ok (if host = .name "localhost".toList then .name [] else host)

/-- Reads the URL of a file after its scheme. A drive letter takes the place of a host. -/
def readFile (cs : List Char) : Except Fault Url :=
  match afterTwoSlashes? .file cs with
  | none => .ok (ofFile (.name []) (readPath .file cs))
  | some rest =>
    let host := rest.takeWhile fun c => !endsAuthority .file c
    if isDriveLetter host then .ok (ofFile (.name []) (readSegments .file rest))
    else do
      let name ← readFileHost host
      let segments := readPath .file (rest.drop host.length)
      let name := if segments.head?.any isDriveLetter then .name [] else name
      .ok (ofFile name segments)

/-- Reads what follows the scheme, up to the query. The flag says that there is neither a
query nor a fragment. -/
def readHierarchy (scheme cs : List Char) (endsUrl : Bool) : Except Fault Url :=
  match kind scheme with
  | .file => readFile cs
  | .special => do
    let cs := cs.dropWhile (isSlash .special)
    let authority := cs.takeWhile fun c => !endsAuthority .special c
    let path := cs.drop authority.length
    let parts ← readAuthority scheme authority (endsUrl && path = [])
    .ok (start scheme parts (.segments (readPath .special path)))
  | .plain =>
    match afterTwoSlashes? .plain cs with
    | some cs => do
      let authority := cs.takeWhile fun c => !endsAuthority .plain c
      let path := cs.drop authority.length
      let parts ← readAuthority scheme authority (endsUrl && path = [])
      .ok (start scheme parts (.segments (readPath .plain path)))
    | none =>
      match cs with
      | '/' :: rest => .ok (hostless scheme (.segments (readSegments .plain rest)))
      | _ => .ok (hostless scheme (.opaqueText (percentEncode isControl cs)))

/-- The text without controls and spaces at its ends, and without tabs and line breaks. -/
def cleaned (cs : List Char) : List Char :=
  let isEdge (c : Char) : Bool := c.toNat ≤ 0x20
  let cs := (((cs.dropWhile isEdge).reverse).dropWhile isEdge).reverse
  cs.filter fun c => c ≠ '\t' && c ≠ '\n' && c ≠ '\r'

/-- Reads an absolute URL. -/
def read (cs : List Char) : Except Fault Url :=
  match readScheme? (cleaned cs) with
  | none => .error .relative
  | some (scheme, cs) => do
    let (cs, fragment) :=
      match cut? '#' cs with
      | none => (cs, none)
      | some (cs, fragment) => (cs, some fragment)
    let (cs, query) :=
      match cut? '?' cs with
      | none => (cs, none)
      | some (cs, query) => (cs, some query)
    let url ← readHierarchy scheme cs (query.isNone && fragment.isNone)
    let querySet := if kind scheme = .plain then inQuerySet else inSpecialQuerySet
    .ok { url with
      query := query.map (percentEncode querySet)
      fragment := fragment.map (percentEncode inFragmentSet) }

/-- Reads an absolute URL from a string. -/
def parse (s : String) : Except Fault Url := read s.toList

/-! ## Writing -/

/-- The user name and the password, with an at sign after them. -/
def userText (u : Url) : List Char :=
  if u.username = [] ∧ u.password = [] then []
  else u.username ++ (if u.password = [] then [] else ':' :: u.password) ++ ['@']

/-- The host and the port. -/
def hostText (u : Url) : List Char :=
  match u.host with
  | none => []
  | some host =>
    host.text ++
      (match u.port with
      | none => []
      | some port => ':' :: decimal port)

/-- The path. One that could be taken for a host has a dot before it. -/
def pathText (u : Url) : List Char :=
  match u.path with
  | .opaqueText text => text
  | .segments segments =>
    let text := segments.flatMap ('/' :: ·)
    match u.host, segments with
    | none, [] :: _ :: _ => '/' :: '.' :: text
    | _, _ => text

/-- The URL up to its query. -/
def baseText (u : Url) : List Char :=
  u.scheme ++ ':' :: (if u.host.isSome then ['/', '/'] else []) ++ u.userText ++ u.hostText
    ++ u.pathText

/-- The URL without its fragment. -/
def requestText (u : Url) : List Char :=
  u.baseText ++
    (match u.query with
    | none => []
    | some query => '?' :: query)

/-- The normalized URL. -/
def text (u : Url) : List Char :=
  u.requestText ++
    (match u.fragment with
    | none => []
    | some fragment => '#' :: fragment)

/-- The normalized URL as a string. -/
def render (u : Url) : String := String.ofList u.text

end Url

end FederatedLogin
