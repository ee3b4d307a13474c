import FeedIngest.Url.Host

/-!
# URLs

Reading a URL that stands on its own, writing it, its origin, and what a request for it asks
for. Special schemes have hosts under common rules and paths of segments; other schemes may
have a path that is plain text.
-/

set_option autoImplicit false

namespace FeedIngest

open Text

namespace Url

/-- Who answers for a URL, and under which name he is asked. -/
structure Authority where
  username : String
  password : String
  host : Host
  /-- Nothing if it is the one that the scheme uses anyway. -/
  port : Option Nat
deriving DecidableEq, Repr

def Authority.nobody : Authority := ⟨"", "", .other "", none⟩

inductive Path where
  | segments (segments : List String)
  | plain (text : String)
deriving DecidableEq, Repr

/-- How the URLs of a scheme are read. -/
inductive SchemeKind where
  | file
  | special
  | other
deriving DecidableEq, Repr

def schemeKind (scheme : String) : SchemeKind :=
  if scheme = "file" then .file
  else if ["http", "https", "ws", "wss", "ftp"].contains scheme then .special
  else .other

def defaultPort? : String → Option Nat
  | "http" | "ws" => some 80
  | "https" | "wss" => some 443
  | "ftp" => some 21
  | _ => none

end Url

/-- The parts of a URL, each as it is written. -/
structure Url where
  scheme : String
  authority : Option Url.Authority
  path : Url.Path
  query : Option String
  fragment : Option String
deriving DecidableEq, Repr

namespace Url

def isLetter (c : Char) : Bool := 'a' ≤ asciiLower c && asciiLower c ≤ 'z'

/-- Whether a scheme may hold a character after its first letter. -/
def isSchemePart (c : Char) : Bool := isLetter c || isDigit c || c == '+' || c == '-' || c == '.'

def scheme? (cs : List Char) : Option (String × List Char) :=
  match splitFirst? ':' cs with
  | some (name, rest) =>
    if name.head?.any isLetter && name.all isSchemePart then
      some (String.ofList (name.map asciiLower), rest)
    else none
  | none => none

def endsAuthority (special : Bool) (c : Char) : Bool :=
  c == '/' || c == '?' || c == '#' || (special && c == '\\')

def userinfo (cs : List Char) : String × String :=
  let encoded (cs : List Char) : String := String.ofList (Percent.encode Percent.inUserinfo cs)
  match splitFirst? ':' cs with
  | some (name, password) => (encoded name, encoded password)
  | none => (encoded cs, "")

/-- Where the host of an authority ends: at a colon outside of brackets. -/
def hostLength (inBrackets : Bool) : List Char → Nat
  | [] => 0
  | c :: cs =>
    if c = ':' ∧ ¬inBrackets then 0
    else hostLength (if c = '[' then true else if c = ']' then false else inBrackets) cs + 1

/-- Reads a port; an empty one is none. -/
def port? (scheme : String) (cs : List Char) : Except Fault (Option Nat) :=
  let ds := cs.takeWhile isDigit
  if ds.length < cs.length ∨ 65535 < digitsValue ds then .error .badPort
  else if ds.isEmpty ∨ some (digitsValue ds) = defaultPort? scheme then .ok none
  else .ok (some (digitsValue ds))

/-- Reads the authority of a scheme. Only other schemes may do without a host, and then
without a name and a port as well. -/
def Authority.parse (scheme : String) (cs : List Char) : Except Fault Authority := do
  let special := schemeKind scheme == .special
  let hostAndPort := (cs.reverse.takeWhile (· != '@')).reverse
  let (username, password) :=
    if hostAndPort.length < cs.length then userinfo (cs.take (cs.length - hostAndPort.length - 1))
    else ("", "")
  let hasUserinfo := username ≠ "" ∨ password ≠ ""
  let length := hostLength false hostAndPort
  let hostText := hostAndPort.take length
  let rest := hostAndPort.drop length
  if hostText.isEmpty ∧ (special ∨ !rest.isEmpty ∨ hasUserinfo) then throw .emptyHost
  let host ← if special then Host.parse hostText else Host.parseOther hostText
  let port ← port? scheme (rest.drop 1)
  return ⟨username, password, host, port⟩

def isSingleDot (segment : List Char) : Bool :=
  [".", "%2e"].contains (String.ofList (segment.map asciiLower))

def isDoubleDot (segment : List Char) : Bool :=
  ["..", ".%2e", "%2e.", "%2e%2e"].contains (String.ofList (segment.map asciiLower))

def isDrive : List Char → Bool
  | [c, d] => isLetter c && (d == ':' || d == '|')
  | _ => false

/-- The segments without the last one; a drive is never left. -/
def climb (segments : List String) : List String :=
  match segments.getLast? with
  | some last => if isDrive last.toList then segments else segments.dropLast
  | none => []

/-- The segments of a path after one more, which is the last one or has a slash behind it. -/
def takeSegment (kind : SchemeKind) (closed : List String) (segment : List Char) (isLast : Bool) :
    List String :=
  let opened : List String := if isLast then [""] else []
  if isDoubleDot segment then climb closed ++ opened
  else if isSingleDot segment then closed ++ opened
  else if kind = .file ∧ isDrive segment then closed ++ [String.ofList (segment.take 1 ++ [':'])]
  else closed ++ [String.ofList (Percent.encode Percent.inPath segment)]

def takeSegments (kind : SchemeKind) (closed : List String) : List (List Char) → List String
  | [] => closed
  | [segment] => takeSegment kind closed segment true
  | segment :: rest => takeSegments kind (takeSegment kind closed segment false) rest

def segmentsAfter (kind : SchemeKind) (closed : List String) (cs : List Char) : List String :=
  let isSlash (c : Char) : Bool := c == '/' || (kind != .other && c == '\\')
  takeSegments kind closed (cs.splitOnP isSlash)

def segments (kind : SchemeKind) (cs : List Char) : List String := segmentsAfter kind [] cs

/-- The first of several empty segments says nothing in the path of a file. -/
def dropEmptyHead : List String → List String
  | "" :: second :: rest => dropEmptyHead (second :: rest)
  | segments => segments

def splitTail (kind : SchemeKind) (cs : List Char) :
    List Char × Option String × Option String :=
  let (body, fragment) := match splitFirst? '#' cs with
    | some (body, fragment) =>
      (body, some (String.ofList (Percent.encode Percent.inFragment fragment)))
    | none => (cs, none)
  let inQuery := if kind = .other then Percent.inQuery else Percent.inSpecialQuery
  match splitFirst? '?' body with
  | some (path, query) => (path, some (String.ofList (Percent.encode inQuery query)), fragment)
  | none => (body, none, fragment)

/-- Reads what follows the scheme of a file. A host that is a drive belongs to the path, and
the host of this machine is not written. -/
def fileBody (cs : List Char) : Except Fault (Authority × List String) := do
  let isSlash (c : Char) : Bool := c == '/' || c == '\\'
  let pathOf (cs : List Char) : List String := dropEmptyHead (segments .file cs)
  match cs with
  | a :: b :: rest =>
    if isSlash a && isSlash b then
      let name := rest.takeWhile fun c => !isSlash c
      if name.isEmpty ∨ isDrive name then return (.nobody, pathOf rest)
      let host ← Host.parse name
      let path := rest.drop (name.length + 1)
      let leadsToDrive := isDrive (path.takeWhile fun c => !isSlash c)
      if host = .domain "localhost" ∨ leadsToDrive then return (.nobody, pathOf path)
      return (⟨"", "", host, none⟩, pathOf path)
    else return (.nobody, pathOf (if isSlash a then b :: rest else cs))
  | cs => return (.nobody, pathOf (cs.dropWhile isSlash))

def specialBody (scheme : String) (cs : List Char) : Except Fault (Authority × List String) := do
  let cs := cs.dropWhile fun c => c == '/' || c == '\\'
  let name := cs.takeWhile fun c => !endsAuthority true c
  return (← Authority.parse scheme name, segments .special (cs.drop (name.length + 1)))

/-- Reads the authority, if there is one, and the path of any other scheme. -/
def otherBody (scheme : String) (cs : List Char) : Except Fault (Option Authority × Path) := do
  match cs with
  | '/' :: '/' :: rest =>
    let name := rest.takeWhile fun c => !endsAuthority false c
    let path := rest.drop name.length
    if name = ['@'] ∧ !path.isEmpty then throw .emptyHost
    return (some (← Authority.parse scheme name),
      .segments (if path.isEmpty then [] else segments .other (path.drop 1)))
  | '/' :: rest => return (none, .segments (segments .other rest))
  | cs => return (none, .plain (String.ofList (Percent.encode Percent.inControls cs)))

/-- The characters of a URL that count. Blanks and control characters around it are dropped,
and so are tabs and line ends anywhere in it. -/
def significant (text : String) : List Char :=
  let isOuter (c : Char) : Bool := c.toNat ≤ 0x20
  let isInner (c : Char) : Bool := c == '\t' || c == '\n' || c == '\r'
  (dropEnd isOuter (text.toList.dropWhile isOuter)).filter fun c => !isInner c

def parse (text : String) : Except Fault Url := do
  match scheme? (significant text) with
  | none => throw .relative
  | some (scheme, rest) =>
    let kind := schemeKind scheme
    let (body, query, fragment) := splitTail kind rest
    match kind with
    | .file =>
      let (authority, path) ← fileBody body
      return ⟨scheme, some authority, .segments path, query, fragment⟩
    | .special =>
      let (authority, path) ← specialBody scheme body
      return ⟨scheme, some authority, .segments path, query, fragment⟩
    | .other =>
      let (authority, path) ← otherBody scheme body
      return ⟨scheme, authority, path, query, fragment⟩

def Path.text : Path → String
  | segments parts => String.join (parts.map ("/" ++ ·))
  | plain text => text

def Authority.hostText (a : Authority) : String :=
  a.host.text ++ match a.port with
    | some port => ":" ++ decimal port
    | none => ""

def Authority.text (a : Authority) : String :=
  let name := a.username ++ if a.password = "" then "" else ":" ++ a.password
  (if name = "" then "" else name ++ "@") ++ a.hostText

/-- What a request for a URL asks for: the path with the query. -/
def requestTarget (url : Url) : String :=
  url.path.text ++ match url.query with
    | some query => "?" ++ query
    | none => ""

/-- The text of a URL. A path that begins like an authority is set off by a dot. -/
def text (url : Url) : String :=
  let start := match url.authority with
    | some authority => "//" ++ authority.text
    | none => if url.path.text.toList.take 2 = ['/', '/'] then "/." else ""
  let rest := match url.fragment with
    | some fragment => "#" ++ fragment
    | none => ""
  url.scheme ++ ":" ++ start ++ url.requestTarget ++ rest

def withoutUserinfo (url : Url) : Url :=
  { url with authority := url.authority.map fun a => { a with username := "", password := "" } }

def originWithin (depth : Nat) (url : Url) : String :=
  match schemeKind url.scheme, url.authority with
  | .special, some authority => url.scheme ++ "://" ++ authority.hostText
  | _, _ =>
    match depth with
    | 0 => "null"
    | depth + 1 =>
      if url.scheme = "blob" then
        match parse url.path.text with
        | .ok inner => originWithin depth inner
        | .error _ => "null"
      else "null"

/-- The scheme, host and port that a URL is asked at. Schemes of their own rules have none. -/
def origin (url : Url) : String := url.originWithin url.path.text.length

end Url

end FeedIngest
