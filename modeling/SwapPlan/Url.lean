import SwapPlan.Url.Host

/-!
Absolute URLs. The schemes of the web get a host and a path in normal form; of other schemes
the part behind the colon may be any text.
-/

namespace SwapPlan

namespace Url

structure Authority where
  username : List Char
  password : List Char
  host : Host
  port : Option Nat
deriving DecidableEq

inductive Path
  | text (text : List Char)
  | segments (segments : List (List Char))
deriving DecidableEq

end Url

structure Url where
  scheme : String
  authority : Option Url.Authority
  path : Url.Path
  query : Option (List Char)
  fragment : Option (List Char)
deriving DecidableEq

namespace Url

/-- The port that a scheme means where none is named. -/
def defaultPort? (scheme : String) : Option Nat :=
  if scheme = "http" ∨ scheme = "ws" then some 80
  else if scheme = "https" ∨ scheme = "wss" then some 443
  else if scheme = "ftp" then some 21
  else none

/-- The schemes whose host and path have a normal form. -/
def isSpecial (scheme : String) : Bool := scheme = "file" || (defaultPort? scheme).isSome

def fragmentReserved : List Char := [' ', '"', '<', '>', '\x60']

def pathReserved : List Char := fragmentReserved ++ ['#', '?', '\x7b', '\x7d']

def userinfoReserved : List Char :=
  pathReserved ++ ['/', ':', ';', '=', '@', '[', '\\', ']', '^', '|']

def queryReserved (special : Bool) : List Char :=
  [' ', '"', '#', '<', '>'] ++ (if special then ['\''] else [])

/-- A backslash stands for a slash in special schemes. -/
def isSlash (special : Bool) (c : Char) : Bool := c = '/' || (special && c = '\\')

/-- The end of an authority. -/
def endsAuthority (special : Bool) (c : Char) : Bool := isSlash special c || c = '?' || c = '#'

def takeUntil (stop : Char → Bool) (cs : List Char) : List Char × List Char :=
  (cs.takeWhile fun c => !stop c, cs.dropWhile fun c => !stop c)

/-! ### Parts -/

/-- The scheme in lower case, and what stands behind its colon. -/
def splitScheme? (cs : List Char) : Option (String × List Char) :=
  let (scheme, rest) := takeUntil (· = ':') cs
  match scheme, rest with
  | c :: _, _ :: rest =>
    if c.isAlpha ∧ scheme.all fun c => c.isAlphanum || c ∈ ['+', '-', '.'] then
      some (String.ofList (scheme.map Char.toLower), rest)
    else none
  | _, _ => none

/-- Name and password, around the first colon. -/
def userinfo (cs : List Char) : List Char × List Char :=
  let (name, password) := takeUntil (· = ':') cs
  (percentEncode userinfoReserved name, percentEncode userinfoReserved (password.drop 1))

/-- The characters of a host: up to a colon that is not in brackets. -/
def hostChars (special : Bool) : (bracketed : Bool) → List Char → List Char × List Char
  | _, [] => ([], [])
  | bracketed, c :: cs =>
    if (c = ':' && !bracketed) || endsAuthority special c then ([], c :: cs)
    else
      let (host, rest) := hostChars special (c = '[' || (bracketed && c ≠ ']')) cs
      (c :: host, rest)

/-- A port behind its colon; nothing where it is the default or left out. -/
def port? (scheme : String) (cs : List Char) : Option (Option Nat × List Char) :=
  let (digits, rest) := takeUntil (fun c => c ∈ ['/', '\\', '?', '#']) cs
  if digits = [] then some (none, rest)
  else if Text.allDigits digits ∧ Text.natOfDigits digits < UInt16.size then
    let port := some (Text.natOfDigits digits)
    some (if port = defaultPort? scheme then none else port, rest)
  else none

/-- The authority behind two slashes, and what follows it. -/
def authority? (scheme : String) (cs : List Char) : Option (Authority × List Char) := do
  let special := isSpecial scheme
  let (span, _) := takeUntil (endsAuthority special) cs
  let beforeAt := (span.reverse.dropWhile (· ≠ '@')).drop 1 |>.reverse
  let ((username, password), cs) :=
    if '@' ∈ span then (userinfo beforeAt, cs.drop (beforeAt.length + 1)) else (([], []), cs)
  let (host, rest) := hostChars special false cs
  let named := rest.head? = some ':'
  -- an at sign with nothing in front is followed by a host or by nothing at all
  let bare := '@' ∈ span ∧ beforeAt = [] ∧ cs.head?.any (endsAuthority special)
  if bare ∨ (host = [] ∧ (special ∨ named ∨ username ≠ [] ∨ password ≠ [])) then none
  else
    let host ← if special then Host.special? host else Host.plain? host
    let (port, rest) ← if named then port? scheme (rest.drop 1) else some (none, rest)
    return (⟨username, password, host, port⟩, rest)

/-- A dot, maybe escaped, at the head of a segment; what is behind it. -/
def dot? : List Char → Option (List Char)
  | '.' :: cs => some cs
  | '%' :: '2' :: 'e' :: cs | '%' :: '2' :: 'E' :: cs => some cs
  | _ => none

/-- A letter with a colon or a bar, which names a drive. -/
def isDrive : List Char → Bool
  | [c, d] => c.isAlpha && (d = ':' || d = '|')
  | _ => false

/-- A segment that two dots do not remove: a drive, alone or with a backslash behind it. -/
def isFixed (s : List Char) : Bool := isDrive (s.take 2) && (s.drop 2).head?.all (· = '\\')

/-- The segments without the last one, unless that is fixed. -/
def parent (path : List (List Char)) : List (List Char) :=
  if path.getLast?.any isFixed then path else path.dropLast

/-- Appends segments to those before. One dot stays where it is, two go up by one segment. Where
drives count, one at the beginning has a colon. -/
def resolve (drives : Bool) : (before : List (List Char)) → List (List Char) → List (List Char)
  | before, [] => before
  | before, s :: rest =>
    let close (path : List (List Char)) :=
      if rest = [] then path ++ [[]] else resolve drives path rest
    if dot? s = some [] then close before
    else if (dot? s).bind dot? = some [] then close (parent before)
    else if drives && isDrive s && before = [] then resolve drives [s.take 1 ++ [':']] rest
    else resolve drives (before ++ [s]) rest

/-- The segments between slashes, resolved. -/
def segmentsOf (special drives : Bool) (cs : List Char) : List (List Char) :=
  resolve drives [] ((splitOn (isSlash special) cs).map (percentEncode pathReserved))

/-- The characters behind a slash, if there is one ahead. -/
def dropSlash (special : Bool) (cs : List Char) : List Char :=
  if cs.head?.any (isSlash special) then cs.drop 1 else cs

/-- The segments of a path with a slash in front of each. -/
def segments (special : Bool) (cs : List Char) : List (List Char) :=
  segmentsOf special false (dropSlash special cs)

/-- Path, query and fragment behind an authority. -/
def ofTail (scheme : String) (authority : Option Authority) (cs : List Char)
    (path : List Char → Path) : Url :=
  let (body, fragment) := takeUntil (· = '#') cs
  let (front, query) := takeUntil (· = '?') body
  { scheme, authority
    path := path front
    query := if query = [] then none
      else some (percentEncode (queryReserved (isSpecial scheme)) (query.drop 1))
    fragment := if fragment = [] then none
      else some (percentEncode fragmentReserved (fragment.drop 1)) }

/-- The URL of a scheme that is neither `file` nor one of the web's. -/
def ofPlain? (scheme : String) (cs : List Char) : Option Url :=
  match cs with
  | '/' :: '/' :: rest => do
    let (authority, rest) ← authority? scheme rest
    return ofTail scheme (some authority) rest fun p =>
      .segments (if p = [] then [] else segments false p)
  | '/' :: _ => some (ofTail scheme none cs fun p => .segments (segments false p))
  | _ => some (ofTail scheme none cs fun p => .text (percentEncode [] p))

/-- The authority of a file, and the beginning of its path. -/
def fileAuthority? (cs : List Char) : Option (Host × List Char) :=
  match cs with
  | a :: b :: rest =>
    if isSlash true a && isSlash true b then
      let (name, tail) := takeUntil (endsAuthority true) rest
      if name = [] ∨ isDrive name then some (.domain [], rest)
      else do
        let host ← Host.special? name
        if host = .domain "localhost".toList then return (.domain [], tail)
        else return (host, dropSlash true tail)
    else some (.domain [], dropSlash true cs)
  | _ => some (.domain [], dropSlash true cs)

/-- The URL of a file. A path has no empty segments in front, and one that begins with a drive has
no host. -/
def ofFile? (cs : List Char) : Option Url := do
  let (host, rest) ← fileAuthority? cs
  let segments (p : List Char) : List (List Char) :=
    match (segmentsOf true true p).dropWhile (· = []) with
    | [] => [[]]
    | ss => ss
  let front := (takeUntil (fun c => c = '?' ∨ c = '#') rest).1
  let host := if (segmentsOf true true front).head?.any isDrive then .domain [] else host
  return ofTail "file" (some ⟨[], [], host, none⟩) rest fun p => .segments (segments p)

/-- The URL of a text between blanks. Tabs and line ends inside it do not count. -/
def ofText? (s : String) : Option Url := do
  let blank (c : Char) : Bool := c.toNat ≤ 0x20
  let cs := ((s.toList.dropWhile blank).reverse.dropWhile blank).reverse
  let (scheme, rest) ← splitScheme? (cs.filter fun c => c ∉ ['\t', '\n', '\r'])
  if scheme = "file" then ofFile? rest
  else if isSpecial scheme then
    let (authority, rest) ← authority? scheme (rest.dropWhile (isSlash true))
    return ofTail scheme (some authority) rest fun p => .segments (segments true p)
  else ofPlain? scheme rest

/-! ### Text -/

def Authority.toText (a : Authority) : List Char :=
  let user := a.username ++ (if a.password = [] then [] else ':' :: a.password)
  "//".toList ++ (if user = [] then [] else user ++ ['@']) ++ a.host.toText ++
    (match a.port with
      | some p => ':' :: Nat.toDigits 10 p
      | none => [])

def Path.toText : Path → List Char
  | text t => t
  | segments ss => ss.flatMap fun s => '/' :: s

/-- A path that begins with two slashes has a dot between them where no authority precedes. -/
def toText (u : Url) : String :=
  let optional (mark : Char) : Option (List Char) → List Char
    | some t => mark :: t
    | none => []
  let guard := match u.authority, u.path with
    | none, .segments ([] :: _ :: _) => ['/', '.']
    | _, _ => []
  String.ofList (u.scheme.toList ++ ':' :: (u.authority.elim [] Authority.toText) ++ guard ++
    u.path.toText ++ optional '?' u.query ++ optional '#' u.fragment)

end Url

end SwapPlan
