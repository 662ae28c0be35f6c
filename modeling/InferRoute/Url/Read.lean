import InferRoute.Url.Basic

/-!
Reading web addresses. The text is first stripped of controls and spaces at both ends and of
tabs and line breaks anywhere. A scheme (a letter, then letters, digits, `+`, `-` or `.`, then
a colon) must come first: there is no base address to resolve a relative one against. The
well-known schemes then read an authority after any run of slashes or backslashes; other
schemes read one only after `//`. An authority is optional credentials up to its last `@`, a
host and an optional port. The path follows, its `.` and `..` segments resolved, then an
optional query after `?` and an optional fragment after `#`.
-/

namespace InferRoute

namespace Url

/-- Characters of a scheme after its first letter. -/
def isSchemeChar (c : Char) : Bool := c.isAlphanum || c = '+' || c = '-' || c = '.'

/-- The scheme at the front, lower-cased, and the text after its colon. -/
def schemeOf? : List Char → Option (String × List Char)
  | [] => none
  | c :: rest =>
    if c.isAlpha then
      let name := (c :: rest).takeWhile isSchemeChar
      match (c :: rest).drop name.length with
      | ':' :: after => some (String.ofList (name.map Char.toLower), after)
      | _ => none
    else none

/-- Whether `c` ends an authority: a slash, `?` or `#`, and a backslash for the well-known
schemes. -/
def endsAuthority (special : Bool) (c : Char) : Bool :=
  c = '/' || c = '?' || c = '#' || (special && c = '\\')

/-- The position of the last `@`. -/
def lastAt? (cs : List Char) : Option Nat :=
  (cs.zipIdx.filter (·.1 = '@')).getLast?.map (·.2)

/-- A user name and a password, split at the first colon and percent-encoded. -/
def credentialsOf (info : List Char) : String × String :=
  let user := info.takeWhile (· ≠ ':')
  (Percent.encode PercentSet.userinfo user,
    Percent.encode PercentSet.userinfo ((info.drop user.length).drop 1))

/-- The host text at the front and what follows it: the host ends at a colon outside
brackets or where the authority ends. -/
def hostSpan (special : Bool) : List Char → Bool → List Char × List Char
  | [], _ => ([], [])
  | c :: rest, inside =>
    if (c = ':' && !inside) || endsAuthority special c then ([], c :: rest)
    else
      let inside := if c = '[' then true else if c = ']' then false else inside
      let (h, t) := hostSpan special rest inside
      (c :: h, t)

/-- The port after a colon: decimal digits up to the path, query or fragment, at most 65535;
none when no digit is written or the port is the scheme's default. -/
def portOf (scheme : String) (cs : List Char) : Except UrlError (Option Nat × List Char) :=
  let rec go : List Char → Option Nat → Except UrlError (Option Nat × List Char)
    | [], acc => pure (acc, [])
    | c :: rest, acc =>
      if c.isDigit then
        let v := (acc.getD 0) * 10 + (c.toNat - 48)
        if v > 65535 then throw .invalidPort else go rest (some v)
      else if c = '/' || c = '\\' || c = '?' || c = '#' then pure (acc, c :: rest)
      else throw .invalidPort
  do
    let (port, rest) ← go cs none
    pure (if port = defaultPort scheme then none else port, rest)

/-- Whether a segment is `..`, the dots possibly written `%2e`. -/
def isDoubleDot (s : String) : Bool :=
  [ "..", ".%2e", "%2e.", "%2e%2e" ].contains (s.map Char.toLower)

/-- Whether a segment is `.`, possibly written `%2e`. -/
def isSingleDot (s : String) : Bool :=
  [ ".", "%2e" ].contains (s.map Char.toLower)

/-- Whether a segment names a drive: a letter, then a colon or a bar. -/
def isDriveSegment (s : String) : Bool :=
  match s.toList with
  | [a, b] => a.isAlpha && (b = ':' || b = '|')
  | _ => false

/-- The path after one more segment: `..` removes the last segment, unless that names a drive,
and `.` adds nothing; when either ends the path an empty segment is added, so that the path ends
in a slash. -/
def addSegment (segs : List String) (segment : String) (final : Bool) : List String :=
  if isDoubleDot segment then
    let kept := if (segs.getLast?.map isDriveSegment).getD false then segs else segs.dropLast
    if final then kept ++ [""] else kept
  else if isSingleDot segment then
    if final then segs ++ [""] else segs
  else segs ++ [segment]

/-- The segments of a path up to its query or fragment, and what follows them. Segments are
separated by slashes, and by backslashes for the well-known schemes. -/
def readSegments (special : Bool) : List Char → List String → String → List String × List Char
  | [], segs, buffer => (addSegment segs buffer true, [])
  | c :: rest, segs, buffer =>
    if c = '/' || (special && c = '\\') then
      readSegments special rest (addSegment segs buffer false) ""
    else if c = '?' || c = '#' then (addSegment segs buffer true, c :: rest)
    else readSegments special rest segs (buffer ++ Percent.encodeChar PercentSet.path c)

/-- The query and fragment of what follows a path. -/
def queryAndFragment (special : Bool) : List Char → Option String × Option String
  | '?' :: rest =>
    let q := rest.takeWhile (· ≠ '#')
    let set := if special then PercentSet.specialQuery else PercentSet.query
    let fragment := match rest.drop q.length with
      | '#' :: f => some (Percent.encode PercentSet.fragment f)
      | _ => none
    (some (Percent.encode set q), fragment)
  | '#' :: f => (none, some (Percent.encode PercentSet.fragment f))
  | _ => (none, none)

/-- An address from its scheme and the parts read after the authority. -/
def assemble (scheme : String) (user password : String) (host : Option Host)
    (port : Option Nat) (path : UrlPath) (rest : List Char) : Url :=
  let (query, fragment) := queryAndFragment (isSpecial scheme) rest
  ⟨scheme, user, password, host, port, path, query, fragment⟩

/-- The path of an address with an authority. A well-known scheme always has at least one
segment, its first slash or backslash taken as the start; another scheme has none when the
authority is followed by nothing, a query or a fragment. -/
def pathAfterAuthority (special : Bool) (cs : List Char) : List String × List Char :=
  if special then
    match cs with
    | c :: rest => if c = '/' || c = '\\' then readSegments true rest [] ""
                   else readSegments true (c :: rest) [] ""
    | [] => readSegments true [] [] ""
  else
    match cs with
    | [] => ([], [])
    | c :: rest =>
      if c = '?' || c = '#' then ([], c :: rest)
      else if c = '/' then readSegments false rest [] ""
      else readSegments false (c :: rest) [] ""

/-- The rest of an address after `scheme:` and the slashes before its authority. -/
def readAuthority (scheme : String) (special : Bool) (cs : List Char) : Except UrlError Url := do
  let authority := cs.takeWhile (!endsAuthority special ·)
  let (user, password, afterInfo) ← match lastAt? authority with
    | none => pure ("", "", cs)
    | some 0 =>
      match cs.drop 1 with
      | c :: _ => if endsAuthority special c then throw .emptyHost else pure ("", "", cs.drop 1)
      | [] => pure ("", "", [])
    | some i =>
      let (u, p) := credentialsOf (authority.take i)
      pure (u, p, cs.drop (i + 1))
  let (hostText, afterHost) := hostSpan special afterInfo false
  if special && hostText.isEmpty then throw .emptyHost
  let host ← if special then Host.ofSpecial (String.ofList hostText)
    else Host.ofOther (String.ofList hostText)
  let emptyHost := host = .domain ""
  if emptyHost && afterHost.head? = some ':' then throw .emptyHost
  let (port, afterPort) ← match afterHost with
    | ':' :: r => portOf scheme r
    | r => pure (none, r)
  if emptyHost && !(user.isEmpty && password.isEmpty) then throw .emptyHost
  let (segs, rest) := pathAfterAuthority special afterPort
  pure (assemble scheme user password (some host) port (.segments segs) rest)

/-- Whether two characters name a drive: a letter, then a colon or a bar. -/
def isDriveLetter : List Char → Bool
  | [a, b] => a.isAlpha && (b = ':' || b = '|')
  | _ => false

/-- A `file` address from its host and segments. A first segment naming a drive is written
with a colon and takes the place of the host; empty segments at the start are dropped while
more than one segment is left. -/
def fileAddress (host : Host) (segs : List String) (after : List Char) : Url :=
  let (host, segs) := match segs with
    | first :: rest =>
      match first.toList with
      | [a, b] =>
        if a.isAlpha && (b = ':' || b = '|') then (Host.domain "", String.ofList [a, ':'] :: rest)
        else (host, segs)
      | _ => (host, segs)
    | [] => (host, segs)
  let rec trim : List String → List String
    | "" :: next :: rest => trim (next :: rest)
    | other => other
  assemble "file" "" "" (some host) none (.segments (trim segs)) after

/-- The rest of a `file` address after `file:`. A host follows two slashes; `localhost` and a
missing host both mean the empty host. -/
def readFile (cs : List Char) : Except UrlError Url := do
  let isSlash := fun (c : Char) => c = '/' || c = '\\'
  match cs with
  | a :: b :: rest =>
    if isSlash a && isSlash b then
      let hostText := rest.takeWhile (fun c => !(isSlash c || c = '?' || c = '#'))
      if isDriveLetter hostText then
        let (segs, after) := readSegments true rest [] ""
        return fileAddress (.domain "") segs after
      let host ← if hostText.isEmpty then pure (Host.domain "")
        else do
          let h ← Host.ofSpecial (String.ofList hostText)
          pure (if h = .domain "localhost" then Host.domain "" else h)
      let (segs, after) := pathAfterAuthority true (rest.drop hostText.length)
      return fileAddress host segs after
    else
      let start := if isSlash a then b :: rest else a :: b :: rest
      let (segs, after) := readSegments true start [] ""
      return fileAddress (.domain "") segs after
  | _ =>
    let start := match cs with | [c] => if isSlash c then [] else cs | _ => cs
    let (segs, after) := readSegments true start [] ""
    return fileAddress (.domain "") segs after

/-- The text stripped of controls and spaces at both ends and of tabs and line breaks. -/
def cleaned (text : String) : List Char :=
  let outside := fun (c : Char) => c.val ≤ 0x20
  let cs := ((text.toList.dropWhile outside).reverse.dropWhile outside).reverse
  cs.filter fun c => c ≠ '\t' && c ≠ '\n' && c ≠ '\r'

/-- Reads a web address. -/
def parse (text : String) : Except UrlError Url := do
  let cs := cleaned text
  match schemeOf? cs with
  | none => throw .relativeWithoutBase
  | some (scheme, rest) =>
    if scheme = "file" then readFile rest
    else if isSpecial scheme then
      readAuthority scheme true (rest.dropWhile fun c => c = '/' || c = '\\')
    else
      match rest with
      | '/' :: '/' :: after => readAuthority scheme false after
      | '/' :: after =>
        let (segs, more) := readSegments false after [] ""
        pure (assemble scheme "" "" none none (.segments segs) more)
      | _ =>
        let flat := rest.takeWhile fun c => c ≠ '?' && c ≠ '#'
        pure (assemble scheme "" "" none none
          (.flat (Percent.encode PercentSet.controls flat)) (rest.drop flat.length))

/-- Whether the address names a host, as a request needs. -/
def hasHost (u : Url) : Bool :=
  match u.host with
  | some (.domain "") => false
  | some _ => true
  | none => false

end Url

end InferRoute
