import LintServer.Uri.Basic

/-!
# Reading addresses

Blanks and controls around an address, and tabs and line ends inside it, do not count. In the schemes
of the web a backslash is a slash, an authority is never left out and a host never empty; the scheme
`file` has a host only before its path and forgets the name of this computer.
-/

namespace LintServer.Uri

/-- Why a text is no address. -/
inductive Error where
  | noScheme
  | emptyHost
  | badPort
  | badHost (cause : HostError)
deriving Repr, DecidableEq, Inhabited

/-! ## Schemes -/

/-- The ports that the schemes of the web have if none is given. -/
def webPorts : List (String × Nat) := [("http", 80), ("https", 443), ("ws", 80), ("wss", 443), ("ftp", 21)]

/-- Whether an address of a scheme always has a host. -/
def isWeb (scheme : String) : Bool := webPorts.any (·.1 == scheme)

/-- Whether a character may stand in a scheme behind its first letter. -/
def isSchemeChar (c : Char) : Bool := c.isAlphanum || c == '+' || c == '-' || c == '.'

/-- Splits an address behind the colon of its scheme. -/
def splitScheme? (cs : List Char) : Option (String × List Char) :=
  if (cs.head?.map Char.isAlpha).getD false then
    match cs.dropWhile isSchemeChar with
    | ':' :: rest => some (String.ofList ((cs.takeWhile isSchemeChar).map Char.toLower), rest)
    | _ => none
  else none

/-! ## Segments -/

/-- Whether a segment stays where it is. -/
def isHere (s : List Char) : Bool := [".", "%2e"].contains (String.ofList (s.map Char.toLower))

/-- Whether a segment takes the one before it back. -/
def isUp (s : List Char) : Bool :=
  ["..", ".%2e", "%2e.", "%2e%2e"].contains (String.ofList (s.map Char.toLower))

/-- Whether a segment is a letter and a colon or a bar. -/
def isDrive (s : List Char) : Bool :=
  match s with
  | [a, b] => a.isAlpha && (b == ':' || b == '|')
  | _ => false

/-- Takes back the last segment, which stands first, unless it is the root of a drive. -/
def takeBack : List (List Char) → List (List Char)
  | [] => []
  | s :: above => if isDrive s then s :: above else above

/-- Carries out `.` and `..` segments behind those that are done, of which the last stands first.
A path that ends in one of them ends in a slash. -/
def resolveSegments (done : List (List Char)) : List (List Char) → List (List Char)
  | [] => done.reverse
  | s :: rest =>
    let (done, kept) :=
      if isUp s then (takeBack done, [])
      else if isHere s then (done, [])
      else (done, [s])
    match rest, kept with
    | [], [] => ([] :: done).reverse
    | _, _ => resolveSegments (kept ++ done) rest

/-- The segments of a path whose first slash has been read. -/
def segmentsOf (backslash : Bool) (cs : List Char) : List (List Char) :=
  let slashed := if backslash then cs.map fun c => if c = '\\' then '/' else c else cs
  resolveSegments [] ((splitAtChar '/' slashed).map (percentEncode escapedInPath))

/-- Segments without the empty ones they start with. -/
def dropEmptyStart (ss : List (List Char)) : List (List Char) :=
  match ss.dropWhile List.isEmpty with
  | [] => [[]]
  | rest => rest

/-! ## Query and fragment -/

/-- Whether a character ends a path. -/
def endsPath (c : Char) : Bool := c == '?' || c == '#'

/-- Adds to a scheme, an authority and a route the query and the fragment that follow. -/
def withTail (scheme : String) (authority : Option Authority) (route : Route) (rest : List Char) : Uri :=
  let (query, rest) := match rest with
    | '?' :: cs =>
      let raw := cs.takeWhile (· != '#')
      (some (String.ofList (percentEncode (escapedInQuery (isWeb scheme || scheme == "file")) raw)),
        cs.dropWhile (· != '#'))
    | _ => (none, rest)
  let fragment := match rest with
    | '#' :: cs => some (String.ofList (percentEncode escapedInFragment cs))
    | _ => none
  ⟨scheme, authority, route, query, fragment⟩

/-- The route of segments. -/
def routeOf (ss : List (List Char)) : Route := .segments (ss.map String.ofList)

/-! ## Files -/

/-- An address of a file with the rest of its text from the path on. -/
def fileUri (host : Option Host) (rest : List Char) : Uri :=
  let path := rest.takeWhile (! endsPath ·)
  let path := match path with
    | '/' :: cs | '\\' :: cs => cs
    | cs => cs
  withTail "file" (some ⟨"", host, none⟩) (routeOf (dropEmptyStart (segmentsOf true path)))
    (rest.dropWhile (! endsPath ·))

/-- The host of a file; the name of this computer is none. -/
def fileHost (text : List Char) : Except HostError (Option Host) :=
  if text.isEmpty then .ok none
  else
    match webHost text with
    | .ok h => .ok (if h = .domain "localhost" then none else some h)
    | .error e => .error e

/-- Whether a character separates names in addresses of the web. -/
def isSlash (c : Char) : Bool := c == '/' || c == '\\'

/-- An address of a file. -/
def readFile (cs : List Char) : Except Error Uri :=
  match cs with
  | a :: b :: rest =>
    if isSlash a && isSlash b then
      let ends := fun c => isSlash c || endsPath c
      let host := rest.takeWhile (! ends ·)
      if isDrive host then .ok (fileUri none rest)
      else
        match fileHost host with
        | .ok h => .ok (fileUri h (rest.dropWhile (! ends ·)))
        | .error e => .error (.badHost e)
    else .ok (fileUri none cs)
  | _ => .ok (fileUri none cs)

/-! ## Authorities -/

/-- The name and the password of a user, with an `@` behind them if there is any of them. -/
def userText (cs : List Char) : String :=
  let name := percentEncode escapedInUser (cs.takeWhile (· != ':'))
  let password := percentEncode escapedInUser ((cs.dropWhile (· != ':')).drop 1)
  let all := if password.isEmpty then name else name ++ ':' :: password
  String.ofList (if all.isEmpty then [] else all ++ ['@'])

/-- Splits a text at the last `@` in it. -/
def splitAtLastAt (cs : List Char) : Option (List Char × List Char) :=
  match cs.reverse.dropWhile (· != '@') with
  | [] => none
  | _ :: before => some (before.reverse, (cs.reverse.takeWhile (· != '@')).reverse)

/-- Splits a text at the first colon outside brackets. -/
def splitAtPort (inside : Bool) : List Char → List Char × List Char
  | [] => ([], [])
  | c :: rest =>
    if c = ':' ∧ !inside then ([], c :: rest)
    else
      let (host, port) := splitAtPort (if c = '[' then true else if c = ']' then false else inside) rest
      (c :: host, port)

/-- The port of a text of digits. Without digits, and where it is the port of the scheme anyway, there
is none. -/
def portOf (scheme : String) (digits : List Char) : Except Error (Option Nat) :=
  match digitsValue? 10 digits with
  | none => .error .badPort
  | some n =>
    if 65535 < n then .error .badPort
    else .ok (if digits.isEmpty || webPorts.lookup scheme == some n then none else some n)

/-- An address behind the slashes before its authority. -/
def readAuthority (scheme : String) (cs : List Char) : Except Error Uri := do
  let web := isWeb scheme
  let ends := fun c => c == '/' || endsPath c || (web && c == '\\')
  let authority := cs.takeWhile (! ends ·)
  let rest := cs.dropWhile (! ends ·)
  let (user, place) := (splitAtLastAt authority).getD ([], authority)
  let (hostText, portText) := splitAtPort false place
  let user' := userText user
  if authority = ['@'] ∧ !rest.isEmpty then throw .emptyHost
  let host ← if web then
      if hostText.isEmpty then throw .emptyHost
      else match webHost hostText with
        | .ok h => pure (some h)
        | .error e => throw (.badHost e)
    else match otherHost hostText with
      | .ok h => pure h
      | .error e => throw (.badHost e)
  if host.isNone ∧ (!portText.isEmpty ∨ user' ≠ "") then throw .emptyHost
  let digits := (portText.drop 1).takeWhile (· != '\\')
  let port ← portOf scheme digits
  let rest := (portText.drop 1).dropWhile (· != '\\') ++ rest
  let path := rest.takeWhile (! endsPath ·)
  let segments := match path with
    | [] => if web then [[]] else []
    | '/' :: more => segmentsOf web more
    | '\\' :: more => if web then segmentsOf web more else segmentsOf web path
    | _ => segmentsOf web path
  return withTail scheme (some ⟨user', host, port⟩) (routeOf segments) (rest.dropWhile (! endsPath ·))

/-! ## Addresses -/

/-- Whether a character around an address does not count. -/
def isMargin (c : Char) : Bool := c.toNat ≤ 0x20

/-- The characters of an address that count. -/
def relevantChars (cs : List Char) : List Char :=
  ((cs.dropWhile isMargin).reverse.dropWhile isMargin).reverse.filter
    fun c => !(c == '\t' || c == '\n' || c == '\r')

/-- The address that a text is. -/
def parse (text : String) : Except Error Uri :=
  match splitScheme? (relevantChars text.toList) with
  | none => .error .noScheme
  | some (scheme, rest) =>
    if scheme = "file" then readFile rest
    else if isWeb scheme then readAuthority scheme (rest.dropWhile isSlash)
    else
      match rest with
      | '/' :: '/' :: cs => readAuthority scheme cs
      | '/' :: cs =>
        .ok (withTail scheme none (routeOf (segmentsOf false (cs.takeWhile (! endsPath ·))))
          (cs.dropWhile (! endsPath ·)))
      | cs =>
        .ok (withTail scheme none
          (.bare (String.ofList (percentEncode isControl (cs.takeWhile (! endsPath ·)))))
          (cs.dropWhile (! endsPath ·)))

end LintServer.Uri
