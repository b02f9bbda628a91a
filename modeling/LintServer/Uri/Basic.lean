import LintServer.Path.Basic
import LintServer.Uri.Host

/-!
# Addresses of documents

An address has a scheme, possibly an authority (a user, a host and a port), a path, a query and a
fragment. Its path is a list of segments, or a bare text if the address has no authority and the text
does not start with a slash.

An address is kept in its normal form: the scheme in lower case, what has to be escaped escaped, and
`.` and `..` segments carried out. So two documents have the same address if the texts of their
addresses agree.
-/

namespace LintServer

namespace Uri

/-- A user, a host and a port. -/
structure Authority where
  /-- The user with the `@` behind it, or nothing. -/
  user : String := ""
  host : Option Host := none
  port : Option Nat := none
deriving Repr, DecidableEq, Inhabited

/-- What an address says behind its authority. -/
inductive Route where
  /-- Segments, each with a slash before it. -/
  | segments (segments : List String)
  /-- A text that does not start with a slash. -/
  | bare (text : String)
deriving Repr, DecidableEq, Inhabited

/-- The text of a route. -/
def Route.text : Route → String
  | .segments ss => String.join (ss.map ("/" ++ ·))
  | .bare t => t

/-- The text of an authority. -/
def Authority.text (a : Authority) : String :=
  "//" ++ a.user ++ ((a.host.map Host.text).getD "") ++ ((a.port.map (":" ++ toString ·)).getD "")

end Uri

/-- The address of a document. -/
structure Uri where
  scheme : String
  authority : Option Uri.Authority
  route : Uri.Route
  query : Option String
  fragment : Option String
deriving Repr, DecidableEq, Inhabited

namespace Uri

/-- Whether a route would be taken for an authority if it stood behind the scheme. -/
def Route.looksLikeAuthority : Route → Bool
  | .segments ("" :: _ :: _) => true
  | _ => false

/-- The text of an address. -/
def text (u : Uri) : String :=
  let authority := match u.authority with
    | some a => a.text
    | none => if u.route.looksLikeAuthority then "/." else ""
  u.scheme ++ ":" ++ authority ++ u.route.text ++
    ((u.query.map ("?" ++ ·)).getD "") ++ ((u.fragment.map ("#" ++ ·)).getD "")

/-- The last segment of an address, as it is written there. -/
def lastSegment? (u : Uri) : Option String :=
  match u.route with
  | .segments ss => ss.getLast?
  | .bare _ => none

/-- Whether an address has no host, or a host that is this computer. -/
def isLocal (u : Uri) : Bool :=
  match u.authority.bind (·.host) with
  | none => true
  | some h => h == .domain "localhost"

/-- Whether a text ends like the root of a drive: a letter and a colon or a bar, behind something. -/
def endsLikeDrive (bytes : List UInt8) : Bool :=
  match bytes.reverse with
  | b :: a :: _ :: _ => (b == 0x3A || b == 0x7C) && (Char.ofNat a.toNat).isAlpha
  | _ => false

/-- The path of segments on this computer. What looks like the root of a drive is a directory. -/
def pathOfSegments (segments : List String) : Path :=
  let bytes := segments.flatMap fun s => Path.slash :: percentDecode s.toList
  ⟨if endsLikeDrive bytes then bytes ++ [Path.slash] else bytes⟩

/-- The path that an address has on this computer. -/
def localPath? (u : Uri) : Option Path :=
  match u.route with
  | .segments [] | .bare _ => none
  | .segments ss => if u.isLocal then some (pathOfSegments ss) else none

/-- The path of the file that a document is. -/
def filePath? (u : Uri) : Option Path := if u.scheme = "file" then u.localPath? else none

end Uri

end LintServer
