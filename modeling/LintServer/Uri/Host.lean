import LintServer.Uri.Domain

/-!
# Hosts

A host is a domain name, or a number written as an IPv4 or IPv6 address. In the schemes of the web a
name whose last label is a number has to be an IPv4 address. In other schemes the name is taken as it
is written.
-/

namespace LintServer.Uri

/-- Where an address leads to. -/
inductive Host where
  | domain (name : String)
  | ipv4 (address : Nat)
  | ipv6 (pieces : List Nat)
deriving Repr, DecidableEq, Inhabited

/-- Why a text is no host. -/
inductive HostError where
  | empty
  | malformedName
  | malformedIpv4
  | malformedIpv6
deriving Repr, DecidableEq, Inhabited

/-! ## IPv4 -/

/-- The number of a text of digits. -/
def digitsValue? (base : Nat) (cs : List Char) : Option Nat :=
  cs.foldlM (fun n c => (hexValue? c).bind fun d => if d < base then some (n * base + d) else none) 0

/-- A piece of an IPv4 address: hexadecimal after `0x`, octal after `0`, else decimal. -/
def ipv4Piece? : List Char → Option Nat
  | [] => none
  | ['0', 'x'] | ['0', 'X'] => some 0
  | '0' :: 'x' :: cs | '0' :: 'X' :: cs => digitsValue? 16 cs
  | '0' :: c :: cs => digitsValue? 8 (c :: cs)
  | cs => digitsValue? 10 cs

/-- The labels of a name without the empty one behind a final dot. -/
def labelsOf (name : List Char) : List (List Char) :=
  match (splitAtChar '.' name).reverse with
  | [] :: l :: ls => (l :: ls).reverse
  | ls => ls.reverse

/-- Whether the last label of a name is a number. -/
def endsInNumber (name : List Char) : Bool :=
  match (labelsOf name).getLast? with
  | some l => (!l.isEmpty && l.all Char.isDigit) || (ipv4Piece? l).isSome
  | none => false

/-- The address of pieces: every piece but the last is a byte, and the last fills the bytes left. -/
def ipv4OfPieces? (pieces : List Nat) : Option Nat :=
  match pieces.getLast? with
  | none => none
  | some last =>
    let high := pieces.dropLast
    if high.length ≤ 3 ∧ high.all (· < 256) ∧ last < Nat.pow 256 (4 - high.length) then
      some (high.foldl (fun n p => n * 256 + p) 0 * Nat.pow 256 (4 - high.length) + last)
    else none

/-- The IPv4 address of a name that ends in a number. -/
def ipv4OfName? (name : List Char) : Option Nat := ((labelsOf name).mapM ipv4Piece?).bind ipv4OfPieces?

/-- The text of an IPv4 address. -/
def ipv4Text (n : Nat) : String :=
  ".".intercalate ([n / 16777216 % 256, n / 65536 % 256, n / 256 % 256, n % 256].map toString)

/-! ## IPv6 -/

/-- A byte of an IPv4 address at the end of an IPv6 address: decimal, without leading zeros. -/
def plainByte? (cs : List Char) : Option Nat :=
  match cs with
  | [] => none
  | c :: rest =>
    if c = '0' ∧ !rest.isEmpty then none
    else if cs.length ≤ 3 then (digitsValue? 10 cs).filter (· < 256) else none

/-- The last two pieces of an IPv6 address that ends in four bytes. -/
def embeddedIpv4? (cs : List Char) : Option (List Nat) :=
  match (splitAtChar '.' cs).mapM plainByte? with
  | some [a, b, c, d] => some [a * 256 + b, c * 256 + d]
  | _ => none

/-- A piece of an IPv6 address. -/
def ipv6Piece? (cs : List Char) : Option Nat :=
  if cs.isEmpty || 4 < cs.length then none else digitsValue? 16 cs

/-- The pieces of a stretch of an IPv6 address without `::`. Only the last stretch may end in four
bytes. -/
def ipv6Stretch? (last : Bool) (cs : List Char) : Option (List Nat) :=
  if cs.isEmpty then some []
  else
    let pieces := splitAtChar ':' cs
    match pieces.getLast? with
    | some p =>
      if last && p.contains '.' then
        match pieces.dropLast.mapM ipv6Piece?, embeddedIpv4? p with
        | some front, some back => some (front ++ back)
        | _, _ => none
      else pieces.mapM ipv6Piece?
    | none => none

/-- Splits a text at the first `::`. -/
def splitAtGap : List Char → Option (List Char × List Char)
  | [] => none
  | ':' :: ':' :: rest => some ([], rest)
  | c :: rest => (splitAtGap rest).map fun (front, back) => (c :: front, back)

/-- The pieces of an IPv6 address. A `::` stands for the pieces that are missing, at least one. -/
def ipv6OfText? (cs : List Char) : Option (List Nat) :=
  match splitAtGap cs with
  | none => (ipv6Stretch? true cs).filter (·.length == 8)
  | some (front, back) =>
    match ipv6Stretch? false front, ipv6Stretch? true back with
    | some f, some b =>
      if f.length + b.length < 8 then some (f ++ List.replicate (8 - f.length - b.length) 0 ++ b) else none
    | _, _ => none

/-- The number of zeros that a list starts with. -/
def leadingZeros (pieces : List Nat) : Nat := (pieces.takeWhile (· == 0)).length

/-- The longest run of zeros, the first of several, as its start and its length. -/
def longestZeros : (pieces : List Nat) → Nat × Nat
  | [] => (0, 0)
  | p :: rest =>
    let (start, length) := longestZeros rest
    let here := leadingZeros (p :: rest)
    if length ≤ here then (0, here) else (start + 1, length)

/-- The text of pieces with colons between them. -/
def piecesText (pieces : List Nat) : List Char :=
  [':'].intercalate (pieces.map fun p => Nat.toDigits 16 p)

/-- The text of an IPv6 address. The longest run of two or more zeros is written `::`. -/
def ipv6Text (pieces : List Nat) : String :=
  let (start, length) := longestZeros pieces
  String.ofList <|
    if 2 ≤ length then piecesText (pieces.take start) ++ [':', ':'] ++ piecesText (pieces.drop (start + length))
    else piecesText pieces

/-! ## Hosts -/

/-- The text of a host. -/
def Host.text : Host → String
  | .domain name => name
  | .ipv4 n => ipv4Text n
  | .ipv6 pieces => "[" ++ ipv6Text pieces ++ "]"

/-- The address between brackets. -/
def bracketedHost (rest : List Char) : Except HostError Host :=
  match rest.reverse with
  | ']' :: inner =>
    match ipv6OfText? inner.reverse with
    | some pieces => .ok (.ipv6 pieces)
    | none => .error .malformedIpv6
  | _ => .error .malformedIpv6

/-- The domain name of bytes, in the form in which it is kept. -/
def domainOfBytes (bytes : List UInt8) : Except HostError (List Char) :=
  match (Utf8.decode? bytes).bind asciiDomain? with
  | some name => .ok name
  | none => .error .malformedName

/-- The host of an address of the web. -/
def webHost (text : List Char) : Except HostError Host :=
  match text with
  | '[' :: rest => bracketedHost rest
  | _ => do
    let name ← domainOfBytes (percentDecode text)
    if name.isEmpty then throw .empty
    else if endsInNumber name then
      match ipv4OfName? name with
      | some n => return .ipv4 n
      | none => throw .malformedIpv4
    else return .domain (String.ofList name)

/-- The host of an address of another scheme. There is none if the text is empty. -/
def otherHost (text : List Char) : Except HostError (Option Host) :=
  match text with
  | [] => .ok none
  | '[' :: rest => (bracketedHost rest).map some
  | _ =>
    if text.any forbiddenInHost.contains then .error .malformedName
    else .ok (some (.domain (String.ofList (percentEncode isControl text))))

end LintServer.Uri
