import LintServer.Text.Utf8

/-!
# Paths

A path is a string of bytes in which `/` separates names. Two paths may be spelled differently and
have the same components: repeated and trailing slashes do not count, and neither does a `.`, unless
the path starts with it. A `..` is a component of its own and is never resolved in the text of a path.

What is asked of a path (its parent, its file name, whether it lies inside another) is asked of its
components; what is answered keeps the spelling of the path it came from.
-/

namespace LintServer

/-- The name of an entry of a directory, or any other stretch of a path without slashes. -/
abbrev Name := List UInt8

/-- A path, as it is spelled. -/
structure Path where
  bytes : List UInt8
deriving Repr, DecidableEq, Inhabited

namespace Path

/-- The path of a text. -/
def ofString (s : String) : Path := ⟨Utf8.encode s.toList⟩

/-- The text of a path, with U+FFFD where it is none. -/
def text (p : Path) : String := String.ofList (Utf8.decodeLenient p.bytes)

/-- The text of a path, if it is one. -/
def text? (p : Path) : Option String := (Utf8.decode? p.bytes).map String.ofList

/-- The byte that separates names. -/
def slash : UInt8 := 0x2F

/-- The name of a directory in itself. -/
def here : Name := [0x2E]

/-- The name of the parent of a directory in it. -/
def up : Name := [0x2E, 0x2E]

/-! ## Segments -/

/-- The stretches between slashes, the empty ones included. -/
def segments : List UInt8 → List Name
  | [] => [[]]
  | b :: bs =>
    if b = slash then [] :: segments bs
    else
      match segments bs with
      | [] => [[b]]
      | s :: ss => (b :: s) :: ss

/-- The bytes of stretches with slashes between them. -/
def unsegment : List Name → List UInt8
  | [] => []
  | [s] => s
  | s :: ss => s ++ slash :: unsegment ss

/-- Whether a segment is no component of its own. -/
def isIdle (s : Name) : Bool := s.isEmpty || s == here

/-- Whether a path does not depend on a current directory. -/
def isAbsolute (p : Path) : Bool := p.bytes.head? == some slash

/-- Splits a path behind the slash or the dot that it starts with. -/
def lead (p : Path) : List UInt8 × List UInt8 :=
  if p.isAbsolute then ([slash], p.bytes.drop 1)
  else if (segments p.bytes).head? = some here then (here, p.bytes.drop 1)
  else ([], p.bytes)

/-! ## Components -/

/-- A step of a path. -/
inductive Component where
  /-- The slash that an absolute path starts with. -/
  | root
  /-- The dot that a relative path starts with. -/
  | here
  /-- Two dots. -/
  | up
  | name (n : Name)
deriving Repr, DecidableEq, Inhabited

/-- The component of a segment. -/
def Component.ofSegment? (s : Name) : Option Component :=
  if isIdle s then none else if s = Path.up then some .up else some (.name s)

/-- The components of a path. -/
def components (p : Path) : List Component :=
  let body := (segments p.lead.2).filterMap Component.ofSegment?
  if p.isAbsolute then .root :: body
  else if p.lead.1 = here then .here :: body
  else body

/-- Whether two paths have the same components. -/
def same (p q : Path) : Bool := p.components == q.components

/-- Whether the components of `p` start with those of `folder`. -/
def isWithin (p folder : Path) : Bool := folder.components.isPrefixOf p.components

/-- The last component of a path, if it is a name. -/
def fileName? (p : Path) : Option Name :=
  match p.components.getLast? with
  | some (.name n) => some n
  | _ => none

/-- The path without its last component. A path without components, and the root, have none. -/
def parent? (p : Path) : Option Path :=
  match (segments p.lead.2).reverse.dropWhile isIdle with
  | [] => if p.lead.1 = here then some ⟨[]⟩ else none
  | _ :: above => some ⟨p.lead.1 ++ unsegment (above.dropWhile isIdle).reverse⟩

/-- The path of `name`, seen from `p`. An absolute name does not depend on `p`. -/
def join (p : Path) (name : Name) : Path :=
  if name.head? = some slash then ⟨name⟩
  else if p.bytes.isEmpty || p.bytes.getLast? == some slash then ⟨p.bytes ++ name⟩
  else ⟨p.bytes ++ slash :: name⟩

/-- The parent of a path, its parent, and so on; at most `fuel` of them. -/
def parentsUpTo : (fuel : Nat) → Path → List Path
  | 0, _ => []
  | fuel + 1, p =>
    match p.parent? with
    | none => []
    | some q => q :: parentsUpTo fuel q

/-- The parent of a path, its parent, and so on. Every parent has a component less. -/
def parents (p : Path) : List Path := parentsUpTo p.components.length p

end Path

end LintServer
