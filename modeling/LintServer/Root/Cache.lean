import LintServer.Path.Basic

/-!
# Remembered roots

The root of a document is remembered under the document's address. What is remembered once stays:
a later root for the same document is ignored.
-/

namespace LintServer

/-- The roots of documents, the first remembered first. -/
structure RootCache where
  entries : List (String × Path) := []
deriving Repr, DecidableEq, Inhabited

namespace RootCache

/-- The root of a document. -/
def get? (c : RootCache) (uri : String) : Option Path := c.entries.lookup uri

/-- Remembers a root for a document that has none, and gives the root that the document has then. -/
def getOrInsert (c : RootCache) (uri : String) (root : Path) : Path × RootCache :=
  match c.get? uri with
  | some known => (known, c)
  | none => (root, ⟨c.entries ++ [(uri, root)]⟩)

/-- The number of documents with a root. -/
def size (c : RootCache) : Nat := c.entries.length

/-- Whether no document has a root. -/
def isEmpty (c : RootCache) : Bool := c.size == 0

end RootCache

end LintServer
