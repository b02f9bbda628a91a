import LintServer.Toml.Value

/-!
# Building the tree of a document

Tables come about in four ways, and the way decides what may be added to a table later:

* by a header of their own; no second header may name them, and dotted keys may not reach into them;
* on the way to the table of a header; a header of their own may follow once;
* on the way of a dotted key; further dotted keys may add to them, headers may only add tables below;
* inline, as a value; nothing may be added.

An array of tables grows by one table with each header in double brackets.
-/

namespace LintServer.Toml

/-- How a table that may still grow came about. -/
inductive Origin where
  | header | onTheWay | dotted
deriving Repr, DecidableEq, Inhabited

/-- A part of a document that is being read. -/
inductive Node where
  /-- A value that is complete. -/
  | value (v : Value)
  /-- A table. -/
  | table (origin : Origin) (entries : List (String × Node))
  /-- An array of tables, the last one first. -/
  | tables (ts : List (List (String × Node)))
deriving Repr, Inhabited

/-- The entries of a table that is being read, in ascending order of their keys. -/
abbrev Entries := List (String × Node)

/-- The entry of a key. -/
def Entries.get? (es : Entries) (key : String) : Option Node := es.lookup key

/-- Sets the entry of a key, in its place in the order of keys. -/
def Entries.set : Entries → String → Node → Entries
  | [], key, n => [(key, n)]
  | (k, m) :: es, key, n =>
    if k = key then (key, n) :: es
    else if key < k then (key, n) :: (k, m) :: es
    else (k, m) :: Entries.set es key n

/-- Changes the table at the end of a header's path, and makes the tables on the way. Of an array of
tables the last one is meant. -/
def Entries.atHeader (es : Entries) (f : Entries → Result Entries) : List String → Result Entries
  | [] => f es
  | key :: path =>
    match es.get? key with
    | none => (Entries.atHeader [] f path).map fun sub => es.set key (.table .onTheWay sub)
    | some (.table origin sub) =>
      (Entries.atHeader sub f path).map fun sub => es.set key (.table origin sub)
    | some (.tables (last :: ts)) =>
      (Entries.atHeader last f path).map fun last => es.set key (.tables (last :: ts))
    | some _ => .error .extendsValue

/-- Adds a value under a dotted key. Tables with a header are closed to dotted keys, and the table
that gets the value has to come from a dotted key itself. `atTop` tells that no dot was passed. -/
def Entries.putDotted (es : Entries) (origin : Origin) (atTop : Bool) (v : Value) :
    List String → Result Entries
  | [] => .error .badKey
  | [key] =>
    if !atTop && origin != .dotted then .error .duplicateKey
    else
      match es.get? key with
      | none => .ok (es.set key (.value v))
      | some _ => .error .duplicateKey
  | key :: path =>
    match es.get? key with
    | none =>
      (Entries.putDotted [] .dotted false v path).map fun sub => es.set key (.table .dotted sub)
    | some (.table .header _) => .error .duplicateKey
    | some (.table origin sub) =>
      (Entries.putDotted sub origin false v path).map fun sub => es.set key (.table origin sub)
    | some (.tables (last :: ts)) =>
      (Entries.putDotted last .header false v path).map fun last =>
        es.set key (.tables (last :: ts))
    | some _ => .error .extendsValue

/-- Opens the table of a header. -/
def Entries.openTable (es : Entries) (path : List String) : Result Entries :=
  match path.getLast? with
  | none => .error .badHeader
  | some key =>
    es.atHeader (fun parent =>
      match parent.get? key with
      | none => .ok (parent.set key (.table .header []))
      | some (.table .onTheWay sub) => .ok (parent.set key (.table .header sub))
      | some _ => .error .duplicateKey) path.dropLast

/-- Opens the next table of the array of a header in double brackets. -/
def Entries.openArrayTable (es : Entries) (path : List String) : Result Entries :=
  match path.getLast? with
  | none => .error .badHeader
  | some key =>
    es.atHeader (fun parent =>
      match parent.get? key with
      | none => .ok (parent.set key (.tables [[]]))
      | some (.tables ts) => .ok (parent.set key (.tables ([] :: ts)))
      | some _ => .error .duplicateKey) path.dropLast

/-- Adds a value under a dotted key to the table of a header. -/
def Entries.put (es : Entries) (header path : List String) (v : Value) : Result Entries :=
  es.atHeader (fun t => t.putDotted .header true v path) header

/-! ## The finished tree -/

mutual
/-- The value of a part of a document. -/
def Node.toValue : Node → Value
  | .value v => v
  | .table _ es => .table (entryValues es)
  | .tables ts => .array (tableValues ts [])

/-- The values of entries. -/
def entryValues : List (String × Node) → List (String × Value)
  | [] => []
  | (k, n) :: es => (k, n.toValue) :: entryValues es

/-- The values of tables given with the last one first, before the values `later`. -/
def tableValues : List (List (String × Node)) → List Value → List Value
  | [], later => later
  | es :: ts, later => tableValues ts (.table (entryValues es) :: later)
end

end LintServer.Toml
