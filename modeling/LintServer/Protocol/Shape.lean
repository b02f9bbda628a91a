import LintServer.Json.Basic
import LintServer.Uri.Parse

/-!
# Shapes of parameters

A shape says which JSON values a place of a message may have. Members that a shape does not name are
ignored, and a member that is null is as good as missing. A record may also be written as an array of
all its members in order, unless it is pieced together from several records.
-/

namespace LintServer.Protocol

/-- Which values a place of a message may have. -/
inductive Shape where
  | any
  | boolean
  | text
  | uri
  /-- An integer between two bounds. -/
  | integer (low high : Int)
  /-- Any number. -/
  | number
  /-- One of some words, possibly as the name of a member without a value. -/
  | word (words : List String)
  | list (item : Shape)
  /-- An object with members of any name. -/
  | table (item : Shape)
  /-- Members with names: whether each is required, and its shape. -/
  | record (ordered : Bool) (fields : List (String × Bool × Shape))
  /-- The first shape that fits. -/
  | oneOf (choices : List Shape)
deriving Repr, Inhabited

namespace Shape

/-- Unsigned 32-bit integers. -/
def u32 : Shape := .integer 0 0xFFFFFFFF

/-- Signed 32-bit integers. -/
def i32 : Shape := .integer (-0x80000000) 0x7FFFFFFF

/-- Whether a value is null or missing. -/
def isAbsent : Option Json → Bool
  | none | some .null => true
  | _ => false

/-- The members of a record that is written as an array. -/
def nameItems (fields : List (String × Bool × Shape)) (items : List Json) : Option (List (String × Json)) :=
  if items.length = fields.length then some (List.zipWith (fun f j => (f.1, j)) fields items) else none

mutual

/-- The value in its full form, with the members that its shape names, if it has the shape. -/
def read : Shape → Json → Option Json
  | .any, j => some j
  | .boolean, j => match j with
    | .bool b => some (.bool b)
    | _ => none
  | .text, j => match j with
    | .str s => some (.str s)
    | _ => none
  | .uri, j => match j with
    | .str s => if (Uri.parse s).toBool then some (.str s) else none
    | _ => none
  | .integer low high, j => match j with
    | .int n => if low ≤ n ∧ n ≤ high then some (.int n) else none
    | _ => none
  | .number, j => match j with
    | .int n => some (.int n)
    | .float t => some (.float t)
    | _ => none
  | .word words, j => match j with
    | .str s => if words.contains s then some (.str s) else none
    | .obj [(s, .null)] => if words.contains s then some (.str s) else none
    | _ => none
  | .list item, j => match j with
    | .arr items => (items.mapM (read item)).map .arr
    | _ => none
  | .table item, j => match j with
    | .obj members => (members.mapM fun m => (read item m.2).map fun v => (m.1, v)).map .obj
    | _ => none
  | .record ordered fields, j => match j with
    | .obj members => (readFields fields members).map .obj
    | .arr items =>
      if ordered then ((nameItems fields items).bind fun members => readFields fields members).map .obj else none
    | _ => none
  | .oneOf choices, j => readFirst choices j
termination_by structural s => s

/-- The members that fields name. -/
def readFields : List (String × Bool × Shape) → List (String × Json) → Option (List (String × Json))
  | [], _ => some []
  | (name, required, shape) :: rest, members =>
    match readFields rest members with
    | none => none
    | some others =>
      match members.lookup name with
      | none => if required then none else some others
      | some j =>
        if !required && isAbsent (some j) then some others
        else (read shape j).map fun v => (name, v) :: others
termination_by structural fields => fields

/-- The value in the first shape that it has. -/
def readFirst : List Shape → Json → Option Json
  | [], _ => none
  | s :: rest, j =>
    match read s j with
    | some v => some v
    | none => readFirst rest j
termination_by structural choices => choices

end

/-- A member that has to be there. -/
def need (name : String) (shape : Shape) : String × Bool × Shape := (name, true, shape)

/-- A member that may be missing. -/
def may (name : String) (shape : Shape) : String × Bool × Shape := (name, false, shape)

/-- A record. -/
def fields (fs : List (String × Bool × Shape)) : Shape := .record true fs

/-- A record that is pieced together from several. -/
def pieces (fs : List (List (String × Bool × Shape))) : Shape := .record false fs.flatten

end Shape

end LintServer.Protocol
