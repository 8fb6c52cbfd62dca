import ApiTypes.Json.Printer
import ApiTypes.Text.Shown

/-!
Reading typed records from JSON values.

A record is written as an object, or as an array of its fields in order. The entries of an object
are read in the order in which they stand, and the first that does not fit is the error; entries
that name no field are passed over, and fields that are missing are noticed at the end. In an array
only fields with a default may be left out, and only at the end.
-/

namespace ApiTypes.Json

inductive Expected where
  | string
  | boolean
  | sequence
  | map
  | record (name : String)
deriving DecidableEq, Repr, Inhabited

inductive ReadError where
  | mismatch (found : Json) (expected : Expected)
  | missingField (name : String)
  /-- An array ends before the field at `index` of a record with `size` fields. -/
  | tooShort (index : Nat) (record : String) (size : Nat)
  | tooLong (length : Nat)
  /-- A version that is neither text nor a number. -/
  | notText
  | neitherReferenceNorItem
deriving Repr, Inhabited

abbrev Reader (α : Type) := Json → Except ReadError α

/-- What a value is, in words. -/
def found : Json → String
  | .null => "null"
  | .bool value => "boolean `" ++ (if value then "true" else "false") ++ "`"
  | .number (.int value) => "integer `" ++ value.repr ++ "`"
  | .number (.real value) => "floating point `" ++ Number.layout.text value ++ "`"
  | .string text => "string " ++ Text.shown text
  | .array _ => "sequence"
  | .object _ => "map"

def Expected.text : Expected → String
  | .string => "a string"
  | .boolean => "a boolean"
  | .sequence => "a sequence"
  | .map => "a map"
  | .record name => "struct " ++ name

def ReadError.message : ReadError → String
  | .mismatch value expected => "invalid type: " ++ found value ++ ", expected " ++ expected.text
  | .missingField name => "missing field `" ++ name ++ "`"
  | .tooShort index record size =>
    "invalid length " ++ index.repr ++ ", expected struct " ++ record ++ " with " ++ size.repr ++
      (if size = 1 then " element" else " elements")
  | .tooLong length => "invalid length " ++ length.repr ++ ", expected fewer elements in array"
  | .notText => "expected a string"
  | .neitherReferenceNorItem => "data did not match any variant of untagged enum ReferenceOr"

namespace Reader

variable {α : Type}

def raw : Reader Json := .ok

def text : Reader String
  | .string value => .ok value
  | value => .error (.mismatch value .string)

def flag : Reader Bool
  | .bool value => .ok value
  | value => .error (.mismatch value .boolean)

/-- The text of a version; a number counts as its text. -/
def version : Reader String
  | .string value => .ok value
  | .number value => .ok value.text
  | _ => .error .notText

/-- Null counts as absent. -/
def optional (read : Reader α) : Reader (Option α)
  | .null => .ok none
  | value => (read value).map some

def readAll (read : Reader α) : List Json → Except ReadError (List α)
  | [] => .ok []
  | item :: rest =>
    match read item with
    | .error e => .error e
    | .ok x => (readAll read rest).map (x :: ·)

def readEntries (read : Reader α) : List (String × Json) → Except ReadError (List (String × α))
  | [] => .ok []
  | (key, value) :: rest =>
    match read value with
    | .error e => .error e
    | .ok x => (readEntries read rest).map ((key, x) :: ·)

def sequence (read : Reader α) : Reader (List α)
  | .array items => readAll read items
  | value => .error (.mismatch value .sequence)

def table (read : Reader α) : Reader (List (String × α))
  | .object entries => readEntries read entries
  | value => .error (.mismatch value .map)

end Reader

/-- How a record of type `α` is read: `set` stores the value of a named field in a draft `δ`, and
`finish` turns the draft into the record. -/
structure Shape (δ α : Type) where
  name : String
  /-- The fields in order, each with whether it has a default. -/
  fields : List (String × Bool)
  start : δ
  set : String → Json → δ → Except ReadError δ
  finish : δ → Except ReadError α

namespace Shape

variable {δ α : Type}

def setEntries (shape : Shape δ α) : List (String × Json) → δ → Except ReadError δ
  | [], draft => .ok draft
  | (key, value) :: rest, draft =>
    match shape.set key value draft with
    | .error e => .error e
    | .ok draft => setEntries shape rest draft

/-- Stores the items of an array under the fields from `index` on. -/
def setItems (shape : Shape δ α) (length : Nat) :
    Nat → List (String × Bool) → List Json → δ → Except ReadError δ
  | _, [], [], draft => .ok draft
  | _, [], _ :: _, _ => .error (.tooLong length)
  | index, (_, hasDefault) :: fields, [], draft =>
    if hasDefault then setItems shape length (index + 1) fields [] draft
    else .error (.tooShort index shape.name shape.fields.length)
  | index, (field, _) :: fields, item :: rest, draft =>
    match shape.set field item draft with
    | .error e => .error e
    | .ok draft => setItems shape length (index + 1) fields rest draft

def read (shape : Shape δ α) : Reader α
  | .object entries => (shape.setEntries entries shape.start).bind shape.finish
  | .array items =>
    (shape.setItems items.length 0 shape.fields items shape.start).bind shape.finish
  | value => .error (.mismatch value (.record shape.name))

end Shape

/-- A field that a draft must hold. -/
def require (name : String) {α : Type} : Option α → Except ReadError α
  | none => .error (.missingField name)
  | some x => .ok x

end ApiTypes.Json
