import ApiTypes.Description.Method
import ApiTypes.Json.Record

/-!
Parts that both description formats share: general information, references and path items.
-/

namespace ApiTypes

structure Info where
  title : String
  version : String
  description : Option String
deriving DecidableEq, Repr, Inhabited

/-- A reference left in place, or the thing itself. -/
inductive RefOr (α : Type) where
  | reference (text : String)
  | item (value : α)
deriving DecidableEq, Repr, Inhabited

/-- The operations of one path, and the parameters that all of them share. -/
structure PathItem (ω π : Type) where
  parameters : List (RefOr π) := []
  operations : Operations ω := {}
deriving Repr, Inhabited

/-- A key that starts with `x-` holds data of the tools and not of the format. -/
def isExtension (key : String) : Bool :=
  match key.toList with
  | 'x' :: '-' :: _ => true
  | _ => false

namespace RefOr

variable {α : Type}

def item? : RefOr α → Option α
  | .reference _ => none
  | .item value => some value

def isReference : RefOr α → Bool
  | .reference _ => true
  | .item _ => false

/-- An object whose `$ref` is a string is a reference, whatever else it holds. -/
def read (item : Json.Reader α) : Json.Reader (RefOr α) := fun value =>
  match (value.get? "$ref").bind Json.string? with
  | some text => .ok (.reference text)
  | none =>
    match item value with
    | .ok x => .ok (.item x)
    | .error _ => .error .neitherReferenceNorItem

end RefOr

/-- The entries of an object without its extensions. -/
def readCore {α : Type} (read : Json.Reader α) : Json.Reader (List (String × α))
  | .object entries =>
    Json.Reader.readEntries read (entries.filter fun entry => !isExtension entry.1)
  | value => .error (.mismatch value .map)

structure Info.Draft where
  title : Option String := none
  version : Option String := none
  description : Option String := none

def Info.shape : Json.Shape Info.Draft Info where
  name := "Info"
  fields := [("title", false), ("version", false), ("description", false)]
  start := {}
  set
    | "title", value, d => (Json.Reader.text value).map fun x => { d with title := some x }
    | "version", value, d => (Json.Reader.version value).map fun x => { d with version := some x }
    | "description", value, d =>
      (Json.Reader.optional .text value).map fun x => { d with description := x }
    | _, _, d => .ok d
  finish d := do
    let title ← Json.require "title" d.title
    let version ← Json.require "version" d.version
    return { title, version, description := d.description }

def PathItem.shape {ω π : Type} (operation : Json.Reader ω) (parameter : Json.Reader π) :
    Json.Shape (PathItem ω π) (PathItem ω π) where
  name := "PathItem"
  fields := ("parameters", true) :: Method.all.map fun m => (m.name, false)
  start := {}
  set key value d :=
    match Method.ofName? key with
    | some m =>
      (Json.Reader.optional operation value).map fun x =>
        { d with operations := d.operations.set m x }
    | none =>
      if key = "parameters" then
        (Json.Reader.sequence (RefOr.read parameter) value).map fun x => { d with parameters := x }
      else .ok d
  finish := .ok

end ApiTypes
