import ApiTypes.Description.Parts

/-!
Descriptions in the Swagger 2 format, as far as they say something about types.

The body of a request is a parameter here, and a parameter outside the body carries the keywords of
its schema itself.
-/

namespace ApiTypes.Swagger

open Json.Reader

structure Parameter where
  name : String
  location : String
  required : Bool
  description : Option String
  /-- Only for a parameter in the body. -/
  schema : Option Json
  type : Option Json
  format : Option Json
  items : Option Json
  enumeration : Option Json
deriving Repr, Inhabited

structure Response where
  description : String := ""
  schema : Option Json := none
  headers : Option (List (String × Json)) := none
deriving Repr, Inhabited

structure Operation where
  operationId : Option String := none
  summary : Option String := none
  description : Option String := none
  consumes : Option (List String) := none
  produces : Option (List String) := none
  parameters : List (RefOr Parameter) := []
  responses : List (String × RefOr Response) := []
deriving Repr, Inhabited

structure Document where
  swagger : String
  info : Info
  consumes : List String
  produces : List String
  paths : List (String × PathItem Operation Parameter)
  definitions : List (String × Json)
deriving Repr, Inhabited

/-- The schema that a parameter's own keywords make up. -/
def Parameter.inlineSchema (p : Parameter) : Json :=
  .object <|
    [("type", p.type), ("format", p.format), ("items", p.items), ("enum", p.enumeration)].filterMap
      fun (key, value) => value.map (key, ·)

/-! ### Reading -/

structure Parameter.Draft where
  name : Option String := none
  location : Option String := none
  required : Bool := false
  description : Option String := none
  schema : Option Json := none
  type : Option Json := none
  format : Option Json := none
  items : Option Json := none
  enumeration : Option Json := none

def Parameter.shape : Json.Shape Parameter.Draft Parameter where
  name := "SwaggerParameter"
  fields := [("name", false), ("in", false), ("required", true), ("description", false),
    ("schema", false), ("type", false), ("format", false), ("items", false), ("enum", false)]
  start := {}
  set
    | "name", value, d => (text value).map fun x => { d with name := some x }
    | "in", value, d => (text value).map fun x => { d with location := some x }
    | "required", value, d => (flag value).map fun x => { d with required := x }
    | "description", value, d => (optional text value).map fun x => { d with description := x }
    | "schema", value, d => (optional raw value).map fun x => { d with schema := x }
    | "type", value, d => (optional raw value).map fun x => { d with type := x }
    | "format", value, d => (optional raw value).map fun x => { d with format := x }
    | "items", value, d => (optional raw value).map fun x => { d with items := x }
    | "enum", value, d => (optional raw value).map fun x => { d with enumeration := x }
    | _, _, d => .ok d
  finish d := do
    let name ← Json.require "name" d.name
    let location ← Json.require "in" d.location
    return { name, location, required := d.required, description := d.description,
             schema := d.schema, type := d.type, format := d.format, items := d.items,
             enumeration := d.enumeration }

def Response.shape : Json.Shape Response Response where
  name := "SwaggerResponse"
  fields := [("description", true), ("schema", false), ("headers", false)]
  start := {}
  set
    | "description", value, d => (text value).map fun x => { d with description := x }
    | "schema", value, d => (optional raw value).map fun x => { d with schema := x }
    | "headers", value, d => (optional (table raw) value).map fun x => { d with headers := x }
    | _, _, d => .ok d
  finish := .ok

def Operation.shape : Json.Shape Operation Operation where
  name := "SwaggerOperation"
  fields := [("operationId", false), ("summary", false), ("description", false),
    ("consumes", false), ("produces", false), ("parameters", true), ("responses", true)]
  start := {}
  set
    | "operationId", value, d => (optional text value).map fun x => { d with operationId := x }
    | "summary", value, d => (optional text value).map fun x => { d with summary := x }
    | "description", value, d => (optional text value).map fun x => { d with description := x }
    | "consumes", value, d =>
      (optional (sequence text) value).map fun x => { d with consumes := x }
    | "produces", value, d =>
      (optional (sequence text) value).map fun x => { d with produces := x }
    | "parameters", value, d =>
      (sequence (RefOr.read Parameter.shape.read) value).map fun x => { d with parameters := x }
    | "responses", value, d =>
      (readCore (RefOr.read Response.shape.read) value).map fun x => { d with responses := x }
    | _, _, d => .ok d
  finish := .ok

structure Document.Draft where
  swagger : Option String := none
  info : Option Info := none
  consumes : List String := []
  produces : List String := []
  paths : List (String × PathItem Operation Parameter) := []
  definitions : List (String × Json) := []

def Document.shape : Json.Shape Document.Draft Document where
  name := "SwaggerDocument"
  fields := [("swagger", false), ("info", false), ("consumes", true), ("produces", true),
    ("paths", true), ("definitions", true)]
  start := {}
  set
    | "swagger", value, d => (version value).map fun x => { d with swagger := some x }
    | "info", value, d => (Info.shape.read value).map fun x => { d with info := some x }
    | "consumes", value, d => (sequence text value).map fun x => { d with consumes := x }
    | "produces", value, d => (sequence text value).map fun x => { d with produces := x }
    | "paths", value, d =>
      (readCore (PathItem.shape Operation.shape.read Parameter.shape.read).read value).map fun x =>
        { d with paths := x }
    | "definitions", value, d => (table raw value).map fun x => { d with definitions := x }
    | _, _, d => .ok d
  finish d := do
    let swagger ← Json.require "swagger" d.swagger
    let info ← Json.require "info" d.info
    return { swagger, info, consumes := d.consumes, produces := d.produces, paths := d.paths,
             definitions := d.definitions }

end ApiTypes.Swagger
