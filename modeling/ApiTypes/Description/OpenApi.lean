import ApiTypes.Description.Parts

/-!
Descriptions in the OpenAPI 3 format, as far as they say something about types. Schemas stay as
they are written.
-/

namespace ApiTypes.OpenApi

open Json.Reader

structure MediaType where
  schema : Option Json := none
deriving Repr, Inhabited

structure Parameter where
  name : String
  location : String
  required : Bool
  description : Option String
  schema : Option Json
  content : Option (List (String × MediaType))
deriving Repr, Inhabited

structure RequestBody where
  description : Option String := none
  content : List (String × MediaType) := []
  required : Bool := false
deriving Repr, Inhabited

structure Response where
  description : String := ""
  content : List (String × MediaType) := []
  headers : Option (List (String × Json)) := none
deriving Repr, Inhabited

structure Operation where
  operationId : Option String := none
  summary : Option String := none
  description : Option String := none
  parameters : List (RefOr Parameter) := []
  requestBody : Option (RefOr RequestBody) := none
  responses : List (String × RefOr Response) := []
deriving Repr, Inhabited

structure Components where
  schemas : List (String × Json) := []
deriving Repr, Inhabited

structure Document where
  openapi : String
  info : Info
  paths : List (String × PathItem Operation Parameter)
  components : Option Components
deriving Repr, Inhabited

/-- The schema of a parameter, or else that of its first content entry. -/
def Parameter.typeSchema (p : Parameter) : Option Json :=
  match p.schema with
  | some schema => some schema
  | none =>
    match p.content with
    | some ((_, media) :: _) => media.schema
    | _ => none

/-! ### Reading -/

def MediaType.shape : Json.Shape MediaType MediaType where
  name := "MediaType"
  fields := [("schema", false)]
  start := {}
  set
    | "schema", value, d => (optional raw value).map fun x => { d with schema := x }
    | _, _, d => .ok d
  finish := .ok

structure Parameter.Draft where
  name : Option String := none
  location : Option String := none
  required : Bool := false
  description : Option String := none
  schema : Option Json := none
  content : Option (List (String × MediaType)) := none

def Parameter.shape : Json.Shape Parameter.Draft Parameter where
  name := "Parameter"
  fields := [("name", false), ("in", false), ("required", true), ("description", false),
    ("schema", false), ("content", false)]
  start := {}
  set
    | "name", value, d => (text value).map fun x => { d with name := some x }
    | "in", value, d => (text value).map fun x => { d with location := some x }
    | "required", value, d => (flag value).map fun x => { d with required := x }
    | "description", value, d => (optional text value).map fun x => { d with description := x }
    | "schema", value, d => (optional raw value).map fun x => { d with schema := x }
    | "content", value, d =>
      (optional (table MediaType.shape.read) value).map fun x => { d with content := x }
    | _, _, d => .ok d
  finish d := do
    let name ← Json.require "name" d.name
    let location ← Json.require "in" d.location
    return { name, location, required := d.required, description := d.description,
             schema := d.schema, content := d.content }

def RequestBody.shape : Json.Shape RequestBody RequestBody where
  name := "RequestBody"
  fields := [("description", false), ("content", true), ("required", true)]
  start := {}
  set
    | "description", value, d => (optional text value).map fun x => { d with description := x }
    | "content", value, d => (table MediaType.shape.read value).map fun x => { d with content := x }
    | "required", value, d => (flag value).map fun x => { d with required := x }
    | _, _, d => .ok d
  finish := .ok

def Response.shape : Json.Shape Response Response where
  name := "Response"
  fields := [("description", true), ("content", true), ("headers", false)]
  start := {}
  set
    | "description", value, d => (text value).map fun x => { d with description := x }
    | "content", value, d => (table MediaType.shape.read value).map fun x => { d with content := x }
    | "headers", value, d => (optional (table raw) value).map fun x => { d with headers := x }
    | _, _, d => .ok d
  finish := .ok

def Operation.shape : Json.Shape Operation Operation where
  name := "Operation"
  fields := [("operationId", false), ("summary", false), ("description", false),
    ("parameters", true), ("requestBody", false), ("responses", true)]
  start := {}
  set
    | "operationId", value, d => (optional text value).map fun x => { d with operationId := x }
    | "summary", value, d => (optional text value).map fun x => { d with summary := x }
    | "description", value, d => (optional text value).map fun x => { d with description := x }
    | "parameters", value, d =>
      (sequence (RefOr.read Parameter.shape.read) value).map fun x => { d with parameters := x }
    | "requestBody", value, d =>
      (optional (RefOr.read RequestBody.shape.read) value).map fun x => { d with requestBody := x }
    | "responses", value, d =>
      (readCore (RefOr.read Response.shape.read) value).map fun x => { d with responses := x }
    | _, _, d => .ok d
  finish := .ok

def Components.shape : Json.Shape Components Components where
  name := "Components"
  fields := [("schemas", true)]
  start := {}
  set
    | "schemas", value, d => (table raw value).map fun x => { d with schemas := x }
    | _, _, d => .ok d
  finish := .ok

structure Document.Draft where
  openapi : Option String := none
  info : Option Info := none
  paths : List (String × PathItem Operation Parameter) := []
  components : Option Components := none

def Document.shape : Json.Shape Document.Draft Document where
  name := "OpenApiDocument"
  fields := [("openapi", false), ("info", false), ("paths", true), ("components", false)]
  start := {}
  set
    | "openapi", value, d => (version value).map fun x => { d with openapi := some x }
    | "info", value, d => (Info.shape.read value).map fun x => { d with info := some x }
    | "paths", value, d =>
      (readCore (PathItem.shape Operation.shape.read Parameter.shape.read).read value).map fun x =>
        { d with paths := x }
    | "components", value, d =>
      (optional Components.shape.read value).map fun x => { d with components := x }
    | _, _, d => .ok d
  finish d := do
    let openapi ← Json.require "openapi" d.openapi
    let info ← Json.require "info" d.info
    return { openapi, info, paths := d.paths, components := d.components }

end ApiTypes.OpenApi
