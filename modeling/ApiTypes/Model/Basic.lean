import ApiTypes.Description.Method
import ApiTypes.TypeExpr.Render

/-!
What an app type is made from: routes with their methods, and named schemas.
-/

namespace ApiTypes

/-- Where a parameter is sent. The body is not such a place. -/
inductive Location where
  | path
  | query
  | header
  | cookie
deriving DecidableEq, Repr, Inhabited

namespace Location

def name : Location → String
  | .path => "path"
  | .query => "query"
  | .header => "header"
  | .cookie => "cookie"

def ofName? : String → Option Location
  | "path" => some .path
  | "query" => some .query
  | "header" => some .header
  | "cookie" => some .cookie
  | _ => none

end Location

namespace Model

structure Info where
  title : String
  version : String
  description : Option String
deriving DecidableEq, Repr, Inhabited

structure Parameter where
  name : String
  type : TypeExpr
  location : Location
  required : Bool
  description : Option String
deriving Repr, Inhabited

structure Body where
  contentType : String
  schema : Json
  required : Bool
deriving Repr, Inhabited

structure Response where
  code : String
  description : String
  contentType : Option String
  schema : Option Json
  headers : Option (List (String × Json))
deriving Repr, Inhabited

structure Endpoint where
  method : Method
  parameters : List Parameter
  body : Option Body
  responses : List Response
  operationId : Option String
  summary : Option String
  description : Option String
deriving Repr, Inhabited

structure Route where
  path : String
  endpoints : List Endpoint
deriving Repr, Inhabited

end Model

structure Model where
  info : Model.Info
  routes : List Model.Route
  /-- The named schemas, unless there are none. -/
  schemas : Option (List (String × Json))
deriving Repr, Inhabited

namespace Model

def namedSchemas (model : Model) : List (String × Json) := model.schemas.getD []

def jsonContent : String := "application/json"

def formContent : String := "application/x-www-form-urlencoded"

/-- A two followed by two digits. -/
def Response.isSuccess (response : Response) : Bool :=
  match response.code.toList with
  | [a, b, c] => a == '2' && b.isDigit && c.isDigit
  | _ => false

def Endpoint.parametersIn (endpoint : Endpoint) (location : Location) : List Parameter :=
  endpoint.parameters.filter fun p => p.location = location

/-- The body, if its content is exactly JSON. -/
def Endpoint.jsonBody? (endpoint : Endpoint) : Option Body :=
  endpoint.body.filter fun body => body.contentType = jsonContent

/-- The first response that is a success. -/
def Endpoint.success? (endpoint : Endpoint) : Option Response :=
  endpoint.responses.find? Response.isSuccess

/-- The first endpoint under a verb. -/
def Route.endpoint? (route : Route) (method : Method) : Option Endpoint :=
  route.endpoints.find? fun e => e.method = method

/-! ### As JSON -/

/-- An entry that is left out when there is no value. -/
def optionalEntry (key : String) (value : Option Json) : List (String × Json) :=
  (value.map (key, ·)).toList

def Info.toJson (info : Info) : Json :=
  .object ([("title", .string info.title), ("version", .string info.version)] ++
    optionalEntry "description" (info.description.map .string))

def Parameter.toJson (p : Parameter) : Json :=
  .object ([("name", .string p.name), ("type", .string (p.type.render TypeExpr.defaultWidth)),
    ("in", .string p.location.name), ("required", .bool p.required)] ++
    optionalEntry "description" (p.description.map .string))

def Body.toJson (body : Body) : Json :=
  .object [("contentType", .string body.contentType), ("schema", body.schema),
    ("required", .bool body.required)]

def Response.toJson (response : Response) : Json :=
  .object ([("statusCode", .string response.code), ("description", .string response.description)] ++
    optionalEntry "contentType" (response.contentType.map .string) ++
    optionalEntry "schema" response.schema ++
    optionalEntry "headers" (response.headers.map .object))

def Endpoint.toJson (endpoint : Endpoint) : Json :=
  .object ([("method", .string endpoint.method.upperName),
    ("parameters", .array (endpoint.parameters.map Parameter.toJson))] ++
    optionalEntry "requestBody" (endpoint.body.map Body.toJson) ++
    [("responses", .array (endpoint.responses.map Response.toJson))] ++
    optionalEntry "operationId" (endpoint.operationId.map .string) ++
    optionalEntry "summary" (endpoint.summary.map .string) ++
    optionalEntry "description" (endpoint.description.map .string))

def Route.toJson (route : Route) : Json :=
  .object [("path", .string route.path),
    ("methods", .array (route.endpoints.map Endpoint.toJson))]

def toJson (model : Model) : Json :=
  .object ([("info", model.info.toJson), ("routes", .array (model.routes.map Route.toJson))] ++
    optionalEntry "schemas" (model.schemas.map .object))

end Model

end ApiTypes
