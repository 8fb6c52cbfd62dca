import ApiTypes.App.RouteTree
import ApiTypes.Description.Template
import ApiTypes.Model.Basic
import ApiTypes.Schema.Type

/-!
App types.

A framework types its client from one type for the whole app. For Hono it maps each path to its
verbs; for Elysia it nests the segments of the paths down to the verbs.
-/

namespace ApiTypes

inductive Framework where
  | hono
  | elysia
deriving DecidableEq, Repr, Inhabited

namespace Framework

def all : List Framework := [.hono, .elysia]

def name : Framework → String
  | .hono => "hono"
  | .elysia => "elysia"

/-- Letters of the ASCII range in small form. -/
def lowered (text : String) : List Char := text.toList.map Char.toLower

/-- Names are compared without regard to the case of ASCII letters. -/
def ofName? (text : String) : Option Framework :=
  all.find? fun f => f.name.toList = lowered text

end Framework

open Model

/-- The parameters of an endpoint at a location as a block object, unless there are none. -/
def parameterObject? (endpoint : Endpoint) (location : Location) (optional : Bool) :
    Option TypeExpr :=
  match endpoint.parametersIn location with
  | [] => none
  | ps => some (.objectOf .block (ps.map fun p => ⟨⟨p.name, false⟩, optional, p.type⟩))

namespace Hono

def inputMembers (endpoint : Endpoint) : List (Member TypeExpr) :=
  ((parameterObject? endpoint .path false).map (Member.field "param")).toList ++
  ((parameterObject? endpoint .query true).map (Member.field "query")).toList ++
  (endpoint.jsonBody?.map fun body => Member.field "json" (Schema.toType body.schema)).toList ++
  ((parameterObject? endpoint .header true).map (Member.field "header")).toList

def inputType (endpoint : Endpoint) : TypeExpr :=
  match inputMembers endpoint with
  | [] => .emptyObject
  | members => .objectOf .block members

def outputType (endpoint : Endpoint) : TypeExpr :=
  match endpoint.success?.bind Response.schema with
  | some schema => Schema.toType schema
  | none => .emptyObject

def methodType (endpoint : Endpoint) : TypeExpr :=
  .objectOf .block
    [.field "input" (inputType endpoint), .field "output" (outputType endpoint),
     .field "outputFormat" (.stringLiteral "json"),
     .field "status" (.literal "ContentfulStatusCode")]

def routeType (route : Route) : TypeExpr :=
  .objectOf .block (route.endpoints.map fun e => .field ("$" ++ e.method.name) (methodType e))

def routesType (model : Model) : TypeExpr :=
  .objectOf .block (model.routes.map fun route =>
    .quotedField (Template.colonPath route.path) (routeType route))

def appType (model : Model) : TypeExpr :=
  .generic "Hono"
    [.literal "BlankEnv", .intersection [routesType model, .emptyObject], .stringLiteral "/"]

end Hono

namespace Elysia

def inputMembers (endpoint : Endpoint) : List (Member TypeExpr) :=
  [.field "body" ((endpoint.jsonBody?.map fun body => Schema.toType body.schema).getD .unknown),
   .field "params" ((parameterObject? endpoint .path false).getD .emptyObject),
   .field "query" ((parameterObject? endpoint .query true).getD .unknown),
   .field "headers" ((parameterObject? endpoint .header true).getD .unknown)]

def inputType (endpoint : Endpoint) : TypeExpr := .objectOf .block (inputMembers endpoint)

/-- Every response code, with what its schema says. -/
def outputType (endpoint : Endpoint) : TypeExpr :=
  .objectOf .block (endpoint.responses.map fun r => .field r.code (Schema.toType? r.schema))

def methodType (endpoint : Endpoint) : TypeExpr :=
  .objectOf .block (inputMembers endpoint ++ [.field "response" (outputType endpoint)])

def routeMembers (route : Route) : List (Member TypeExpr) :=
  Keyed.gather Member.name (route.endpoints.map fun e => .field e.method.name (methodType e))

def routeType (route : Route) : TypeExpr := .object .block (routeMembers route)

/-- The segment under which the bare root path stands. -/
def indexSegment : String := "index"

/-- The pieces of a path between its slashes, the empty ones left out. -/
def segments (path : String) : List String :=
  let pieces := (Text.split '/' (Template.colonPath path).toList).filter fun piece => !piece.isEmpty
  match pieces.map String.ofList with
  | [] => [indexSegment]
  | pieces => pieces

def routeTree (model : Model) : RouteTree :=
  model.routes.foldl (fun tree route =>
    tree.insert (segments route.path) ((routeMembers route).map fun m => (m.name, m.type)))
    RouteTree.empty

def appType (model : Model) : TypeExpr :=
  .generic "Elysia"
    [.stringLiteral "", .literal "SingletonBase", .literal "DefinitionBase",
     .literal "MetadataBase", (routeTree model).toType]

end Elysia

namespace Framework

/-- What an endpoint takes. -/
def inputType : Framework → Endpoint → TypeExpr
  | .hono => Hono.inputType
  | .elysia => Elysia.inputType

/-- What an endpoint answers. -/
def outputType : Framework → Endpoint → TypeExpr
  | .hono => Hono.outputType
  | .elysia => Elysia.outputType

def methodType : Framework → Endpoint → TypeExpr
  | .hono => Hono.methodType
  | .elysia => Elysia.methodType

def routeType : Framework → Route → TypeExpr
  | .hono => Hono.routeType
  | .elysia => Elysia.routeType

def appType : Framework → Model → TypeExpr
  | .hono => Hono.appType
  | .elysia => Elysia.appType

end Framework

end ApiTypes
