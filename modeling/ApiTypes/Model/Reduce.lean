import ApiTypes.Description.Outline
import ApiTypes.Model.Basic
import ApiTypes.Schema.Type

/-!
From a description to its model.

References that were left in place are passed over, and so are parameters that are sent nowhere a
model knows. A path without operations makes no route. The first content entry of a body or
response decides its type.
-/

namespace ApiTypes

/-- What happens to parameters of the same name and location. -/
inductive Merge where
  /-- All are kept, those of the path first. -/
  | concatenate
  /-- The last one takes the place of the first. -/
  | override
deriving DecidableEq, Repr, Inhabited

namespace Model

def Parameter.key (p : Parameter) : String × Location := (p.name, p.location)

def mergeParameters : Merge → List Parameter → List Parameter
  | .concatenate, ps => ps
  | .override, ps => Keyed.gather Parameter.key ps

/-- A table, unless it is empty. -/
def nonEmpty {α : Type} : List α → Option (List α)
  | [] => none
  | xs => some xs

def route? (path : String) : List Endpoint → Option Route
  | [] => none
  | endpoints => some ⟨path, endpoints⟩

def ofInfo (info : ApiTypes.Info) : Info := ⟨info.title, info.version, info.description⟩

end Model

/-! ### OpenAPI -/

namespace OpenApi

def Parameter.model? (p : Parameter) : Option Model.Parameter :=
  (Location.ofName? p.location).map fun location =>
    { name := p.name, type := Schema.toType? p.typeSchema, location, required := p.required,
      description := p.description }

def RequestBody.model? (body : RequestBody) : Option Model.Body :=
  match body.content with
  | [] => none
  | (contentType, media) :: _ =>
    media.schema.map fun schema => { contentType, schema, required := body.required }

def Response.model (code : String) (response : Response) : Model.Response where
  code := code
  description := response.description
  contentType := response.content.head?.map Prod.fst
  schema := response.content.head?.bind fun entry => entry.2.schema
  headers := response.headers

def Operation.model (merge : Merge) (shared : List (RefOr Parameter)) (m : Method)
    (op : Operation) : Model.Endpoint where
  method := m
  parameters := Model.mergeParameters merge
    (((shared ++ op.parameters).filterMap RefOr.item?).filterMap Parameter.model?)
  body := (op.requestBody.bind RefOr.item?).bind RequestBody.model?
  responses := op.responses.filterMap fun (code, response) =>
    response.item?.map (Response.model code)
  operationId := op.operationId
  summary := op.summary
  description := op.description

def Document.model (merge : Merge) (doc : Document) : Model where
  info := Model.ofInfo doc.info
  routes := doc.paths.filterMap fun (path, item) =>
    Model.route? path (item.operations.list.map fun (m, op) => op.model merge item.parameters m)
  schemas := doc.components.bind fun components => Model.nonEmpty components.schemas

end OpenApi

/-! ### Swagger -/

namespace Swagger

def Parameter.model? (p : Parameter) : Option Model.Parameter :=
  (Location.ofName? p.location).map fun location =>
    { name := p.name, type := Schema.toType p.inlineSchema, location, required := p.required,
      description := p.description }

/-- The first media type of the operation's own list, or of the document's if it has none. -/
def firstMediaType (own : Option (List String)) (shared : List String) : Option String :=
  (own.getD shared).head?

/-- The schema of an object with a property for each form field. -/
def formSchema (fields : List Parameter) : Json :=
  let properties := Keyed.gather Prod.fst (fields.map fun p => (p.name, p.inlineSchema))
  let required := (fields.filter fun p => p.required).map fun p => Json.string p.name
  .object ([("type", .string "object"), ("properties", .object properties)] ++
    (if required.isEmpty then [] else [("required", .array required)]))

/-- The body parameter, or else the form fields as one object. -/
def body? (parameters : List Parameter) (consumes : Option String) : Option Model.Body :=
  match parameters.find? fun p => p.location = "body" with
  | some p =>
    p.schema.map fun schema =>
      { contentType := consumes.getD Model.jsonContent, schema, required := p.required }
  | none =>
    match parameters.filter fun p => p.location = "formData" with
    | [] => none
    | fields =>
      some { contentType := consumes.getD Model.formContent, schema := formSchema fields,
             required := fields.any fun p => p.required }

def Response.model (produces : String) (code : String) (response : Response) :
    Model.Response where
  code := code
  description := response.description
  contentType := response.schema.map fun _ => produces
  schema := response.schema
  headers := response.headers

def Operation.model (merge : Merge) (doc : Document) (shared : List (RefOr Parameter))
    (m : Method) (op : Operation) : Model.Endpoint :=
  let all := (shared ++ op.parameters).filterMap RefOr.item?
  let produces := (firstMediaType op.produces doc.produces).getD Model.jsonContent
  { method := m
    parameters := Model.mergeParameters merge (all.filterMap Parameter.model?)
    body := body? all (firstMediaType op.consumes doc.consumes)
    responses := op.responses.filterMap fun (code, response) =>
      response.item?.map (Response.model produces code)
    operationId := op.operationId
    summary := op.summary
    description := op.description }

def Document.model (merge : Merge) (doc : Document) : Model where
  info := Model.ofInfo doc.info
  routes := doc.paths.filterMap fun (path, item) =>
    Model.route? path (item.operations.list.map fun (m, op) => op.model merge doc item.parameters m)
  schemas := Model.nonEmpty doc.definitions

end Swagger

def Description.model (merge : Merge) : Description → Model
  | .openApi doc => doc.model merge
  | .swagger doc => doc.model merge

end ApiTypes
