import ApiTypes.Description.OpenApi
import ApiTypes.Description.Swagger

/-!
A description in either format, and its outline: paths, operations, parameters and response codes
without anything that only one format has.
-/

namespace ApiTypes

inductive Description where
  | openApi (document : OpenApi.Document)
  | swagger (document : Swagger.Document)
deriving Repr, Inhabited

/-- The two description formats. -/
inductive Format where
  | openApi3
  | swagger2
deriving DecidableEq, Repr, Inhabited

namespace Outline

structure Parameter where
  name : String
  location : String
  required : Bool
deriving DecidableEq, Repr, Inhabited

structure Operation where
  method : Method
  operationId : Option String
  parameters : List (RefOr Parameter)
  codes : List String
deriving DecidableEq, Repr, Inhabited

structure Path where
  path : String
  parameters : List (RefOr Parameter)
  operations : List Operation
deriving DecidableEq, Repr, Inhabited

end Outline

def RefOr.map {α β : Type} (f : α → β) : RefOr α → RefOr β
  | .reference text => .reference text
  | .item value => .item (f value)

def OpenApi.Parameter.outline (p : OpenApi.Parameter) : Outline.Parameter :=
  ⟨p.name, p.location, p.required⟩

def OpenApi.Operation.outline (m : Method) (op : OpenApi.Operation) : Outline.Operation where
  method := m
  operationId := op.operationId
  parameters := op.parameters.map (RefOr.map OpenApi.Parameter.outline)
  codes := op.responses.map Prod.fst

def OpenApi.Document.outline (doc : OpenApi.Document) : List Outline.Path :=
  doc.paths.map fun (path, item) =>
    { path
      parameters := item.parameters.map (RefOr.map OpenApi.Parameter.outline)
      operations := item.operations.list.map fun (m, op) => op.outline m }

def Swagger.Parameter.outline (p : Swagger.Parameter) : Outline.Parameter :=
  ⟨p.name, p.location, p.required⟩

def Swagger.Operation.outline (m : Method) (op : Swagger.Operation) : Outline.Operation where
  method := m
  operationId := op.operationId
  parameters := op.parameters.map (RefOr.map Swagger.Parameter.outline)
  codes := op.responses.map Prod.fst

def Swagger.Document.outline (doc : Swagger.Document) : List Outline.Path :=
  doc.paths.map fun (path, item) =>
    { path
      parameters := item.parameters.map (RefOr.map Swagger.Parameter.outline)
      operations := item.operations.list.map fun (m, op) => op.outline m }

namespace Description

def info : Description → Info
  | .openApi doc => doc.info
  | .swagger doc => doc.info

def format : Description → Format
  | .openApi _ => .openApi3
  | .swagger _ => .swagger2

def outline : Description → List Outline.Path
  | .openApi doc => doc.outline
  | .swagger doc => doc.outline

end Description

end ApiTypes
