import ApiTypes.Description.Outline
import ApiTypes.Description.Reference

/-!
What can be wrong with a description, in words and by place.
-/

namespace ApiTypes

/-- Where an operation stands. -/
structure Place where
  path : String
  method : Method
deriving DecidableEq, Repr, Inhabited

inductive Fault where
  | rootNotObject
  | noVersion
  | versionNotText (format : Format)
  | unsupportedVersion (format : Format) (version : String)
  | dangling (reference : Reference.Dangling)
  | unreadable (error : Json.ReadError)
  | noLeadingSlash (path : String)
  /-- A path parameter that the template does not mention. -/
  | strayParameter (place : Place) (name : String)
  | optionalPathParameter (place : Place) (name : String)
  /-- A placeholder without a parameter. -/
  | undeclaredPlaceholder (place : Place) (name : String)
  | invalidCode (place : Place) (code : String)
  | repeatedOperationId (place : Place) (id : String)
deriving Repr, Inhabited

def Format.key : Format → String
  | .openApi3 => "openapi"
  | .swagger2 => "swagger"

def Format.title : Format → String
  | .openApi3 => "OpenAPI"
  | .swagger2 => "Swagger"

def pathPointer (path : String) : String := "/paths/" ++ Json.escapeToken path

def Place.pointer (place : Place) : String := pathPointer place.path ++ "/" ++ place.method.name

namespace Fault

/-- A pointer to the faulty part, where one is known. -/
def pointer? : Fault → Option String
  | .versionNotText format => some ("/" ++ format.key)
  | .unsupportedVersion format _ => some ("/" ++ format.key)
  | .noLeadingSlash path => some (pathPointer path)
  | .strayParameter place _ => some place.pointer
  | .optionalPathParameter place _ => some place.pointer
  | .undeclaredPlaceholder place _ => some place.pointer
  | .invalidCode place _ => some (place.pointer ++ "/responses")
  | .repeatedOperationId place _ => some place.pointer
  | _ => none

/-- What is wrong, without the place. -/
def summary : Fault → String
  | .rootNotObject => "document root must be an object"
  | .noVersion =>
    "document is not an OpenAPI 3.x or Swagger 2.0 description: " ++
      "missing `openapi` or `swagger` field"
  | .versionNotText format => "`" ++ format.key ++ "` must be a string"
  | .unsupportedVersion format version =>
    "unsupported " ++ format.title ++ " version " ++ version
  | .dangling reference => "Error resolving $ref pointer \"" ++ reference.text ++ "\""
  | .unreadable error => error.message
  | .noLeadingSlash path => "path `" ++ path ++ "` must begin with a slash"
  | .strayParameter place name =>
    "path parameter `" ++ name ++ "` does not appear in `" ++ place.path ++ "`"
  | .optionalPathParameter _ name => "path parameter `" ++ name ++ "` must be required"
  | .undeclaredPlaceholder place name =>
    "path parameter `" ++ name ++ "` in `" ++ place.path ++ "` is not declared"
  | .invalidCode _ code => "invalid response code `" ++ code ++ "`"
  | .repeatedOperationId _ id => "duplicate operationId `" ++ id ++ "`"

def message (fault : Fault) : String :=
  match fault.pointer? with
  | none => fault.summary
  | some pointer => fault.summary ++ " (at " ++ pointer ++ ")"

end Fault

end ApiTypes
