import ApiTypes.Description.Check
import ApiTypes.Json.Parser
import ApiTypes.Model.Reduce
import ApiTypes.Module.App
import ApiTypes.Module.Combine
import ApiTypes.Yaml.Read

/-!
From the text of a description to the text of a module.
-/

namespace ApiTypes

structure Options where
  /-- References are unfolded before anything else. -/
  dereference : Bool := true
  merge : Merge := .concatenate
  /-- The number of spaces for each level of a type. -/
  width : Nat := TypeExpr.defaultWidth
deriving Repr, Inhabited

inductive GenerateError where
  /-- The text is neither YAML nor JSON. -/
  | undecodable
  | invalid (fault : Fault)
  | unsupportedFramework (name : String)
deriving Repr, Inhabited

namespace GenerateError

def code : GenerateError → String
  | .undecodable => "openapi::parse_error"
  | .invalid _ => "openapi::validation"
  | .unsupportedFramework _ => "openapi::unsupported_framework"

def message : GenerateError → String
  | .undecodable =>
    "Failed to parse OpenAPI schema: could not decode document as YAML or JSON"
  | .invalid fault => "Failed to parse OpenAPI schema: " ++ fault.message
  | .unsupportedFramework name => "Unsupported framework: " ++ name

end GenerateError

/-- The framework of a name. -/
def Framework.ofName (name : String) : Except GenerateError Framework :=
  match Framework.ofName? name with
  | some framework => .ok framework
  | none => .error (.unsupportedFramework name)

/-- The text as YAML, or else as JSON. -/
def Json.decode? (text : String) : Option Json :=
  ((Yaml.Value.ofText? text).map Yaml.Value.toJson).or (Json.parse? text)

/-- The model of a description, once it is decoded and valid. -/
def Model.ofText (options : Options) (text : String) : Except GenerateError Model :=
  match Json.decode? text with
  | none => .error .undecodable
  | some root =>
    match Description.validate options.dereference root with
    | .error fault => .error (.invalid fault)
    | .ok description => .ok (description.model options.merge)

/-- The module with the app type of a description. -/
def generateApp (options : Options) (framework : Framework) (name text : String) :
    Except GenerateError String :=
  (Model.ofText options text).map (appModule framework options.width name)

/-- An alias for each named schema of a description. -/
def generateAliases (options : Options) (text : String) : Except GenerateError String :=
  (Model.ofText options text).map (aliases options.width)

/-- The same within a namespace. -/
def generateNamespace (options : Options) (name text : String) : Except GenerateError String :=
  (Model.ofText options text).map (namespacedAliases options.width name)

/-- An app type for each of the named texts; a failure concerns its own text only. -/
def generateBatch (options : Options) (framework : Framework) (texts : List (String × String)) :
    List (String × Except GenerateError String) :=
  texts.map fun (name, text) => (name, generateApp options framework name text)

end ApiTypes
