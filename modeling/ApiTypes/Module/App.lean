import ApiTypes.Module.Import
import ApiTypes.Text.Lines
import ApiTypes.TypeExpr.Name

/-!
Modules: the app type under an exported name, and an alias for each named schema.
-/

namespace ApiTypes

/-- An exported type with its name made fit. -/
def exportType (width : Nat) (name : String) (type : TypeExpr) : String :=
  "export type " ++ TypeName.sanitize name ++ " = " ++ type.render width ++ ";\n"

/-- A statement on each line, and a blank line after them if there are any. -/
def importBlock (imports : List Import) : String :=
  String.join (imports.map fun i => i.render ++ "\n") ++ (if imports.isEmpty then "" else "\n")

def appModuleWith (imports : List Import) (framework : Framework) (width : Nat) (name : String)
    (model : Model) : String :=
  importBlock imports ++ exportType width name (framework.appType model)

/-- The app type with the imports of its framework. -/
def appModule (framework : Framework) (width : Nat) (name : String) (model : Model) : String :=
  appModuleWith framework.imports framework width name model

/-! ### Aliases -/

/-- One line for each named schema. -/
def aliases (width : Nat) (model : Model) : String :=
  String.join (model.namedSchemas.map fun (name, schema) =>
    exportType width name (Schema.toType schema))

def indentLine (line : List Char) : List Char := if line.isEmpty then [] else ' ' :: ' ' :: line

/-- The lines of a text, each moved right by two spaces and ended by a line feed. -/
def indentLines (text : String) : String :=
  String.ofList ((Text.lines text.toList).flatMap fun line => indentLine line ++ ['\n'])

/-- The aliases within an exported namespace. -/
def namespacedAliases (width : Nat) (name : String) (model : Model) : String :=
  let body := aliases width model
  "export namespace " ++ TypeName.sanitize name ++ " " ++
    Text.inBraces (if body.isEmpty then "" else "\n" ++ indentLines body) ++ "\n"

end ApiTypes
