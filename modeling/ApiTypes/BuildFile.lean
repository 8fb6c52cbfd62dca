import ApiTypes.Generate
import ApiTypes.Files.Path
import ApiTypes.Kdl.Read

/-!
Build files: what to generate from which descriptions, and where to put it.

A build file has one output block, any number of targets and of named schemas, and perhaps a file
for the aliases of all schemas. Its nodes are read in order, and the first fault counts.
-/

namespace ApiTypes

structure SchemaSource where
  name : String
  path : String
deriving DecidableEq, Repr, Inhabited

structure BuildFile where
  directory : String
  indent : Option Nat
  targets : List Framework
  /-- The file for all aliases, within the directory. -/
  models : Option String
  schemas : List SchemaSource
deriving DecidableEq, Repr, Inhabited

namespace BuildFile

inductive Fault where
  | severalOutputs
  | repeatedSchema (name : String)
  | unknownNode (name : String)
  | noOutput
  | nothingToGenerate
  /-- A node whose first value is no string. -/
  | noString (node : String)
  | unnamedSchema
  | emptyOutput
  | indentNoInteger
  | indentOutOfRange
  | unknownOutputField (name : String)
  | noDirectory
  | emptySchema (name : String)
  | unknownSchemaField (name : String)
  | noPath (name : String)
  | unsupportedFramework (name : String)
deriving DecidableEq, Repr, Inhabited

/-- What is wrong, the most general statement first. -/
def Fault.chain : Fault → List String
  | .severalOutputs => ["Multiple output blocks found"]
  | .repeatedSchema name => ["Duplicate schema name: " ++ name]
  | .unknownNode name => ["Unknown config node: " ++ name]
  | .noOutput => ["Missing output block"]
  | .nothingToGenerate => ["Nothing to generate: add a target or models node"]
  | .noString node => [node ++ " expects a string value"]
  | .unnamedSchema =>
    ["schema expects a name as first argument", "schema expects a string value"]
  | .emptyOutput => ["output block has no children"]
  | .indentNoInteger => ["indent expects an integer value"]
  | .indentOutOfRange => ["indent must be a non-negative integer"]
  | .unknownOutputField name => ["Unknown output field: " ++ name]
  | .noDirectory => ["Missing output directory"]
  | .emptySchema name => ["schema " ++ name ++ " has no children"]
  | .unknownSchemaField name => ["Unknown schema field: " ++ name]
  | .noPath name => ["schema " ++ name ++ " is missing a path"]
  | .unsupportedFramework name => [(GenerateError.unsupportedFramework name).message]

/-! ### Output and schemas -/

structure Output where
  directory : String
  indent : Option Nat
deriving DecidableEq, Repr, Inhabited

structure OutputFields where
  directory : Option String := none
  indent : Option Nat := none
deriving Repr, Inhabited

def orFault {α : Type} (fault : Fault) : Option α → Except Fault α
  | some value => .ok value
  | none => .error fault

def firstString (what : String) (node : Kdl.Node) : Except Fault String :=
  orFault (.noString what) node.firstString?

/-- The widest indent. -/
def maxIndent : Int := Int.pow 2 64 - 1

def indentOf (node : Kdl.Node) : Except Fault Nat := do
  let value ← orFault .indentNoInteger node.firstInteger?
  if 0 ≤ value ∧ value ≤ maxIndent then return value.toNat else .error .indentOutOfRange

def addOutputField (fields : OutputFields) (node : Kdl.Node) : Except Fault OutputFields :=
  match node.name with
  | "dir" => return { fields with directory := some (← firstString "dir" node) }
  | "indent" => return { fields with indent := some (← indentOf node) }
  | other => .error (.unknownOutputField other)

def readOutput (node : Kdl.Node) : Except Fault Output := do
  let children ← orFault .emptyOutput node.children
  let fields ← children.foldlM addOutputField {}
  return ⟨← orFault .noDirectory fields.directory, fields.indent⟩

def addSchemaField (_ : Option String) (node : Kdl.Node) : Except Fault (Option String) :=
  match node.name with
  | "path" => return some (← firstString "path" node)
  | other => .error (.unknownSchemaField other)

def readSchema (node : Kdl.Node) : Except Fault SchemaSource := do
  let name ← orFault .unnamedSchema node.firstString?
  let children ← orFault (.emptySchema name) node.children
  let path ← children.foldlM addSchemaField none
  return ⟨name, ← orFault (.noPath name) path⟩

/-! ### The whole file -/

/-- What the nodes so far say. -/
structure Draft where
  output : Option Output := none
  targets : List Framework := []
  models : Option String := none
  schemas : List SchemaSource := []
deriving Repr, Inhabited

def defaultModels : String := "models.ts"

def readTarget (node : Kdl.Node) : Except Fault Framework := do
  let name ← firstString "target" node
  orFault (.unsupportedFramework name) (Framework.ofName? name)

/-- A target counts once. -/
def addTarget (targets : List Framework) (target : Framework) : List Framework :=
  if target ∈ targets then targets else targets ++ [target]

def addSchema (schemas : List SchemaSource) (schema : SchemaSource) :
    Except Fault (List SchemaSource) :=
  if schemas.any fun s => s.name = schema.name then .error (.repeatedSchema schema.name)
  else .ok (schemas ++ [schema])

def addNode (draft : Draft) (node : Kdl.Node) : Except Fault Draft :=
  match node.name with
  | "output" =>
    if draft.output.isSome then .error .severalOutputs
    else return { draft with output := some (← readOutput node) }
  | "target" => return { draft with targets := addTarget draft.targets (← readTarget node) }
  | "models" => return { draft with models := some (node.firstString?.getD defaultModels) }
  | "schema" => return { draft with schemas := ← addSchema draft.schemas (← readSchema node) }
  | other => .error (.unknownNode other)

def finish (draft : Draft) : Except Fault BuildFile := do
  let output ← orFault .noOutput draft.output
  if draft.targets.isEmpty && draft.models.isNone then .error .nothingToGenerate
  return { directory := output.directory, indent := output.indent, targets := draft.targets,
           models := draft.models, schemas := draft.schemas }

def ofNodes (nodes : List Kdl.Node) : Except Fault BuildFile := do
  finish (← nodes.foldlM addNode {})

/-- What the text of a build file says; none if it is no KDL. -/
def ofText? (text : String) : Option (Except Fault BuildFile) := (Kdl.parse? text).map ofNodes

/-! ### Paths and texts -/

/-- The file with its paths seen from the given folder. -/
def relativeTo (base : String) (file : BuildFile) : BuildFile :=
  { file with
    directory := Path.join base file.directory
    schemas := file.schemas.map fun s => { s with path := Path.join base s.path } }

def width (file : BuildFile) : Nat := file.indent.getD TypeExpr.defaultWidth

def options (file : BuildFile) : Options := { width := file.width }

def targetPath (file : BuildFile) (target : Framework) : String :=
  Path.join file.directory (target.name ++ ".ts")

def modelsPath? (file : BuildFile) : Option String := file.models.map (Path.join file.directory)

/-- The results that are no errors, by name. -/
def successes (results : List (String × Except GenerateError String)) : List (String × String) :=
  results.filterMap fun (name, result) => result.toOption.map fun text => (name, text)

/-- The app types for a target, of all sources that can be generated. -/
def appModules (file : BuildFile) (sources : List (String × String)) (target : Framework) :
    List (String × String) :=
  successes (generateBatch file.options target sources)

/-- The aliases of all sources that can be generated, each in a namespace. -/
def namespaces (file : BuildFile) (sources : List (String × String)) : List (String × String) :=
  successes (sources.map fun (name, text) => (name, generateNamespace file.options name text))

/-- The module for a target. -/
def targetText (file : BuildFile) (sources : List (String × String)) (target : Framework) :
    String :=
  combineModules ((file.appModules sources target).map Prod.snd)

def modelsText (file : BuildFile) (sources : List (String × String)) : String :=
  Text.join "\n" ((file.namespaces sources).map Prod.snd)

/-- What to write, in order. -/
def outputs (file : BuildFile) (sources : List (String × String)) : List (String × String) :=
  (file.targets.map fun target => (file.targetPath target, file.targetText sources target)) ++
    (file.modelsPath?.map fun path => (path, file.modelsText sources)).toList

/-- The names of the sources that gave something for any of the outputs. -/
def succeeded (file : BuildFile) (sources : List (String × String)) : List String :=
  (file.targets.flatMap fun target => (file.appModules sources target).map Prod.fst) ++
    (if file.models.isSome then (file.namespaces sources).map Prod.fst else [])

/-- Some source gave something, or there are no schemas at all. -/
def succeeds (file : BuildFile) (sources : List (String × String)) : Bool :=
  file.schemas.isEmpty || !(file.succeeded sources).isEmpty

end BuildFile

end ApiTypes
