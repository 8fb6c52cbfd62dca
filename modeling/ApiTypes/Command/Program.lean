import ApiTypes.BuildFile
import ApiTypes.Command.Arguments
import ApiTypes.Command.Plan
import ApiTypes.Text.Case

/-!
The two programs: one generates from a single description, the other from a build file.

A program is given a way to read files in some monad and says what it would do. Files are read
before anything is written.
-/

namespace ApiTypes.Command

/-- What the first program writes. -/
inductive Emit where
  | app (framework : Framework)
  | models
  | ir
deriving DecidableEq, Repr, Inhabited

namespace Emit

def ofName? : String → Option Emit
  | "hono" => some (.app .hono)
  | "elysia" => some (.app .elysia)
  | "models" => some .models
  | "ir" => some .ir
  | _ => none

def text (emit : Emit) (options : Options) (name source : String) :
    Except GenerateError String :=
  match emit with
  | .app framework => generateApp options framework name source
  | .models => generateAliases options source
  | .ir => (Model.ofText options source).map fun model => model.toJson.pretty 0 ++ "\n"

end Emit

def versionText : String := "yag-openapi 0.3.0\n"

def commonSwitches : List Switch :=
  [⟨some 'v', "verbose", .flag⟩, ⟨some 'h', "help", .help⟩, ⟨some 'V', "version", .version⟩]

/-! ### Generating from one description -/

structure GenerateArgs where
  input : String
  name : Option String
  emit : Emit
  output : Option String
  options : Options
deriving Repr, Inhabited

def generateSwitches : List Switch :=
  [⟨some 'i', "input", .value someText⟩, ⟨some 'n', "name", .value anyText⟩,
   ⟨some 't', "target", .value fun v => (Emit.ofName? v).isSome⟩,
   ⟨some 'o', "output", .value someText⟩, ⟨none, "indent", .value fun v => (width? v).isSome⟩,
   ⟨none, "no-dereference", .flag⟩, ⟨none, "override-parameters", .flag⟩] ++ commonSwitches

def generateUsage : String := "Usage: yag-openapi [OPTIONS] --input <INPUT>\n"

def GenerateArgs.ofFound (found : Found) : Except Stop GenerateArgs :=
  match found.lookup "input" with
  | none => .error .usage
  | some input =>
    .ok { input
          name := found.lookup "name"
          emit := ((found.lookup "target").bind Emit.ofName?).getD (.app .hono)
          output := found.lookup "output"
          options :=
            { dereference := !found.has "no-dereference"
              merge := if found.has "override-parameters" then .override else .concatenate
              width := ((found.lookup "indent").bind width?).getD TypeExpr.defaultWidth } }

/-- The name of the type where none is given: that of the file, or else a fixed one. -/
def defaultName (input : String) : String :=
  let name := ((Path.lastName? input).map fun name => Text.pascalCase (Path.stem name)).getD ""
  if name.isEmpty then "Api" else name

/-- The folder of a file to write, if it stands in one. -/
def folderOf (path : String) : List Action :=
  let parent := Path.parent path
  if parent.isEmpty then [] else [.makeFolder parent]

def GenerateArgs.plan (args : GenerateArgs) (source : Option String) : Plan :=
  match source with
  | none => .failure
  | some source =>
    match args.emit.text args.options (args.name.getD (defaultName args.input)) source with
    | .error _ => .failure
    | .ok text =>
      match args.output with
      | none => .printing text
      | some path => ⟨folderOf path ++ [.write path text], true⟩

/-! ### Building from a build file -/

def defaultConfig : String := "yag-openapi.kdl"

def buildSwitches : List Switch := ⟨some 'c', "config", .value someText⟩ :: commonSwitches

def buildUsage : String := "Usage: yag-openapi-build [OPTIONS]\n"

/-- What a build file makes of its sources. -/
def buildPlan (file : BuildFile) (sources : List (String × String)) : Plan where
  actions := .makeFolder file.directory ::
    (file.outputs sources).map fun (path, text) => .write path text
  succeeds := file.succeeds sources

/-- The build file at a path, with its own paths seen from there. -/
def loadBuildFile? (path text : String) : Option BuildFile :=
  match BuildFile.ofText? text with
  | some (.ok file) => some (file.relativeTo (Path.parent path))
  | _ => none

/-! ### Programs -/

section

variable {m : Type → Type} [Monad m]

/-- The sources that can be read, in order. -/
def readSources (read : String → m (Option String)) : List SchemaSource → m (List (String × String))
  | [] => pure []
  | schema :: rest => do
    let text ← read schema.path
    let others ← readSources read rest
    return (text.map (schema.name, ·)).toList ++ others

def planGenerate (read : String → m (Option String)) (args : GenerateArgs) : m Plan := do
  return args.plan (← read args.input)

def planBuild (read : String → m (Option String)) (config : String) : m Plan := do
  match (← read config).bind (loadBuildFile? config) with
  | none => return .failure
  | some file => return buildPlan file (← readSources read file.schemas)

end

inductive Program where
  | generate
  | build
deriving DecidableEq, Repr, Inhabited

namespace Program

def usage : Program → String
  | .generate => generateUsage
  | .build => buildUsage

/-- What a program would do with a command line, or why it stops. -/
def plan {m : Type → Type} [Monad m] (program : Program) (read : String → m (Option String))
    (args : List String) : Except Stop (m Plan) :=
  match program with
  | .generate => do
    return planGenerate read (← GenerateArgs.ofFound (← parse generateSwitches args))
  | .build => do
    let found ← parse buildSwitches args
    return planBuild read ((found.lookup "config").getD defaultConfig)

/-- Runs a program on files that are known in full. -/
def run (program : Program) (args : List String) (files : Files) : Outcome :=
  match @plan Id _ program files.read? args with
  | .ok plan => Plan.run plan files
  | .error .usage => ⟨usageExit, "", files⟩
  | .error .version => ⟨0, versionText, files⟩
  | .error .help => ⟨0, program.usage, files⟩

end Program

end ApiTypes.Command
