import ApiTypes.Command.Program

/-!
The command line. The word `build` in front selects the program that works from a build file.
-/

namespace ApiTypes.Command

/-- The text of a file, if it can be read. -/
def readFile? (path : String) : IO (Option String) := do
  try
    return some (← IO.FS.readFile path)
  catch _ => return none

def performAction : Action → IO Unit
  | .makeFolder path => if path.isEmpty then pure () else IO.FS.createDirAll path
  | .write path text => IO.FS.writeFile path text
  | .print text => IO.print text

def performPlan (plan : Plan) : IO UInt32 := do
  try
    plan.actions.forM performAction
    return if plan.succeeds then 0 else 1
  catch e =>
    IO.eprintln e.toString
    return 1

def runProgram (program : Program) (args : List String) : IO UInt32 := do
  match program.plan readFile? args with
  | .ok plan => performPlan (← plan)
  | .error .usage =>
    IO.eprint program.usage
    return usageExit.toUInt32
  | .error .version =>
    IO.print versionText
    return 0
  | .error .help =>
    IO.print program.usage
    return 0

end ApiTypes.Command

open ApiTypes.Command in
def main : List String → IO UInt32
  | "build" :: args => runProgram .build args
  | args => runProgram .generate args
