import ApiTypes.Files.Basic

/-!
What a command does: a list of actions, performed in order until one fails.
-/

namespace ApiTypes.Command

inductive Action where
  | makeFolder (path : String)
  | write (path text : String)
  | print (text : String)
deriving DecidableEq, Repr, Inhabited

structure Plan where
  actions : List Action
  /-- The command ends well if all actions do. -/
  succeeds : Bool := true
deriving DecidableEq, Repr, Inhabited

namespace Plan

/-- Nothing is done, and that is a failure. -/
def failure : Plan := ⟨[], false⟩

def printing (text : String) : Plan := ⟨[.print text], true⟩

end Plan

/-- What a command leaves behind. -/
structure Outcome where
  exit : Nat
  output : String
  files : Files
deriving Repr, Inhabited

/-- Performs actions on files, with the text printed so far. -/
def perform (files : Files) (output : String) : List Action → Files × String × Bool
  | [] => (files, output, true)
  | .print text :: rest => perform files (output ++ text) rest
  | .makeFolder path :: rest =>
    match files.makeFolder? path with
    | some files => perform files output rest
    | none => (files, output, false)
  | .write path text :: rest =>
    match files.write? path text with
    | some files => perform files output rest
    | none => (files, output, false)

/-- The exit code is 0 if all went well, and 1 if not. -/
def Plan.run (plan : Plan) (files : Files) : Outcome :=
  let (files, output, done) := perform files "" plan.actions
  ⟨if done && plan.succeeds then 0 else 1, output, files⟩

/-- The exit code of a command line that cannot be understood. -/
def usageExit : Nat := 2

end ApiTypes.Command
