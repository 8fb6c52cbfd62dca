import ApiTypes.Text.Piece

/-!
Options on a command line.

An option is written short or long, and short ones can stand together behind one hyphen. A value
follows its option at once, behind an equals sign, or as the next argument, which then does not
start with a hyphen. No option may come twice, and there are no other arguments.
-/

namespace ApiTypes.Command

inductive Kind where
  | flag
  /-- An option with a value that passes the test. -/
  | value (accepts : String → Bool)
  | version
  | help

structure Switch where
  short : Option Char
  long : String
  kind : Kind

/-- Why there is nothing to run. -/
inductive Stop where
  | usage
  | version
  | help
deriving DecidableEq, Repr, Inhabited

/-- The options found, by their long names. A flag has an empty value. -/
abbrev Found := List (String × String)

structure State where
  found : Found
  /-- The option whose value comes next. -/
  pending : Option Switch

def record (found : Found) (name value : String) : Except Stop Found :=
  if found.any fun f => f.1 = name then .error .usage else .ok (found ++ [(name, value)])

def recordValue (found : Found) (name : String) (accepts : String → Bool) (value : String) :
    Except Stop Found :=
  if accepts value then record found name value else .error .usage

/-- A value as an argument of its own. -/
def isValue (arg : List Char) : Bool := arg.head? ≠ some '-' || arg = ['-']

/-- Behind an equals sign, if there is one. -/
def dropEquals : List Char → List Char
  | '=' :: rest => rest
  | cs => cs

/-- The options behind one hyphen. -/
def readShort (switches : List Switch) (found : Found) : List Char → Except Stop State
  | [] => .ok ⟨found, none⟩
  | c :: rest =>
    match switches.find? fun s => s.short = some c with
    | none => .error .usage
    | some s =>
      match s.kind with
      | .flag => do readShort switches (← record found s.long "") rest
      | .version => .error .version
      | .help => .error .help
      | .value accepts =>
        if rest.isEmpty then .ok ⟨found, some s⟩
        else do
          return ⟨← recordValue found s.long accepts (String.ofList (dropEquals rest)), none⟩

/-- The option behind two hyphens, with its value if it has one there. -/
def readLong (switches : List Switch) (found : Found) (cs : List Char) : Except Stop State :=
  let name := cs.takeWhile (· ≠ '=')
  let attached : Option String :=
    if name.length < cs.length then some (String.ofList (cs.drop (name.length + 1))) else none
  match switches.find? fun s => s.long = String.ofList name with
  | none => .error .usage
  | some s =>
    match s.kind, attached with
    | .value accepts, some value => do return ⟨← recordValue found s.long accepts value, none⟩
    | .value _, none => .ok ⟨found, some s⟩
    | _, some _ => .error .usage
    | .flag, none => do return ⟨← record found s.long "", none⟩
    | .version, none => .error .version
    | .help, none => .error .help

def readArgument (switches : List Switch) (found : Found) (arg : List Char) : Except Stop State :=
  match arg with
  | '-' :: '-' :: cs => readLong switches found cs
  | '-' :: c :: cs => readShort switches found (c :: cs)
  | _ => .error .usage

def readArguments (switches : List Switch) (state : State) : List String → Except Stop Found
  | [] => if state.pending.isSome then .error .usage else .ok state.found
  | arg :: rest =>
    match state.pending with
    | some s =>
      match s.kind with
      | .value accepts =>
        if isValue arg.toList then do
          readArguments switches ⟨← recordValue state.found s.long accepts arg, none⟩ rest
        else .error .usage
      | _ => .error .usage
    | none =>
      if arg = "--" then (if rest.isEmpty then .ok state.found else .error .usage)
      else do readArguments switches (← readArgument switches state.found arg.toList) rest

/-- The options of a command line. -/
def parse (switches : List Switch) (args : List String) : Except Stop Found :=
  readArguments switches ⟨[], none⟩ args

def Found.has (found : Found) (name : String) : Bool := (found.lookup name).isSome

/-! ### Values -/

def anyText (_ : String) : Bool := true

def someText (value : String) : Bool := !value.isEmpty

/-- A number of 64 bits, perhaps with a plus sign. -/
def width? (value : String) : Option Nat :=
  let digits := match value.toList with
    | '+' :: digits => digits
    | digits => digits
  (Text.ofDigits? 10 digits).filter fun n => n < Nat.pow 2 64

end ApiTypes.Command
