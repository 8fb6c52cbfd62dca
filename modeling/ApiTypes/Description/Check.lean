import ApiTypes.Description.Fault
import ApiTypes.Description.Template

/-!
Checking a description.

Every path starts with a slash. The path parameters of an operation, its own and those of its path,
are required and named by placeholders, and every placeholder has one, unless a parameter is a
reference that was left in place. Response codes are well formed and operation ids are not repeated.
The first fault in the order of the description counts.
-/

namespace ApiTypes

/-- `default`, an extension, a status code, or a range such as `2XX`. -/
def isResponseCode (code : String) : Bool :=
  code = "default" || isExtension code ||
    match code.toList with
    | [a, b, c] => ('1' ≤ a && a ≤ '5') && ((b.isDigit && c.isDigit) || (b == 'X' && c == 'X'))
    | _ => false

namespace Outline

/-- The parameters of a path and then those of one of its operations. -/
def allParameters (path : Path) (op : Operation) : List (RefOr Parameter) :=
  path.parameters ++ op.parameters

/-- The path parameters that stand in the description itself. -/
def pathParameters (path : Path) (op : Operation) : List Parameter :=
  ((allParameters path op).filterMap RefOr.item?).filter fun p => p.location = "path"

def checkParameter (path : Path) (op : Operation) (p : Parameter) : Except Fault Unit :=
  if p.name ∉ Template.placeholders path.path then
    .error (.strayParameter ⟨path.path, op.method⟩ p.name)
  else if !p.required then .error (.optionalPathParameter ⟨path.path, op.method⟩ p.name)
  else .ok ()

def checkPlaceholder (path : Path) (op : Operation) (name : String) : Except Fault Unit :=
  if (allParameters path op).any RefOr.isReference then .ok ()
  else if (pathParameters path op).any fun p => p.name = name then .ok ()
  else .error (.undeclaredPlaceholder ⟨path.path, op.method⟩ name)

def checkCode (path : Path) (op : Operation) (code : String) : Except Fault Unit :=
  if isResponseCode code then .ok () else .error (.invalidCode ⟨path.path, op.method⟩ code)

/-- Runs a check on each item, up to the first that fails. -/
def checkEach {α : Type} (check : α → Except Fault Unit) : List α → Except Fault Unit
  | [] => .ok ()
  | x :: rest =>
    match check x with
    | .error e => .error e
    | .ok () => checkEach check rest

/-- Everything about an operation but its id. -/
def checkParts (path : Path) (op : Operation) : Except Fault Unit := do
  checkEach (checkParameter path op) (pathParameters path op)
  checkEach (checkPlaceholder path op) (Template.placeholders path.path)
  checkEach (checkCode path op) op.codes

/-- Checks an operation; the ids seen before go in, those seen after come out. -/
def checkOperation (path : Path) (ids : List String) (op : Operation) :
    Except Fault (List String) := do
  checkParts path op
  match op.operationId with
  | none => return ids
  | some id =>
    if id ∈ ids then throw (.repeatedOperationId ⟨path.path, op.method⟩ id) else return id :: ids

def checkOperations (path : Path) (ids : List String) :
    List Operation → Except Fault (List String)
  | [] => .ok ids
  | op :: rest =>
    match checkOperation path ids op with
    | .error e => .error e
    | .ok ids => checkOperations path ids rest

def checkPath (ids : List String) (path : Path) : Except Fault (List String) :=
  if path.path.toList.head? = some '/' then checkOperations path ids path.operations
  else .error (.noLeadingSlash path.path)

def checkPaths (ids : List String) : List Path → Except Fault (List String)
  | [] => .ok ids
  | path :: rest =>
    match checkPath ids path with
    | .error e => .error e
    | .ok ids => checkPaths ids rest

end Outline

def Description.check (description : Description) : Except Fault Unit :=
  (Outline.checkPaths [] description.outline).map fun _ => ()

/-! ### From a JSON value -/

def versionText? : Json → Option String
  | .string text => some text
  | .number number => some number.text
  | _ => none

def Format.accepts : Format → String → Bool
  | .openApi3, version => version = "3" || version.toList.take 2 = ['3', '.']
  | .swagger2, version => version = "2.0" || version = "2"

def Format.ofVersion (format : Format) (value : Json) : Except Fault Format :=
  match versionText? value with
  | none => .error (.versionNotText format)
  | some version =>
    if format.accepts version then .ok format
    else .error (.unsupportedVersion format version)

/-- The format that a value claims to have; `openapi` counts before `swagger`. -/
def Format.detect (root : Json) : Except Fault Format :=
  match root.get? "openapi" with
  | some value => Format.ofVersion .openApi3 value
  | none =>
    match root.get? "swagger" with
    | some value => Format.ofVersion .swagger2 value
    | none => .error .noVersion

namespace Description

def read : Format → Json → Except Fault Description
  | .openApi3, root => ((OpenApi.Document.shape.read root).map .openApi).mapError .unreadable
  | .swagger2, root => ((Swagger.Document.shape.read root).map .swagger).mapError .unreadable

/-- Unfolds the references if asked to. -/
def unfold (dereference : Bool) (root : Json) : Except Fault Json :=
  if dereference then (Reference.unfold root).mapError .dangling else .ok root

/-- The description that a value holds, once its format is known, its references are unfolded and
all checks are passed. -/
def validate (dereference : Bool) (root : Json) : Except Fault Description :=
  match root with
  | .object _ => do
    let format ← Format.detect root
    let unfolded ← unfold dereference root
    let description ← read format unfolded
    description.check
    return description
  | _ => .error .rootNotObject

end Description

end ApiTypes
