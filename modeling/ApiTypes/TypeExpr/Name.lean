import ApiTypes.Text.Alphabetic

/-!
Names of types and members.

An identifier starts with a letter, an underscore or a dollar sign and goes on with those and
digits. Any text becomes a type name: what is no letter or digit turns into an underscore, a
leading digit gets one in front, and a reserved word gets one behind.
-/

namespace ApiTypes.TypeName

def isStart (c : Char) : Bool := Text.isAlphabetic c || c == '_' || c == '$'

def isPart (c : Char) : Bool := Text.isAlphanumeric c || c == '_' || c == '$'

def isIdentifier (name : String) : Bool :=
  match name.toList with
  | [] => false
  | c :: rest => isStart c && rest.all isPart

/-- Words that cannot name a type. -/
def reserved : List String :=
  ["any", "bigint", "boolean", "break", "case", "catch", "class", "const", "continue",
   "debugger", "default", "delete", "do", "else", "enum", "export", "extends", "false",
   "finally", "for", "function", "if", "import", "in", "instanceof", "never", "new", "null",
   "number", "object", "return", "string", "super", "switch", "symbol", "this", "throw",
   "true", "try", "typeof", "undefined", "unknown", "var", "void", "while", "with"]

def replaceBad (c : Char) : Char := if isPart c then c else '_'

/-- Keeps a digit of the ASCII range off the front. -/
def guardDigit : List Char → List Char
  | [] => []
  | c :: rest => if c.isDigit then '_' :: c :: rest else c :: rest

def guardReserved (name : String) : String := if name ∈ reserved then name.push '_' else name

def sanitize (name : String) : String :=
  if name.toList.isEmpty then "_"
  else guardReserved (String.ofList (guardDigit (name.toList.map replaceBad)))

end ApiTypes.TypeName
