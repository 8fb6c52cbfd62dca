import ApiTypes.Text.Piece

/-!
Paths as text, with a slash between their parts.

Empty parts and dots count for nothing, except for a slash or a dot in front.
-/

namespace ApiTypes.Path

def isAbsolute (path : String) : Bool := path.toList.head? = some '/'

/-- The second path as seen from the first. -/
def join (base path : String) : String :=
  if isAbsolute path || base.isEmpty then path
  else if base.toList.getLast? = some '/' then base ++ path
  else base ++ "/" ++ path

def parts (path : String) : List String := (Text.split '/' path.toList).map String.ofList

def isIdle (part : String) : Bool := part = "" || part = "."

/-- The parts, the first one apart, without those at the end that count for nothing. -/
def trimIdle : List String → List String
  | [] => []
  | part :: rest => part :: (rest.reverse.dropWhile isIdle).reverse

/-- The last part, if it names something. -/
def lastName? (path : String) : Option String :=
  (trimIdle (parts path)).getLast?.filter fun part => !(isIdle part || part = "..")

/-- The path up to its last part; empty if there is no other part. -/
def parent (path : String) : String :=
  match trimIdle (trimIdle (parts path)).dropLast with
  | [""] => "/"
  | kept => Text.join "/" kept

/-- A name up to its last point, unless that stands in front. -/
def stem (name : String) : String :=
  match (name.toList.reverse.dropWhile (· ≠ '.')).drop 1 with
  | [] => name
  | kept => String.ofList kept.reverse

end ApiTypes.Path
