import ApiTypes.Text.Lines

/-!
Joining modules into one.

The header of a module is its first lines that are empty or import something. Each distinct import
is kept once, in order of first appearance. The rest of a module is found by counting the bytes of
its header, one for the end of each line.
-/

namespace ApiTypes

namespace Combine

def importWord : List Char := "import ".toList

def isHeaderLine (line : List Char) : Bool := line.isEmpty || importWord.isPrefixOf line

def header (cs : List Char) : List (List Char) := (Text.lines cs).takeWhile isHeaderLine

def imports (cs : List Char) : List (List Char) := (header cs).filter fun line => !line.isEmpty

def headerBytes (cs : List Char) : Nat :=
  (header cs).foldr (fun line n => Text.bytes line + 1 + n) 0

/-- What follows the header, without the white space at its end. -/
def body (cs : List Char) : List Char :=
  Text.trimEnd ((Text.dropBytes? (headerBytes cs) cs).getD [])

/-- The lines in order of first appearance. -/
def distinct (lines : List (List Char)) : List (List Char) :=
  lines.foldl (fun kept line => if line ∈ kept then kept else kept ++ [line]) []

/-- The import lines, and then the bodies with a blank line between any two parts. -/
def layout (imports bodies : List (List Char)) : String :=
  String.join (imports.map fun line => String.ofList line ++ "\n") ++
    (if imports.isEmpty || bodies.isEmpty then "" else "\n") ++
    Text.join "\n\n" (bodies.map String.ofList) ++ (if bodies.isEmpty then "" else "\n")

end Combine

/-- One module with the imports of all on top. -/
def combineModules (modules : List String) : String :=
  let texts := modules.map String.toList
  Combine.layout (Combine.distinct (texts.flatMap Combine.imports))
    ((texts.map Combine.body).filter fun text => !text.isEmpty)

end ApiTypes
