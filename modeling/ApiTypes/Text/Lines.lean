import ApiTypes.Text.Alphabetic
import ApiTypes.Text.Piece

/-!
Lines of a text, and cutting a text after a number of bytes or before the white space at its end.

A line ends before a line feed, or before a carriage return and a line feed. A carriage return at
the end of the text stays.
-/

namespace ApiTypes.Text

/-- The line without a carriage return at its end. -/
def dropReturn : List Char → List Char
  | [] => []
  | ['\r'] => []
  | c :: rest => c :: dropReturn rest

/-- The lines among the pieces between line feeds: nothing follows a line feed at the end. -/
def linesOfPieces : List (List Char) → List (List Char)
  | [] => []
  | [last] => if last.isEmpty then [] else [last]
  | piece :: pieces => dropReturn piece :: linesOfPieces pieces

def lines (cs : List Char) : List (List Char) := linesOfPieces (split '\n' cs)

/-- The number of bytes of a text. -/
def bytes (cs : List Char) : Nat := cs.foldr (fun c n => c.utf8Size + n) 0

/-- What follows the first bytes, unless they end within a character or beyond the text. -/
def dropBytes? : Nat → List Char → Option (List Char)
  | 0, cs => some cs
  | _ + 1, [] => none
  | n + 1, c :: cs => if c.utf8Size ≤ n + 1 then dropBytes? (n + 1 - c.utf8Size) cs else none

/-- The text without the white space at its end. -/
def trimEnd (cs : List Char) : List Char := (cs.reverse.dropWhile isBlank).reverse

end ApiTypes.Text
