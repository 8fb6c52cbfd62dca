import ApiTypes.Text.Piece
import ApiTypes.Yaml.Scalar.Gap

/-!
Quoted scalars.

Between single quotes only the quote itself is written twice. Between double quotes a backslash
starts an escape; before a line break it joins the lines without a space.
-/

namespace ApiTypes.Yaml.Quoted

inductive Style where
  | single
  | double
deriving DecidableEq, Repr, Inhabited

def Style.mark : Style → Char
  | .single => '\''
  | .double => '"'

def shortEscape? (c : Char) : Option Char :=
  match c with
  | '0' => some '\x00'
  | 'a' => some '\x07'
  | 'b' => some '\x08'
  | 't' => some '\t'
  | '\t' => some '\t'
  | 'n' => some '\n'
  | 'v' => some '\x0b'
  | 'f' => some '\x0c'
  | 'r' => some '\r'
  | 'e' => some '\x1b'
  | ' ' => some ' '
  | '"' => some '"'
  | '/' => some '/'
  | '\\' => some '\\'
  | 'N' => some '\u0085'
  | '_' => some '\u00a0'
  | 'L' => some '\u2028'
  | 'P' => some '\u2029'
  | _ => none

/-- The number of digits behind an escape by code point. -/
def codeLength? (c : Char) : Option Nat :=
  match c with
  | 'x' => some 2
  | 'u' => some 4
  | 'U' => some 8
  | _ => none

def codePoint? (count : Nat) (cs : List Char) : Option Char :=
  if (cs.take count).length = count then (Text.ofDigits? 16 (cs.take count)).bind Text.char?
  else none

/-- The character that an escape stands for, and the number of characters behind the backslash. -/
def escape? : List Char → Option (Char × Nat)
  | [] => none
  | c :: rest =>
    match codeLength? c with
    | some count => (codePoint? count rest).map fun x => (x, count + 1)
    | none => (shortEscape? c).map fun x => (x, 1)

structure Word where
  text : List Char
  /-- The line ended in a backslash. -/
  joined : Bool
  cursor : Cursor
deriving Repr, Inhabited

/-- The characters up to white space, the closing quote or a joined line, added to those read. -/
def word? (style : Style) : (limit : Nat) → (read : List Char) → Cursor → Option Word
  | 0, read, c => some ⟨read.reverse, false, c⟩
  | limit + 1, read, c =>
    match c.rest with
    | [] => some ⟨read.reverse, false, c⟩
    | x :: rest =>
      if isWhite x then some ⟨read.reverse, false, c⟩
      else if style = .single ∧ x = '\'' ∧ rest.head? = some '\'' then
        word? style limit ('\'' :: read) (c.skip 2)
      else if x = style.mark then some ⟨read.reverse, false, c⟩
      else if style = .double ∧ x = '\\' then
        match (c.skip 1).lineBreak? with
        | some (_, c) => some ⟨read.reverse, true, c⟩
        | none =>
          (escape? rest).bind fun (y, count) => word? style limit (y :: read) (c.skip (count + 1))
      else word? style limit (x :: read) (c.skip 1)

/-- What stands between two words. -/
def gapText (joined : Bool) (gap : Gap) : List Char := if joined then gap.breaks else gap.text

/-- The words up to the closing quote, and the place behind it. -/
def words? (style : Style) : (limit : Nat) → Cursor → Option (List Char × Cursor)
  | 0, _ => none
  | limit + 1, c =>
    if c.atDocumentMarker || c.atEnd then none
    else
      (word? style c.rest.length [] c).bind fun word =>
        if word.cursor.next? = some style.mark then some (word.text, word.cursor.skip 1)
        else
          (Gap.scan? 0 word.cursor).bind fun (gap, c) =>
            (words? style limit c).map fun (text, c) =>
              (word.text ++ gapText word.joined gap ++ text, c)

/-- The scalar whose opening quote stands at the cursor. -/
def scan? (style : Style) (c : Cursor) : Option (List Char × Cursor) :=
  words? style c.rest.length (c.skip 1)

end ApiTypes.Yaml.Quoted
