/-!
Characters of YAML text, and a place in it.

Besides line feed and carriage return there are three more line breaks: next line, line separator
and paragraph separator. Within a scalar the separators stay as they are, and every other break
becomes a line feed.
-/

namespace ApiTypes.Yaml

/-- The characters a text may hold. -/
def isAccepted (c : Char) : Bool :=
  let n := c.toNat
  n == 0x9 || n == 0xA || n == 0xD || (0x20 ≤ n && n ≤ 0x7E) || n == 0x85 ||
    (0xA0 ≤ n && n ≤ 0xD7FF) || (0xE000 ≤ n && n ≤ 0xFFFD) || 0x10000 ≤ n

def isBlank (c : Char) : Bool := c == ' ' || c == '\t'

def isSeparator (c : Char) : Bool := c == '\u2028' || c == '\u2029'

def isBreak (c : Char) : Bool := c == '\n' || c == '\r' || c == '\u0085' || isSeparator c

def isWhite (c : Char) : Bool := isBlank c || isBreak c

/-- White space or the end of the text comes next. -/
def atWhite : List Char → Bool
  | [] => true
  | c :: _ => isWhite c

/-- A letter, digit, underscore or hyphen of the ASCII range. -/
def isWordChar (c : Char) : Bool := c.isAlphanum || c == '_' || c == '-'

structure Cursor where
  rest : List Char
  /-- The number of characters before. -/
  index : Nat
  line : Nat
  column : Nat
deriving Repr, Inhabited

namespace Cursor

def start (cs : List Char) : Cursor := ⟨cs, 0, 0, 0⟩

/-- Further on in the same line. -/
def skip (c : Cursor) (n : Nat) : Cursor :=
  ⟨c.rest.drop n, c.index + n, c.line, c.column + n⟩

/-- The start of the next line, behind a break of so many characters. -/
def nextLine (c : Cursor) (n : Nat) : Cursor := ⟨c.rest.drop n, c.index + n, c.line + 1, 0⟩

def next? (c : Cursor) : Option Char := c.rest.head?

def atEnd (c : Cursor) : Bool := c.rest.isEmpty

/-- The characters up to the first that fails the test, and the place behind them. -/
def span (c : Cursor) (p : Char → Bool) : List Char × Cursor :=
  let run := c.rest.takeWhile p
  (run, c.skip run.length)

def skipWhile (c : Cursor) (p : Char → Bool) : Cursor := (c.span p).2

/-- The line break at the cursor, as a scalar keeps it, and the next line. -/
def lineBreak? (c : Cursor) : Option (Char × Cursor) :=
  match c.rest with
  | '\r' :: '\n' :: _ => some ('\n', c.nextLine 2)
  | b :: _ => if isBreak b then some (if isSeparator b then b else '\n', c.nextLine 1) else none
  | [] => none

/-- Skips a comment, which lasts to the end of the line. -/
def skipComment (c : Cursor) : Cursor :=
  if c.next? = some '#' then c.skipWhile fun x => !isBreak x else c

/-- Skips blanks and a comment; nothing else may follow in the line. -/
def restOfLine? (c : Cursor) : Option Cursor :=
  let c := (c.skipWhile isBlank).skipComment
  if c.atEnd then some c else c.lineBreak?.map Prod.snd

/-- The line starts with three marks on their own. -/
def atMarker (c : Cursor) (mark : Char) : Bool :=
  c.column == 0 && c.rest.take 3 == [mark, mark, mark] && atWhite (c.rest.drop 3)

/-- The line starts or ends a document. -/
def atDocumentMarker (c : Cursor) : Bool := c.atMarker '-' || c.atMarker '.'

end Cursor

end ApiTypes.Yaml
