import ApiTypes.Kdl.Space
import ApiTypes.Text.Piece

/-!
Strings of KDL text: bare identifiers, quoted strings and raw strings.

A string between three quotes holds lines. White space before the closing quotes is taken off the
front of each line, and a line of nothing but white space is empty.
-/

namespace ApiTypes.Kdl

abbrev Step (α : Type) := Option (α × List Char)

/-! ### Identifiers -/

def keywords : List String := ["true", "false", "null", "inf", "-inf", "nan"]

def dropSign : List Char → List Char
  | c :: rest => if c = '+' ∨ c = '-' then rest else c :: rest
  | [] => []

def dropPoint : List Char → List Char
  | c :: rest => if c = '.' then rest else c :: rest
  | [] => []

def startsWithDigit (cs : List Char) : Bool := cs.head?.any Text.isDigit

/-- A number has a digit behind its sign. -/
def looksNumeric (word : List Char) : Bool := startsWithDigit (dropSign word)

/-- A word that is no keyword and could not be taken for a number, not even one that starts with
a point. -/
def identifier? (cs : List Char) : Step String :=
  let word := cs.takeWhile isIdentifierChar
  let numeric := startsWithDigit (dropPoint (dropSign word))
  if word.isEmpty || numeric || String.ofList word ∈ keywords then none
  else some (String.ofList word, cs.drop word.length)

/-! ### Escapes -/

def escape? (c : Char) : Option Char :=
  match c with
  | '"' => some '"'
  | '\\' => some '\\'
  | 'b' => some '\x08'
  | 'f' => some '\x0c'
  | 'n' => some '\n'
  | 'r' => some '\r'
  | 't' => some '\t'
  | 's' => some ' '
  | _ => none

/-- A code point of one to six digits in braces. -/
def codePoint? : List Char → Step Char
  | '\x7b' :: cs =>
    let digits := cs.takeWhile (· ≠ '\x7d')
    if digits.length ≤ 6 ∧ digits.length < cs.length then
      ((Text.ofDigits? 16 digits).bind Text.char?).map fun c => (c, cs.drop (digits.length + 1))
    else none
  | _ => none

/-- The text with its escapes resolved. A backslash before white space takes all of it away. -/
def unescape? : (limit : Nat) → List Char → Option (List Char)
  | _, [] => some []
  | 0, _ => none
  | limit + 1, '\\' :: rest =>
    match rest with
    | 'u' :: more =>
      (codePoint? more).bind fun (c, rest) => (unescape? limit rest).map (c :: ·)
    | c :: more =>
      if isSpace c || isNewline c then
        unescape? limit (more.dropWhile fun c => isSpace c || isNewline c)
      else (escape? c).bind fun x => (unescape? limit more).map (x :: ·)
    | [] => none
  | limit + 1, c :: rest => (unescape? limit rest).map (c :: ·)

/-- Takes away white space behind a backslash and leaves other escapes as they are. -/
def joinEscaped : (limit : Nat) → List Char → List Char
  | limit + 1, '\\' :: c :: rest =>
    if isSpace c || isNewline c then
      joinEscaped limit (rest.dropWhile fun c => isSpace c || isNewline c)
    else '\\' :: c :: joinEscaped limit rest
  | limit + 1, c :: rest => c :: joinEscaped limit rest
  | _, cs => cs

/-! ### Lines between three quotes -/

def lines : List Char → List (List Char)
  | [] => [[]]
  | '\r' :: '\n' :: rest => [] :: lines rest
  | c :: rest =>
    if isNewline c then [] :: lines rest
    else
      match lines rest with
      | [] => [[c]]
      | line :: more => (c :: line) :: more

def dedentLine? (margin line : List Char) : Option (List Char) :=
  if line.all isSpace then some []
  else if margin.isPrefixOf line then some (line.drop margin.length)
  else none

/-- The lines without the margin, which the last line gives. -/
def dedent? (body : List Char) : Option (List Char) :=
  let all := lines body
  let margin := all.getLastD []
  if margin.all isSpace then
    (all.dropLast.mapM (dedentLine? margin)).map fun kept => List.intercalate ['\n'] kept
  else none

/-! ### Quoted and raw strings -/

/-- The text up to the closing mark, which a backslash can hide. -/
def upTo? (escapes : Bool) (mark : List Char) : (limit : Nat) → List Char → Step (List Char)
  | 0, _ => none
  | limit + 1, cs =>
    if mark.isPrefixOf cs then some ([], cs.drop mark.length)
    else
      match cs with
      | [] => none
      | c :: rest =>
        if escapes && c == '\\' then
          match rest with
          | [] => none
          | x :: rest => (upTo? escapes mark limit rest).map fun (body, r) => (c :: x :: body, r)
        else if isForbidden c then none
        else (upTo? escapes mark limit rest).map fun (body, r) => (c :: body, r)

def body? (escapes : Bool) (mark : List Char) (cs : List Char) : Step (List Char) :=
  upTo? escapes mark (cs.length + 1) cs

/-- A line break may stand in a string of one line only behind a backslash. -/
def isOneLine (escapes : Bool) (body : List Char) : Bool :=
  !(if escapes then joinEscaped body.length body else body).any isNewline

def threeQuotes : List Char := ['"', '"', '"']

/-- A string from its opening quote on, with so many number signs behind the closing one. -/
def quoted? (escapes : Bool) (signs : List Char) (cs : List Char) : Step String :=
  if threeQuotes.isPrefixOf cs then
    (newline? (cs.drop 3)).bind fun cs =>
      (body? escapes (threeQuotes ++ signs) cs).bind fun (body, rest) =>
        if escapes then
          (dedent? (joinEscaped body.length body)).bind fun text =>
            (unescape? text.length text).map fun text => (String.ofList text, rest)
        else (dedent? body).map fun text => (String.ofList text, rest)
  else
    (body? escapes ('"' :: signs) (cs.drop 1)).bind fun (body, rest) =>
      if !isOneLine escapes body then none
      else if escapes then
        (unescape? body.length body).map fun text => (String.ofList text, rest)
      else some (String.ofList body, rest)

/-- A string in any form. -/
def string? (cs : List Char) : Step String :=
  match cs with
  | '"' :: _ => quoted? true [] cs
  | '#' :: _ =>
    let signs := cs.takeWhile (· = '#')
    match cs.drop signs.length with
    | '"' :: rest => quoted? false signs ('"' :: rest)
    | _ => none
  | cs => identifier? cs

end ApiTypes.Kdl
