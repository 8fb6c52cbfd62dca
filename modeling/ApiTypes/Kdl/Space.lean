/-!
Characters of KDL text, and what stands between its parts.

Within a node there are spaces, comments that are closed, and line breaks behind a backslash.
Between nodes there are line breaks and comments to the end of the line as well.
-/

namespace ApiTypes.Kdl

def isSpace (c : Char) : Bool :=
  let n := c.toNat
  n == 0x9 || n == 0x20 || n == 0xA0 || n == 0x1680 || (0x2000 ≤ n && n ≤ 0x200A) || n == 0x202F ||
    n == 0x205F || n == 0x3000

def isNewline (c : Char) : Bool :=
  let n := c.toNat
  (0xA ≤ n && n ≤ 0xD) || n == 0x85 || n == 0x2028 || n == 0x2029

/-- Control characters, marks of direction and the byte order mark. -/
def isForbidden (c : Char) : Bool :=
  let n := c.toNat
  n ≤ 0x8 || (0xE ≤ n && n ≤ 0x1F) || n == 0x7F || (0x200E ≤ n && n ≤ 0x200F) ||
    (0x202A ≤ n && n ≤ 0x202E) || (0x2066 ≤ n && n ≤ 0x2069) || n == 0xFEFF

def isPunctuation (c : Char) : Bool :=
  c ∈ ['\\', '/', '(', ')', '\x7b', '\x7d', ';', '[', ']', '"', '#', '=']

def isIdentifierChar (c : Char) : Bool :=
  !(isSpace c || isNewline c || isForbidden c || isPunctuation c)

/-- What follows the line break at the front. A carriage return and a line feed are one break. -/
def newline? : List Char → Option (List Char)
  | '\r' :: '\n' :: rest => some rest
  | c :: rest => if isNewline c then some rest else none
  | [] => none

/-- What follows a comment that is open so many times. -/
def closeComment? : (depth : Nat) → List Char → Option (List Char)
  | _, [] => none
  | depth, '/' :: '*' :: rest => closeComment? (depth + 1) rest
  | 0, '*' :: '/' :: rest => some rest
  | depth + 1, '*' :: '/' :: rest => closeComment? depth rest
  | depth, _ :: rest => closeComment? depth rest

/-- Skips a comment to the end of the line, and the line break. -/
def skipLine (cs : List Char) : List Char :=
  let rest := cs.dropWhile fun c => !isNewline c
  (newline? rest).getD rest

/-- Skips spaces and closed comments. A comment that stays open is a fault. -/
def skipBlanks? : (limit : Nat) → List Char → Option (List Char)
  | 0, cs => some cs
  | limit + 1, cs =>
    match cs with
    | '/' :: '*' :: rest => (closeComment? 0 rest).bind (skipBlanks? limit)
    | c :: rest => if isSpace c then skipBlanks? limit rest else some cs
    | [] => some []

/-- What follows a backslash at the end of a line. -/
def continueLine? (cs : List Char) : Option (List Char) :=
  (skipBlanks? cs.length cs).bind fun rest =>
    match rest with
    | [] => some []
    | '/' :: '/' :: rest => some (skipLine rest)
    | rest => newline? rest

/-- Skips what may stand between the parts of a node. -/
def skipNodeSpace? : (limit : Nat) → List Char → Option (List Char)
  | 0, cs => some cs
  | limit + 1, cs =>
    (skipBlanks? cs.length cs).bind fun rest =>
      match rest with
      | '\\' :: rest => (continueLine? rest).bind (skipNodeSpace? limit)
      | rest => some rest

def nodeSpace? (cs : List Char) : Option (List Char) := skipNodeSpace? cs.length cs

/-- Skips what may stand between nodes. -/
def skipLineSpace? : (limit : Nat) → List Char → Option (List Char)
  | 0, cs => some cs
  | limit + 1, cs =>
    (nodeSpace? cs).bind fun rest =>
      match rest with
      | '/' :: '/' :: rest => skipLineSpace? limit (skipLine rest)
      | rest =>
        match newline? rest with
        | some rest => skipLineSpace? limit rest
        | none => some rest

def lineSpace? (cs : List Char) : Option (List Char) := skipLineSpace? cs.length cs

end ApiTypes.Kdl
