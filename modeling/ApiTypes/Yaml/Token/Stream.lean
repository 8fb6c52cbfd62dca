import ApiTypes.Yaml.Scalar.Block
import ApiTypes.Yaml.Scalar.Plain
import ApiTypes.Yaml.Scalar.Quoted
import ApiTypes.Yaml.Token.Basic

/-!
From text to tokens.

A key of one line is known only by the colon behind it, so the place of a possible key is kept,
and its token is put in there later. There is one such place for each depth of brackets. It is
given up when the line ends or the key gets too long; a key that has to be one by its column is
then a fault.
-/

namespace ApiTypes.Yaml

structure PossibleKey where
  /-- It stands where only a key can stand. -/
  required : Bool
  /-- The number of tokens before it. -/
  position : Nat
  index : Nat
  line : Nat
  column : Nat
deriving Repr, Inhabited

structure Scanner where
  cursor : Cursor
  /-- The tokens so far, the last one first. -/
  tokens : List Token
  count : Nat
  /-- The columns of the open blocks, the innermost first. -/
  columns : List Nat
  /-- The place of a possible key at this depth of brackets. -/
  possible : Option PossibleKey
  /-- The places at the depths outside. -/
  outer : List (Option PossibleKey)
  /-- A key may start here. -/
  keyAllowed : Bool
deriving Repr, Inhabited

namespace Scanner

def start (cs : List Char) : Scanner := ⟨.start cs, [], 0, [], none, [], true⟩

/-- The cursor is within brackets. -/
def inFlow (s : Scanner) : Bool := !s.outer.isEmpty

def push (s : Scanner) (token : Token) : Scanner :=
  { s with tokens := token :: s.tokens, count := s.count + 1 }

/-- Puts a token behind the first ones. -/
def insert (s : Scanner) (position : Nat) (token : Token) : Scanner :=
  let later := s.count - position
  { s with tokens := s.tokens.take later ++ token :: s.tokens.drop later, count := s.count + 1 }

def moveTo (s : Scanner) (cursor : Cursor) : Scanner := { s with cursor }

def skip (s : Scanner) (n : Nat) : Scanner := s.moveTo (s.cursor.skip n)

def allowKey (s : Scanner) (keyAllowed : Bool) : Scanner := { s with keyAllowed }

/-! ### Possible keys -/

/-- The longest key that is known by the colon behind it. -/
def maxKeyLength : Nat := 1024

def isStale (c : Cursor) (key : PossibleKey) : Bool :=
  key.line < c.line || key.index + maxKeyLength < c.index

/-- Gives a place up if the cursor has left it behind. -/
def refresh? (c : Cursor) : Option PossibleKey → Option (Option PossibleKey)
  | none => some none
  | some key =>
    if isStale c key then (if key.required then none else some none) else some (some key)

def dropStale? (s : Scanner) : Option Scanner :=
  (refresh? s.cursor s.possible).bind fun possible =>
    (s.outer.mapM (refresh? s.cursor)).map fun outer => { s with possible, outer }

def dropKey? (s : Scanner) : Option Scanner :=
  if s.possible.any fun key => key.required then none else some { s with possible := none }

/-- The place of the cursor. A key has to start there if its column is that of the block. -/
def hereKey (s : Scanner) : PossibleKey where
  required := !s.inFlow && s.columns.head? == some s.cursor.column
  position := s.count
  index := s.cursor.index
  line := s.cursor.line
  column := s.cursor.column

/-- Keeps this place if a key may start here. -/
def keepKey? (s : Scanner) : Option Scanner :=
  if s.keyAllowed then s.dropKey?.map fun s => { s with possible := some s.hereKey } else some s

/-! ### Blocks -/

/-- Opens a block at a column deeper than the one around. -/
def openBlock (s : Scanner) (column position : Nat) (token : Token) : Scanner :=
  if s.inFlow || s.columns.head?.any fun around => decide (column ≤ around) then s
  else { s.insert position token with columns := column :: s.columns }

/-- Closes the blocks whose columns are not less. -/
def closeBlocks (s : Scanner) (column : Nat) : Scanner :=
  if s.inFlow then s
  else
    let closed := s.columns.takeWhile fun around => decide (column ≤ around)
    closed.foldl (fun s _ => s.push .blockEnd)
      { s with columns := s.columns.drop closed.length }

/-! ### White space -/

def byteOrderMark : Char := '\ufeff'

/-- A mark at the very start takes up a column. -/
def skipMark (s : Scanner) : Scanner :=
  if s.cursor.index = 0 ∧ s.cursor.next? = some byteOrderMark then s.skip 1 else s

/-- Skips white space and comments. Where a key may start outside brackets a tab is no blank. -/
def skipWhite : (limit : Nat) → Scanner → Scanner
  | 0, s => s
  | limit + 1, s =>
    let tabs := s.inFlow || !s.keyAllowed
    let c := (s.cursor.skipWhile fun x => x == ' ' || (tabs && x == '\t')).skipComment
    match c.lineBreak? with
    | none => s.moveTo c
    | some (_, c) => skipWhite limit ((s.moveTo c).allowKey (s.keyAllowed || !s.inFlow))

/-! ### Tokens -/

def readEnd? (s : Scanner) : Option Scanner :=
  (s.closeBlocks 0).dropKey?.map fun s => (s.allowKey false).push .textEnd

def readDocumentMarker? (s : Scanner) (token : Token) : Option Scanner :=
  (s.closeBlocks 0).dropKey?.map fun s => ((s.allowKey false).skip 3).push token

def readOpen? (s : Scanner) (token : Token) : Option Scanner :=
  s.keepKey?.map fun s =>
    (({ s with outer := s.possible :: s.outer, possible := none }.allowKey true).skip 1).push token

/-- Back to the depth outside, if there is one. -/
def leaveFlow (s : Scanner) : Scanner :=
  match s.outer with
  | [] => s
  | possible :: outer => { s with possible, outer }

def readClose? (s : Scanner) (token : Token) : Option Scanner :=
  s.dropKey?.map fun s => ((s.leaveFlow.allowKey false).skip 1).push token

def readComma? (s : Scanner) : Option Scanner :=
  s.dropKey?.map fun s => ((s.allowKey true).skip 1).push .comma

/-- Outside brackets the mark opens a block, which only a place for a key may do. -/
def startBlock? (s : Scanner) (block : Token) : Option Scanner :=
  if s.inFlow then some s
  else if s.keyAllowed then some (s.openBlock s.cursor.column s.count block)
  else none

def readItem? (s : Scanner) : Option Scanner :=
  (s.startBlock? .sequenceBlock).bind fun s =>
    s.dropKey?.map fun s => ((s.allowKey true).skip 1).push .item

def readKey? (s : Scanner) : Option Scanner :=
  (s.startBlock? .mappingBlock).bind fun s =>
    s.dropKey?.map fun s => ((s.allowKey !s.inFlow).skip 1).push .key

def readValue? (s : Scanner) : Option Scanner :=
  match s.possible with
  | some key =>
    let s := (s.insert key.position .key).openBlock key.column key.position .mappingBlock
    some ((({ s with possible := none }.allowKey false).skip 1).push .value)
  | none =>
    (s.startBlock? .mappingBlock).map fun s => ((s.allowKey !s.inFlow).skip 1).push .value

/-- What may follow the name of an anchor or alias. -/
def endsName (c : Cursor) : Bool :=
  atWhite c.rest || c.next?.any fun x => x ∈ ['?', ':', ',', ']', '\x7d', '%', '@', '\x60']

def readName? (s : Scanner) (token : String → Token) : Option Scanner :=
  s.keepKey?.bind fun s =>
    let (name, c) := (s.cursor.skip 1).span isWordChar
    if name.isEmpty || !endsName c then none
    else some (((s.allowKey false).moveTo c).push (token (String.ofList name)))

def readTag? (s : Scanner) : Option Scanner :=
  s.keepKey?.bind fun s =>
    (Tag.written? s.inFlow s.cursor).map fun (written, c) =>
      ((s.allowKey false).moveTo c).push (.tag written)

def readBlockScalar? (s : Scanner) (folded : Bool) : Option Scanner :=
  s.dropKey?.bind fun s =>
    (Block.scan? folded s.columns s.cursor).map fun (text, c) =>
      ((s.allowKey true).moveTo c).push (.scalar false (String.ofList text))

def readQuoted? (s : Scanner) (style : Quoted.Style) : Option Scanner :=
  s.keepKey?.bind fun s =>
    (Quoted.scan? style s.cursor).map fun (text, c) =>
      ((s.allowKey false).moveTo c).push (.scalar false (String.ofList text))

/-- Lines that continue the scalar are indented deeper than the block around. -/
def readPlain? (s : Scanner) : Option Scanner :=
  s.keepKey?.bind fun s =>
    let indent := match s.columns with
      | [] => 0
      | column :: _ => column + 1
    (Plain.scan? s.inFlow indent s.cursor).map fun p =>
      ((s.allowKey p.gap.hasBreak).moveTo p.cursor).push (.scalar true (String.ofList p.text))

/-! ### Directives -/

/-- A number of at most nine digits. -/
def number? (c : Cursor) : Option (Nat × Cursor) :=
  let (digits, c) := c.span Text.isDigit
  if digits.length ≤ 9 then (Text.ofDigits? 10 digits).map fun n => (n, c) else none

/-- The version is 1.1 or 1.2. -/
def version? (c : Cursor) : Option (Token × Cursor) :=
  (number? (c.skipWhile isBlank)).bind fun (major, c) =>
    if c.next? = some '.' then
      (number? (c.skip 1)).bind fun (minor, c) =>
        if major = 1 ∧ (minor = 1 ∨ minor = 2) then some (.version, c) else none
    else none

def handle? (c : Cursor) : Option (Token × Cursor) :=
  (Tag.handle? (c.skipWhile isBlank)).bind fun (handle, c) =>
    if c.next?.any isBlank then
      (Tag.someSuffix? true (c.skipWhile isBlank)).bind fun (start, c) =>
        if atWhite c.rest then some (.handle handle start, c) else none
    else none

def directive? (c : Cursor) : Option (Token × Cursor) :=
  let (name, c) := c.span isWordChar
  if atWhite c.rest then
    (if name = ['Y', 'A', 'M', 'L'] then version? c
     else if name = ['T', 'A', 'G'] then handle? c
     else none).bind fun (token, c) => c.restOfLine?.map fun c => (token, c)
  else none

def readDirective? (s : Scanner) : Option Scanner :=
  (s.closeBlocks 0).dropKey?.bind fun s =>
    (directive? (s.cursor.skip 1)).map fun (token, c) =>
      ((s.allowKey false).moveTo c).push token

/-! ### All tokens -/

/-- Characters with a meaning of their own, which start no plain scalar. -/
def isIndicator (c : Char) : Bool :=
  c ∈ ['-', '?', ':', ',', '[', ']', '\x7b', '\x7d', '#', '&', '*', '!', '|', '>', '\'', '"',
    '%', '@', '\x60']

/-- An indicator may still start a plain scalar by what follows it. -/
def startsPlain (flow : Bool) (c : Char) (rest : List Char) : Bool :=
  !(isWhite c || isIndicator c) || (c == '-' && !rest.head?.any isBlank) ||
    (!flow && (c == '?' || c == ':') && !atWhite rest)

def readToken? (s : Scanner) : Option Scanner :=
  match s.cursor.rest with
  | [] => s.readEnd?
  | c :: rest =>
    if s.cursor.column = 0 ∧ c = '%' then s.readDirective?
    else if s.cursor.atMarker '-' then s.readDocumentMarker? .documentStart
    else if s.cursor.atMarker '.' then s.readDocumentMarker? .documentEnd
    else if c = '[' then s.readOpen? .sequenceOpen
    else if c = '\x7b' then s.readOpen? .mappingOpen
    else if c = ']' then s.readClose? .sequenceClose
    else if c = '\x7d' then s.readClose? .mappingClose
    else if c = ',' then s.readComma?
    else if c = '-' ∧ atWhite rest then s.readItem?
    else if c = '?' ∧ (s.inFlow ∨ atWhite rest) then s.readKey?
    else if c = ':' ∧ (s.inFlow ∨ atWhite rest) then s.readValue?
    else if c = '*' then s.readName? .alias
    else if c = '&' then s.readName? .anchor
    else if c = '!' then s.readTag?
    else if c = '|' ∧ ¬ s.inFlow then s.readBlockScalar? false
    else if c = '>' ∧ ¬ s.inFlow then s.readBlockScalar? true
    else if c = '\'' then s.readQuoted? .single
    else if c = '"' then s.readQuoted? .double
    else if startsPlain s.inFlow c rest then s.readPlain?
    else none

/-- Skips to the next token, closes the blocks that end before it, and reads it. -/
def step? (s : Scanner) : Option Scanner :=
  let s := (s.skipMark).skipWhite (s.cursor.rest.length + 1)
  s.dropStale?.bind fun s => (s.closeBlocks (s.cursor.column + 1)).readToken?

/-- Reads tokens up to the end of the text. -/
def run? : (limit : Nat) → Scanner → Option Scanner
  | 0, _ => none
  | limit + 1, s =>
    s.step?.bind fun s => if s.tokens.head? = some .textEnd then some s else run? limit s

end Scanner

/-- The tokens of a text. -/
def Token.ofText? (cs : List Char) : Option (List Token) :=
  if cs.all isAccepted then
    (Scanner.run? (cs.length + 1) (Scanner.start cs)).map fun s => s.tokens.reverse
  else none

end ApiTypes.Yaml
