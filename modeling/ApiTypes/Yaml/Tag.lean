import ApiTypes.Text.Piece
import ApiTypes.Yaml.Cursor

/-!
Tags.

A tag is written in full between angle brackets, or as a handle and a suffix. What a handle stands
for is declared at the head of a document. A percent sign and two hexadecimal digits stand for an
octet, and the octets written so make up characters.
-/

namespace ApiTypes.Yaml

/-- A tag as its octets. -/
structure Tag where
  octets : List UInt8
deriving DecidableEq, Repr, Inhabited

namespace Tag

def ofText (text : String) : Tag := ⟨text.toUTF8.toList⟩

def core (name : String) : Tag := ofText ("tag:yaml.org,2002:" ++ name)

def bang : UInt8 := '!'.toUInt8

/-- Drops an exclamation mark that something follows. -/
def dropBang : List UInt8 → List UInt8
  | first :: next :: rest => if first = bang then next :: rest else first :: next :: rest
  | octets => octets

def isReadable (octets : List UInt8) : Bool := (String.fromUTF8? ⟨octets.toArray⟩).isSome

/-- The name of a local tag. Names are told apart without an exclamation mark in front. -/
def localName? (tag : Tag) : Option (List UInt8) :=
  match tag.octets with
  | [] => none
  | first :: _ =>
    let name := dropBang tag.octets
    if first = bang ∧ isReadable name then some (dropBang name) else none

/-! ### Reading -/

/-- Characters of a suffix that stand for themselves. -/
def isPlainChar (full : Bool) (c : Char) : Bool :=
  isWordChar c ||
    c ∈ [';', '/', '?', ':', '@', '&', '=', '+', '$', '.', '!', '~', '*', '\'', '(', ')'] ||
    (full && c ∈ [',', '[', ']'])

def octet? : List Char → Option UInt8
  | '%' :: high :: low :: _ => (Text.ofDigits? 16 [high, low]).map Nat.toUInt8
  | _ => none

/-- The number of octets of a character, by its first. -/
def width? (first : UInt8) : Option Nat :=
  if first < 0x80 then some 1
  else if 0xC0 ≤ first ∧ first < 0xE0 then some 2
  else if 0xE0 ≤ first ∧ first < 0xF0 then some 3
  else if 0xF0 ≤ first ∧ first < 0xF8 then some 4
  else none

def continuation? : Nat → Cursor → Option (List UInt8 × Cursor)
  | 0, c => some ([], c)
  | n + 1, c =>
    (octet? c.rest).bind fun x =>
      if 0x80 ≤ x ∧ x < 0xC0 then (continuation? n (c.skip 3)).map fun (xs, c) => (x :: xs, c)
      else none

/-- The octets of one character. -/
def escape? (c : Cursor) : Option (List UInt8 × Cursor) :=
  (octet? c.rest).bind fun first =>
    (width? first).bind fun width =>
      (continuation? (width - 1) (c.skip 3)).map fun (xs, c) => (first :: xs, c)

/-- The octets of a suffix. In full form it may hold commas and square brackets. -/
def suffix? (full : Bool) : (limit : Nat) → Cursor → Option (List UInt8 × Cursor)
  | 0, c => some ([], c)
  | limit + 1, c =>
    match c.next? with
    | none => some ([], c)
    | some x =>
      if x = '%' then
        (escape? c).bind fun (xs, c) => (suffix? full limit c).map fun (ys, c) => (xs ++ ys, c)
      else if isPlainChar full x then
        (suffix? full limit (c.skip 1)).map fun (ys, c) => (x.toUInt8 :: ys, c)
      else some ([], c)

/-- A suffix that is not empty. -/
def someSuffix? (full : Bool) (c : Cursor) : Option (List UInt8 × Cursor) :=
  (suffix? full c.rest.length c).bind fun (xs, c) => if xs.isEmpty then none else some (xs, c)

/-- A tag as written: its handle, empty for the full form, and the rest. -/
structure Written where
  handle : List Char
  suffix : List UInt8
deriving DecidableEq, Repr, Inhabited

def octetsOf (cs : List Char) : List UInt8 := cs.map Char.toUInt8

def writtenFull? (c : Cursor) : Option (Written × Cursor) :=
  (someSuffix? true (c.skip 2)).bind fun (suffix, c) =>
    if c.next? = some '>' then some (⟨[], suffix⟩, c.skip 1) else none

/-- A lone exclamation mark stands for itself. -/
def writtenShort? (c : Cursor) : Option (Written × Cursor) :=
  let (word, c) := (c.skip 1).span isWordChar
  if c.next? = some '!' then
    (someSuffix? false (c.skip 1)).map fun (suffix, c) => (⟨'!' :: word ++ ['!'], suffix⟩, c)
  else
    (suffix? false c.rest.length c).map fun (more, c) =>
      let suffix := octetsOf word ++ more
      (if suffix.isEmpty then ⟨[], [bang]⟩ else ⟨['!'], suffix⟩, c)

/-- White space follows a tag, or within brackets a comma. -/
def isEnded (flow : Bool) (c : Cursor) : Bool := atWhite c.rest || (flow && c.next? == some ',')

/-- The tag whose exclamation mark stands at the cursor. -/
def written? (flow : Bool) (c : Cursor) : Option (Written × Cursor) :=
  let result := if (c.skip 1).next? = some '<' then writtenFull? c else writtenShort? c
  result.filter fun (_, c) => isEnded flow c

/-- A handle in a declaration: one mark, or a word between two. -/
def handle? (c : Cursor) : Option (List Char × Cursor) :=
  if c.next? = some '!' then
    let (word, c) := (c.skip 1).span isWordChar
    if c.next? = some '!' then some ('!' :: word ++ ['!'], c.skip 1)
    else if word.isEmpty then some (['!'], c)
    else none
  else none

/-! ### Handles -/

/-- What a handle stands for, by declaration. -/
abbrev Handles := List (List Char × List UInt8)

/-- What the two handles stand for that need no declaration. -/
def standardHandles : Handles :=
  [(['!'], [bang]), (['!', '!'], (core "").octets)]

def resolve? (handles : Handles) (w : Written) : Option Tag :=
  if w.handle.isEmpty then some ⟨w.suffix⟩
  else (handles.lookup w.handle).map fun start => ⟨start ++ w.suffix⟩

end Tag

end ApiTypes.Yaml
