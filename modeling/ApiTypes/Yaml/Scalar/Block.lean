import ApiTypes.Text.Piece
import ApiTypes.Yaml.Scalar.Gap

/-!
Block scalars.

The lines of a literal scalar stay as they are. In a folded scalar a break between two lines that
start with no blank becomes a space, or goes away where empty lines follow. The indentation is
given by a digit or found from the first line that is not empty.
-/

namespace ApiTypes.Yaml.Block

/-- What happens to the breaks at the end. -/
inductive Chomping where
  | strip
  | clip
  | keep
deriving DecidableEq, Repr, Inhabited

structure Header where
  chomping : Chomping
  /-- The given indentation, counted from the block around. -/
  indent : Option Nat
deriving Repr, Inhabited

def chomping? : Option Char → Option Chomping
  | some '+' => some .keep
  | some '-' => some .strip
  | _ => none

def indentDigit? (c : Option Char) : Option Nat := c.bind Text.digit?

/-- A digit and a mark for the end, in either order; the digit is not zero. -/
def header? (c : Cursor) : Option (Header × Cursor) :=
  let second := (c.skip 1).next?
  let (header, used) : Header × Nat :=
    match chomping? c.next? with
    | some chomping =>
      match indentDigit? second with
      | some n => (⟨chomping, some n⟩, 2)
      | none => (⟨chomping, none⟩, 1)
    | none =>
      match indentDigit? c.next? with
      | some n =>
        match chomping? second with
        | some chomping => (⟨chomping, some n⟩, 2)
        | none => (⟨.clip, some n⟩, 1)
      | none => (⟨.clip, none⟩, 0)
  if header.indent = some 0 then none else some (header, c.skip used)

/-- The empty lines at the cursor, and the place of the first other line with its indentation
skipped as far as it is known. Also the largest column reached. -/
def emptyLines? (indent : Option Nat) : (limit : Nat) → (widest : Nat) → Cursor →
    Option (List Char × Nat × Cursor)
  | limit, widest, c =>
    let spaces := c.rest.takeWhile (· == ' ')
    let count := match indent with
      | some n => min spaces.length (n - c.column)
      | none => spaces.length
    let c := c.skip count
    let widest := max widest c.column
    let within := match indent with
      | some n => decide (c.column < n)
      | none => true
    if within && c.next? == some '\t' then none
    else
      match limit with
      | 0 => some ([], widest, c)
      | limit + 1 =>
        match c.lineBreak? with
        | none => some ([], widest, c)
        | some (b, c) =>
          (emptyLines? indent limit widest c).map fun (bs, widest, c) => (b :: bs, widest, c)

/-- What is left open behind a line. -/
structure Tail where
  /-- The break that ended the last line. -/
  lineEnd : List Char
  /-- The breaks of the empty lines behind it. -/
  empty : List Char
  /-- The last line started with a blank. -/
  blankStart : Bool
  cursor : Cursor
deriving Repr, Inhabited

/-- What the break of the last line becomes before a further line. -/
def joinLines (folded : Bool) (tail : Tail) (blankStart : Bool) : List Char :=
  if folded && tail.lineEnd == ['\n'] && !tail.blankStart && !blankStart then
    (if tail.empty.isEmpty then [' '] else [])
  else tail.lineEnd

/-- The lines from here on, joined to what is left open. -/
def lines? (folded : Bool) (indent : Nat) : (limit : Nat) → Tail → Option (List Char × Tail)
  | 0, tail => some ([], tail)
  | limit + 1, tail =>
    if tail.cursor.column = indent ∧ ¬ tail.cursor.atEnd then
      let blankStart := tail.cursor.next?.any isBlank
      let (line, c) := tail.cursor.span fun x => !isBreak x
      let (lineEnd, c) := match c.lineBreak? with
        | some (b, c) => ([b], c)
        | none => ([], c)
      (emptyLines? (some indent) c.rest.length 0 c).bind fun (empty, _, c) =>
        (lines? folded indent limit ⟨lineEnd, empty, blankStart, c⟩).map fun (text, last) =>
          (joinLines folded tail blankStart ++ tail.empty ++ line ++ text, last)
    else some ([], tail)

/-- The breaks that stay at the end. -/
def chomp (chomping : Chomping) (tail : Tail) : List Char :=
  match chomping with
  | .strip => []
  | .clip => tail.lineEnd
  | .keep => tail.lineEnd ++ tail.empty

/-- The scalar whose mark stands at the cursor, in a block at the innermost of the given columns. -/
def scan? (folded : Bool) (columns : List Nat) (c : Cursor) : Option (List Char × Cursor) :=
  (header? (c.skip 1)).bind fun (header, c) =>
    c.restOfLine?.bind fun c =>
      let given := header.indent.map fun n => n + columns.headD 0
      (emptyLines? given c.rest.length 0 c).bind fun (empty, widest, c) =>
        let least := match columns with
          | [] => 1
          | column :: _ => column + 1
        let indent := given.getD (max widest least)
        (lines? folded indent c.rest.length ⟨[], empty, false, c⟩).map fun (text, tail) =>
          (text ++ chomp header.chomping tail, tail.cursor)

end ApiTypes.Yaml.Block
