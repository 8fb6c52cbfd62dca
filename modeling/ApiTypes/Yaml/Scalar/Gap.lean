import ApiTypes.Yaml.Cursor

/-!
White space between the words of a scalar.

Blanks within a line stay. A single line break becomes a space; of more breaks, all but the first
stay, and the first stays too if it is a separator.
-/

namespace ApiTypes.Yaml

structure Gap where
  /-- The blanks before the first break. -/
  blanks : List Char
  breaks : List Char
deriving Repr, Inhabited

namespace Gap

def none : Gap := ⟨[], []⟩

/-- What the breaks become when lines are folded. -/
def fold : List Char → List Char
  | [] => []
  | first :: more =>
    if isSeparator first then first :: more
    else if more.isEmpty then [' ']
    else more

def text (gap : Gap) : List Char := if gap.breaks.isEmpty then gap.blanks else fold gap.breaks

def hasBreak (gap : Gap) : Bool := !gap.breaks.isEmpty

/-- Skips the blanks at the start of a line. A tab may not stand in the indentation. -/
def skipIndentation? (indent : Nat) (c : Cursor) : Option Cursor :=
  let (blanks, rest) := c.span isBlank
  if '\t' ∈ blanks.take indent then Option.none else some rest

/-- The breaks at the cursor with the blanks behind each. -/
def scanBreaks? (indent : Nat) : (limit : Nat) → Cursor → Option (List Char × Cursor)
  | 0, c => some ([], c)
  | limit + 1, c =>
    match c.lineBreak? with
    | Option.none => some ([], c)
    | some (b, c) =>
      (skipIndentation? indent c).bind fun c =>
        (scanBreaks? indent limit c).map fun (bs, c) => (b :: bs, c)

def scan? (indent : Nat) (c : Cursor) : Option (Gap × Cursor) :=
  let (blanks, c) := c.span isBlank
  (scanBreaks? indent c.rest.length c).map fun (breaks, c) => (⟨blanks, breaks⟩, c)

end Gap

end ApiTypes.Yaml
