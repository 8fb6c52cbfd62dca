import ApiTypes.Yaml.Scalar.Gap

/-!
Plain scalars.

A plain scalar ends before a colon that white space follows, before a comment, before a document
marker, and in a block where a line is indented no deeper than the block. Within brackets it also
ends before a comma or bracket, and a colon right before one of these is refused.
-/

namespace ApiTypes.Yaml.Plain

def isFlowMark (c : Char) : Bool := c == ',' || c == '[' || c == ']' || c == '\x7b' || c == '\x7d'

/-- A colon may not stand before this within brackets. -/
def refusesColon : List Char → Bool
  | [] => false
  | c :: _ => isFlowMark c || c == '?'

/-- The characters up to white space or the end of the scalar. -/
def word? (flow : Bool) : List Char → Option (List Char)
  | [] => some []
  | c :: rest =>
    if isWhite c then some []
    else if flow && c == ':' && refusesColon rest then none
    else if (c == ':' && atWhite rest) || (flow && isFlowMark c) then some []
    else (word? flow rest).map (c :: ·)

structure Scan where
  text : List Char
  /-- The white space behind the last word. -/
  gap : Gap
  cursor : Cursor
deriving Repr, Inhabited

/-- The words of the scalar from here on, with the white space before the first of them. -/
def words? (flow : Bool) (indent : Nat) : (limit : Nat) → Gap → Cursor → Option Scan
  | 0, gap, c => some ⟨[], gap, c⟩
  | limit + 1, gap, c =>
    if c.atDocumentMarker || c.next? == some '#' then some ⟨[], gap, c⟩
    else
      (word? flow c.rest).bind fun word =>
        if word.isEmpty then some ⟨[], gap, c⟩
        else
          (Gap.scan? indent (c.skip word.length)).bind fun (next, c) =>
            (if !flow && c.column < indent then some ⟨[], next, c⟩
             else words? flow indent limit next c).map fun s =>
              { s with text := gap.text ++ word ++ s.text }

/-- A scalar that starts at the cursor; lines that continue it are indented at least so far. -/
def scan? (flow : Bool) (indent : Nat) (c : Cursor) : Option Scan :=
  words? flow indent c.rest.length Gap.none c

end ApiTypes.Yaml.Plain
