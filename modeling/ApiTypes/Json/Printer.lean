import ApiTypes.Json.Basic
import ApiTypes.Number.Shortest
import ApiTypes.Text.Piece

/-!
JSON text.

Strings escape the quote, the backslash and the control characters, and nothing else. Integers are
written in full; a floating point number is positional while its leading digit stands between
`10 ^ -5` and `10 ^ 15`, and always has a fraction or an exponent.
-/

namespace ApiTypes

/-- Floating point numbers in JSON text. -/
def Number.layout : Double.Layout := ⟨-5, 15, true⟩

def Number.text : Number → String
  | .int value => value.repr
  | .real value => Number.layout.text value

namespace Json

def quoteChar (c : Char) : List Char :=
  if c = '"' then ['\\', '"']
  else if c = '\\' then ['\\', '\\']
  else if c = '\n' then ['\\', 'n']
  else if c = '\r' then ['\\', 'r']
  else if c = '\t' then ['\\', 't']
  else if c.toNat = 8 then ['\\', 'b']
  else if c.toNat = 12 then ['\\', 'f']
  else if c.toNat < 16 then ['\\', 'u', '0', '0', '0'] ++ Nat.toDigits 16 c.toNat
  else if c.toNat < 32 then ['\\', 'u', '0', '0'] ++ Nat.toDigits 16 c.toNat
  else [c]

/-- A string between double quotes. -/
def quote (text : String) : String :=
  String.ofList ('"' :: text.toList.flatMap quoteChar ++ ['"'])

mutual

/-- The value on one line without blanks. -/
def compact : Json → String
  | .null => "null"
  | .bool value => if value then "true" else "false"
  | .number value => value.text
  | .string text => quote text
  | .array items => "[" ++ compactItems items ++ "]"
  | .object entries => Text.inBraces (compactEntries entries)

def compactItems : List Json → String
  | [] => ""
  | [item] => compact item
  | item :: rest => compact item ++ "," ++ compactItems rest

def compactEntries : List (String × Json) → String
  | [] => ""
  | [(key, value)] => quote key ++ ":" ++ compact value
  | (key, value) :: rest => quote key ++ ":" ++ compact value ++ "," ++ compactEntries rest

end

/-- A new line at a depth of nesting, two blanks for each level. -/
def prettyBreak (depth : Nat) : String := "\n" ++ String.ofList (List.replicate (2 * depth) ' ')

mutual

/-- The value with one item or entry on a line. -/
def pretty (depth : Nat) : Json → String
  | .array [] => "[]"
  | .array items => "[" ++ prettyItems (depth + 1) items ++ prettyBreak depth ++ "]"
  | .object [] => Text.inBraces ""
  | .object entries => Text.inBraces (prettyEntries (depth + 1) entries ++ prettyBreak depth)
  | value => compact value

def prettyItems (depth : Nat) : List Json → String
  | [] => ""
  | [item] => prettyBreak depth ++ pretty depth item
  | item :: rest => prettyBreak depth ++ pretty depth item ++ "," ++ prettyItems depth rest

def prettyEntries (depth : Nat) : List (String × Json) → String
  | [] => ""
  | [(key, value)] => prettyBreak depth ++ quote key ++ ": " ++ pretty depth value
  | (key, value) :: rest =>
    prettyBreak depth ++ quote key ++ ": " ++ pretty depth value ++ "," ++ prettyEntries depth rest

end

end Json

end ApiTypes
