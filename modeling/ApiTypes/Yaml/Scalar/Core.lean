import ApiTypes.Text.Piece
import ApiTypes.Yaml.Tag
import ApiTypes.Yaml.Value

/-!
What a plain scalar stands for.

Integers are decimal, or hexadecimal, octal or binary behind `0x`, `0o` or `0b`. A decimal that
starts with a zero and goes on with digits only is a string. An integer too wide for 64 bits is a
fault, and one too wide for 128 bits counts as a floating point number.
-/

namespace ApiTypes.Yaml.Core

def isNull (text : String) : Bool := text ∈ ["null", "Null", "NULL", "~"]

def bool? (text : String) : Option Bool :=
  if text ∈ ["true", "True", "TRUE"] then some true
  else if text ∈ ["false", "False", "FALSE"] then some false
  else none

/-! ### Integers -/

/-- Digits of a base that is named in front. -/
def based? : List Char → Option Nat
  | '0' :: 'x' :: digits => Text.ofDigits? 16 digits
  | '0' :: 'o' :: digits => Text.ofDigits? 8 digits
  | '0' :: 'b' :: digits => Text.ofDigits? 2 digits
  | _ => none

/-- A zero with more digits behind it, and nothing else. -/
def isZeroLed : List Char → Bool
  | '0' :: c :: rest => (c :: rest).all Text.isDigit
  | _ => false

def natural? (cs : List Char) : Option Nat :=
  (based? cs).or (if isZeroLed cs then none else Text.ofDigits? 10 cs)

def integer? : List Char → Option Int
  | '-' :: cs => (natural? cs).map fun n => -(n : Int)
  | '+' :: cs => (natural? cs).map fun n => (n : Int)
  | cs => (natural? cs).map fun n => (n : Int)

def dropSign : List Char → List Char
  | '-' :: cs => cs
  | '+' :: cs => cs
  | cs => cs

def isWide (n : Int) : Bool := -Int.pow 2 127 ≤ n && n < Int.pow 2 128

/-! ### Floating point numbers -/

/-- The exponent behind the digits, zero if there is none. -/
def exponent? : List Char → Option Int
  | [] => some 0
  | c :: rest =>
    if c = 'e' ∨ c = 'E' then
      match rest with
      | '-' :: digits => (Text.ofDigits? 10 digits).map fun n => -(n : Int)
      | '+' :: digits => (Text.ofDigits? 10 digits).map fun n => (n : Int)
      | digits => (Text.ofDigits? 10 digits).map fun n => (n : Int)
    else none

/-- The digits behind the point, and what follows them. -/
def fraction : List Char → List Char × List Char
  | '.' :: rest => (rest.takeWhile Text.isDigit, rest.dropWhile Text.isDigit)
  | cs => ([], cs)

/-- A decimal with at least one digit, a point and an exponent if any. -/
def decimal? (negative : Bool) (cs : List Char) : Option Double :=
  let whole := cs.takeWhile Text.isDigit
  let (part, rest) := fraction (cs.dropWhile Text.isDigit)
  (Text.ofDigits? 10 (whole ++ part)).bind fun digits =>
    (exponent? rest).bind fun exponent =>
      Double.ofDecimal? negative digits (exponent - part.length)

def isInfinity (text : String) : Bool := text ∈ [".inf", ".Inf", ".INF"]

def floating? (text : String) : Option Floating :=
  let (sign, rest) := match text.toList with
    | '-' :: cs => (some true, cs)
    | '+' :: cs => (some false, cs)
    | cs => (none, cs)
  if isInfinity (String.ofList rest) then some (.infinite (sign == some true))
  else if text ∈ [".nan", ".NaN", ".NAN"] then some .undefined
  else (decimal? (sign == some true) rest).map .finite

/-! ### Scalars -/

/-- A scalar that is an integer, a fault if it is too wide, or none. -/
def intValue? (text : String) : Option (Option Value) :=
  match integer? text.toList with
  | none => none
  | some n =>
    match Number.ofInt? n with
    | some number => some (some (.number number))
    | none => if isWide n then some none else none

/-- A floating point number or else a string. -/
def otherValue (text : String) : Value :=
  if isZeroLed (dropSign text.toList) then .string text
  else
    match floating? text with
    | some x => .number (.floating x)
    | none => .string text

/-- The value of a plain scalar, by its text alone. -/
def plainValue? (text : String) : Option Value :=
  if text.isEmpty || isNull text then some .null
  else
    match bool? text with
    | some b => some (.bool b)
    | none =>
      match intValue? text with
      | some value => value
      | none => some (otherValue text)

def untagged? (plain : Bool) (text : String) : Option Value :=
  if plain then plainValue? text else some (.string text)

/-- The value of a scalar under a tag that is not local. -/
def underTag? (tag : Tag) (plain : Bool) (text : String) : Option Value :=
  if tag = Tag.core "bool" then (bool? text).map .bool
  else if tag = Tag.core "int" then (intValue? text).bind id
  else if tag = Tag.core "float" then (floating? text).map fun x => .number (.floating x)
  else if tag = Tag.core "null" then (if isNull text then some .null else none)
  else if tag.octets.head? = some Tag.bang then untagged? plain text
  else some (.string text)

end ApiTypes.Yaml.Core
