import ApiTypes.Kdl.Basic
import ApiTypes.Kdl.Text

/-!
Numbers and keywords of KDL text.
-/

namespace ApiTypes.Kdl

/-- Digits of a base. Underscores may stand between and behind them, but not in front. -/
def digits? (base : Nat) (cs : List Char) : Option Nat :=
  if cs.head? = some '_' then none else Text.ofDigits? base (cs.filter (· ≠ '_'))

/-- Integers have 128 bits. -/
def magnitude? (base : Nat) (cs : List Char) : Option Nat :=
  (digits? base cs).filter fun n => n < Nat.pow 2 127

def based? : List Char → Option Nat
  | '0' :: 'x' :: digits => magnitude? 16 digits
  | '0' :: 'o' :: digits => magnitude? 8 digits
  | '0' :: 'b' :: digits => magnitude? 2 digits
  | digits => magnitude? 10 digits

def isDigits (cs : List Char) : Bool := (digits? 10 cs).isSome

def isExponent : List Char → Bool
  | [] => true
  | c :: rest => (c == 'e' || c == 'E') && isDigits (dropSign rest)

/-- The word cut before its exponent. -/
def splitExponent (word : List Char) : List Char × List Char :=
  (word.takeWhile fun c => c ≠ 'e' ∧ c ≠ 'E', word.dropWhile fun c => c ≠ 'e' ∧ c ≠ 'E')

/-- A decimal with a fraction or an exponent. -/
def isDecimal (word : List Char) : Bool :=
  let (mantissa, exponent) := splitExponent word
  let whole := mantissa.takeWhile (· ≠ '.')
  let part := mantissa.dropWhile (· ≠ '.')
  isDigits whole && isExponent exponent &&
    match part with
    | [] => !exponent.isEmpty
    | _ :: digits => isDigits digits

/-- A word that starts like a number has to be one. -/
def number? (word : List Char) : Option Value :=
  let negative := word.head? = some '-'
  match based? (dropSign word) with
  | some n => some (.integer (if negative then -(n : Int) else n))
  | none => if isDecimal (dropSign word) then some (.decimal (String.ofList word)) else none

/-- The word behind a number sign. -/
def keyword? (word : String) : Option Value :=
  match word with
  | "true" => some (.bool true)
  | "false" => some (.bool false)
  | "null" => some .null
  | "inf" => some (.special word)
  | "-inf" => some (.special word)
  | "nan" => some (.special word)
  | _ => none

end ApiTypes.Kdl
