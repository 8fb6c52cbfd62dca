import ApiTypes.Keyed
import ApiTypes.Json.Basic
import ApiTypes.Json.Printer

/-!
YAML values, and their JSON form.

Tags fall away, and so do infinities and numbers that are none. A key that is no string is written
as text; keys that become equal that way are one entry.
-/

namespace ApiTypes.Yaml

/-- A 64-bit floating point number. -/
inductive Floating where
  | finite (value : Double)
  | infinite (negative : Bool)
  | undefined
deriving DecidableEq, Repr, Inhabited

/-- An integer has 64 bits, and a sign just if it is negative. -/
inductive Number where
  | natural (value : UInt64)
  | negative (value : Int64) (isNegative : value < 0)
  | floating (value : Floating)
deriving DecidableEq, Repr, Inhabited

inductive Value where
  | null
  | bool (value : Bool)
  | number (value : Number)
  | string (text : String)
  | sequence (items : List Value)
  | mapping (entries : List (Value × Value))
  | tagged (tag : List UInt8) (value : Value)
deriving Repr, Inhabited

namespace Floating

def same : Floating → Floating → Bool
  | .finite a, .finite b => a.same b
  | .infinite a, .infinite b => a == b
  | .undefined, .undefined => true
  | _, _ => false

/-- As keys: the exponent has no plus sign. -/
def keyLayout : Double.Layout := ⟨-5, 15, false⟩

def keyText : Floating → String
  | .finite value => keyLayout.text value
  | .infinite negative => if negative then "-.inf" else ".inf"
  | .undefined => ".nan"

def finite? : Floating → Option Double
  | .finite value => some value
  | _ => none

end Floating

namespace Number

def same : Number → Number → Bool
  | .natural a, .natural b => a == b
  | .negative a _, .negative b _ => a == b
  | .floating a, .floating b => a.same b
  | _, _ => false

def keyText : Number → String
  | .natural value => value.toNat.repr
  | .negative value _ => value.toInt.repr
  | .floating value => value.keyText

def ofInt64 (value : Int64) : Number :=
  if h : value < 0 then .negative value h else .natural value.toUInt64

/-- The number of an integer that has 64 bits. -/
def ofInt? (n : Int) : Option Number :=
  if 0 ≤ n then
    if n < Int.pow 2 64 then some (.natural (UInt64.ofNat n.toNat)) else none
  else if -Int.pow 2 63 ≤ n then some (ofInt64 (Int64.ofInt n))
  else none

/-! ### Views of a number -/

/-- An integer that is not too large for a sign. -/
def toInt64? : Number → Option Int64
  | .natural value => if value ≤ Int64.maxValue.toUInt64 then some value.toInt64 else none
  | .negative value _ => some value
  | .floating _ => none

/-- An integer that is not negative. -/
def toUInt64? : Number → Option UInt64
  | .natural value => some value
  | _ => none

/-- The nearest floating point number. -/
def toFloating? : Number → Option Floating
  | .natural value => (Double.ofRatio? false value.toNat 1).map .finite
  | .negative value _ => (Double.ofRatio? true value.toInt.natAbs 1).map .finite
  | .floating value => some value

/-- The first of the views that there is. -/
def toJson (number : Number) : Json :=
  match number.toInt64? with
  | some value => .number (.int value.toInt)
  | none =>
    match number.toUInt64? with
    | some value => .number (.int value.toNat)
    | none =>
      match number.toFloating?.bind Floating.finite? with
      | some value => .number (.real value)
      | none => .null

end Number

namespace Value

mutual

/-- Equality of keys. The entries of a mapping may stand in any order. -/
def same : Value → Value → Bool
  | .null, .null => true
  | .bool a, .bool b => a == b
  | .number a, .number b => a.same b
  | .string a, .string b => a == b
  | .sequence xs, .sequence ys => sameItems xs ys
  | .mapping xs, .mapping ys => xs.length == ys.length && sameEntries xs ys
  | .tagged s x, .tagged t y => s == t && same x y
  | _, _ => false

def sameItems : List Value → List Value → Bool
  | [], [] => true
  | x :: xs, y :: ys => same x y && sameItems xs ys
  | _, _ => false

/-- Each entry of the first list is among those of the second. -/
def sameEntries : List (Value × Value) → List (Value × Value) → Bool
  | [], _ => true
  | (k, v) :: xs, ys => (ys.any fun (k', v') => same k k' && same v v') && sameEntries xs ys

end

/-- The mapping with these entries, unless two keys are equal. -/
def mappingOf? (entries : List (Value × Value)) : Option Value :=
  if entries.Pairwise fun a b => ¬ a.1.same b.1 then some (.mapping entries) else none

mutual

def toJson : Value → Json
  | .null => .null
  | .bool value => .bool value
  | .number value => value.toJson
  | .string text => .string text
  | .sequence items => .array (itemsToJson items)
  | .mapping entries => .object (Keyed.gather Prod.fst (entriesToJson entries))
  | .tagged _ value => toJson value

def itemsToJson : List Value → List Json
  | [] => []
  | item :: rest => toJson item :: itemsToJson rest

def entriesToJson : List (Value × Value) → List (String × Json)
  | [] => []
  | (key, value) :: rest => (keyText key, toJson value) :: entriesToJson rest

/-- A key as text: a scalar as it is, anything else as JSON text. -/
def keyText : Value → String
  | .null => "null"
  | .bool value => if value then "true" else "false"
  | .number value => value.keyText
  | .string text => text
  | .sequence items => Json.compact (.array (itemsToJson items))
  | .mapping entries => Json.compact (.object (Keyed.gather Prod.fst (entriesToJson entries)))
  | .tagged _ value => Json.compact (toJson value)

end

end Value

end ApiTypes.Yaml
