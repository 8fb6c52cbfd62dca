import ApiTypes.Number.Double

/-!
JSON values.

Objects keep their entries in order. A number is an integer between `-2 ^ 63` and `2 ^ 64 - 1`, or
else a finite floating point number.
-/

namespace ApiTypes

inductive Number where
  | int (value : Int)
  | real (value : Double)
deriving DecidableEq, Repr, Inhabited

inductive Json where
  | null
  | bool (value : Bool)
  | number (value : Number)
  | string (value : String)
  | array (items : List Json)
  | object (entries : List (String × Json))
deriving Repr, Inhabited

namespace Json

/-- The value of an object's entry; nothing for any other value. -/
def get? (key : String) : Json → Option Json
  | .object entries => entries.lookup key
  | _ => none

def string? : Json → Option String
  | .string text => some text
  | _ => none

def array? : Json → Option (List Json)
  | .array items => some items
  | _ => none

def object? : Json → Option (List (String × Json))
  | .object entries => some entries
  | _ => none

end Json

end ApiTypes
