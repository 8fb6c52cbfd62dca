/-!
KDL documents: nodes with a name, entries and perhaps a block of children. An entry is an argument
or a property.
-/

namespace ApiTypes.Kdl

inductive Value where
  | string (text : String)
  | integer (value : Int)
  /-- A number with a fraction or an exponent, as it is written. -/
  | decimal (text : String)
  | bool (value : Bool)
  | null
  /-- An infinity, or a number that is none. -/
  | special (name : String)
deriving DecidableEq, Repr, Inhabited

structure Entry where
  /-- The name of a property. -/
  name : Option String
  value : Value
deriving DecidableEq, Repr, Inhabited

inductive Node where
  | mk (name : String) (entries : List Entry) (children : Option (List Node))
deriving Repr, Inhabited

namespace Value

def string? : Value → Option String
  | .string text => some text
  | _ => none

def integer? : Value → Option Int
  | .integer value => some value
  | _ => none

end Value

namespace Node

def name : Node → String
  | .mk name _ _ => name

def entries : Node → List Entry
  | .mk _ entries _ => entries

def children : Node → Option (List Node)
  | .mk _ _ children => children

/-- The value of the first entry, be it an argument or a property. -/
def firstValue? (node : Node) : Option Value := node.entries.head?.map Entry.value

def firstString? (node : Node) : Option String := node.firstValue?.bind Value.string?

def firstInteger? (node : Node) : Option Int := node.firstValue?.bind Value.integer?

end Node

end ApiTypes.Kdl
