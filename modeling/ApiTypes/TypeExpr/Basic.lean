import ApiTypes.Json.Printer
import ApiTypes.Keyed

/-!
Type expressions.

An object type has members under keys; adding a member whose key is there already replaces it in
place. A key written as a name is quoted only where it has to be.
-/

namespace ApiTypes

inductive ObjectLayout where
  /-- One member on a line. -/
  | block
  | inline
deriving DecidableEq, Repr, Inhabited

structure Key where
  text : String
  quoted : Bool
deriving DecidableEq, Repr, Inhabited

structure Member (τ : Type) where
  key : Key
  optional : Bool
  type : τ
deriving Repr, Inhabited

inductive TypeExpr where
  /-- A keyword, a type name or a literal type. -/
  | literal (text : String)
  | object (layout : ObjectLayout) (members : List (Member TypeExpr))
  | union (members : List TypeExpr)
  | intersection (members : List TypeExpr)
  | generic (name : String) (arguments : List TypeExpr)
  | array (item : TypeExpr)
deriving Repr, Inhabited

namespace Member

variable {τ : Type}

def name (m : Member τ) : String := m.key.text

def field (name : String) (type : τ) : Member τ := ⟨⟨name, false⟩, false, type⟩

def optionalField (name : String) (type : τ) : Member τ := ⟨⟨name, false⟩, true, type⟩

def quotedField (name : String) (type : τ) : Member τ := ⟨⟨name, true⟩, false, type⟩

end Member

namespace TypeExpr

def unknown : TypeExpr := .literal "unknown"

def any : TypeExpr := .literal "any"

def emptyObject : TypeExpr := .literal (Text.inBraces "")

def stringLiteral (text : String) : TypeExpr := .literal (Json.quote text)

/-- The object type with these members, added one after another. -/
def objectOf (layout : ObjectLayout) (members : List (Member TypeExpr)) : TypeExpr :=
  .object layout (Keyed.gather Member.name members)

end TypeExpr

end ApiTypes
