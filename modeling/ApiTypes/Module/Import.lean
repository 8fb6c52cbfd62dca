import ApiTypes.App.Framework

/-!
Import statements.
-/

namespace ApiTypes

structure ImportedName where
  name : String
  typeOnly : Bool
deriving DecidableEq, Repr, Inhabited

structure Import where
  source : String
  names : List ImportedName
  defaultName : Option String
  typeOnly : Bool
deriving DecidableEq, Repr, Inhabited

namespace Import

/-- Names that stand for types only. -/
def types (source : String) (names : List String) : Import :=
  ⟨source, names.map fun name => ⟨name, true⟩, none, false⟩

/-- A name is marked as a type unless the whole statement is. -/
def nameText (whole : Bool) (n : ImportedName) : String :=
  if n.typeOnly && !whole then "type " ++ n.name else n.name

/-- The default name, then the names in braces. -/
def clauses (i : Import) : List String :=
  i.defaultName.toList ++
    (if i.names.isEmpty then []
     else [Text.inBraces (" " ++ Text.join ", " (i.names.map (nameText i.typeOnly)) ++ " ")])

/-- The statement, without the end of its line. -/
def render (i : Import) : String :=
  if i.clauses.isEmpty then "import " ++ Json.quote i.source ++ ";"
  else
    "import " ++ (if i.typeOnly then "type " else "") ++ Text.join ", " i.clauses ++ " from " ++
      Json.quote i.source ++ ";"

end Import

/-- What the app type of a framework refers to. -/
def Framework.imports : Framework → List Import
  | .hono =>
    [.types "hono" ["Hono"], .types "hono/types" ["BlankEnv"],
     .types "hono/utils/http-status" ["ContentfulStatusCode"]]
  | .elysia => [.types "elysia" ["DefinitionBase", "Elysia", "MetadataBase", "SingletonBase"]]

end ApiTypes
