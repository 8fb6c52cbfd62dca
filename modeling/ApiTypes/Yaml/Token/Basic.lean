import ApiTypes.Yaml.Tag

/-!
Tokens of YAML text. The start and end of a block are tokens that are not written.
-/

namespace ApiTypes.Yaml

inductive Token where
  | textEnd
  | version
  | handle (handle : List Char) (start : List UInt8)
  | documentStart
  | documentEnd
  | sequenceBlock
  | mappingBlock
  | blockEnd
  | sequenceOpen
  | sequenceClose
  | mappingOpen
  | mappingClose
  | item
  | comma
  | key
  | value
  | alias (name : String)
  | anchor (name : String)
  | tag (written : Tag.Written)
  | scalar (plain : Bool) (text : String)
deriving DecidableEq, Repr, Inhabited

end ApiTypes.Yaml
