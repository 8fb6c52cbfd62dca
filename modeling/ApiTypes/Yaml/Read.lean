import ApiTypes.Yaml.Link
import ApiTypes.Yaml.Scalar.Core
import ApiTypes.Yaml.Token.Stream

/-!
Reading YAML text.

Aliases are replaced by what they stand for. Collections may be nested only so deep, and aliases
may be followed only so often for the size of the document.
-/

namespace ApiTypes.Yaml

structure Links where
  targets : List (Nat × Node Nat)
  /-- How often aliases may be followed. -/
  limit : Nat

namespace Value

/-- Reading with a count of the aliases followed. -/
abbrev Read := StateT Nat Option

def follow (links : Links) : Node Nat → Read (Node Nat)
  | .alias id => do
    let count ← get
    if links.limit ≤ count then failure
    set (count + 1)
    match links.targets.lookup id with
    | some node => pure node
    | none => failure
  | node => pure node

def withTag (tag : Option Tag) (value : Value) : Value :=
  match tag.bind Tag.localName? with
  | some name => .tagged name value
  | none => value

def ofScalar? (props : Props Nat) (plain : Bool) (text : String) : Option Value :=
  match props.tag with
  | none => Core.untagged? plain text
  | some tag =>
    match tag.localName? with
    | some name => (Core.untagged? plain text).map (.tagged name)
    | none => Core.underTag? tag plain text

/-- The value of a node with so many levels of collections at most. -/
def ofNode (links : Links) : (depth : Nat) → Node Nat → Read Value
  | depth, node => do
    match ← follow links node, depth with
    | .scalar props plain text, _ => ofScalar? props plain text
    | .sequence props items, depth + 1 =>
      let items ← items.mapM (ofNode links depth)
      pure (withTag props.tag (.sequence items))
    | .mapping props entries, depth + 1 =>
      let entries ← entries.mapM fun (key, value) => do
        let key ← ofNode links depth key
        let value ← ofNode links depth value
        pure (key, value)
      (mappingOf? entries).map (withTag props.tag)
    | _, _ => failure

def maxDepth : Nat := 128

/-- How often an alias may be followed for each part of the document. -/
def followLimit : Nat := 100

/-- The value of a text that holds one document or none. -/
def ofText? (text : String) : Option Value :=
  (Token.ofText? text.toList).bind fun tokens =>
    (Node.ofTokens? tokens).bind fun node =>
      (Node.link? [] node).bind fun (_, node) =>
        let links : Links := ⟨node.targets.reverse, followLimit * node.size⟩
        ((ofNode links maxDepth node).run 0).map Prod.fst

end Value

end ApiTypes.Yaml
