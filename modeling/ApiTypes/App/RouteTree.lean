import ApiTypes.TypeExpr.Basic

/-!
A tree of path segments.

The nodes stand in a list, the root first, and refer to their children by position. A node has one
ordered set of keys, shared by the segments below it and the verbs that end there: a segment takes
the place of a verb with its name, and a verb that of a segment.
-/

namespace ApiTypes

namespace RouteTree

inductive Entry where
  | child (id : Nat)
  | leaf (type : TypeExpr)
deriving Repr, Inhabited

abbrev Node := List (String × Entry)

end RouteTree

structure RouteTree where
  nodes : List RouteTree.Node
deriving Repr, Inhabited

namespace RouteTree

def empty : RouteTree := ⟨[[]]⟩

def node (tree : RouteTree) (id : Nat) : Node := tree.nodes.getD id []

def setNode (tree : RouteTree) (id : Nat) (node : Node) : RouteTree := ⟨tree.nodes.set id node⟩

/-- The position of the child under a segment, which is made if there is none. -/
def child (tree : RouteTree) (parent : Nat) (segment : String) : RouteTree × Nat :=
  match (tree.node parent).lookup segment with
  | some (.child id) => (tree, id)
  | _ =>
    let id := tree.nodes.length
    let grown := tree.setNode parent (Keyed.put Prod.fst (segment, .child id) (tree.node parent))
    (⟨grown.nodes ++ [[]]⟩, id)

def setLeaf (tree : RouteTree) (id : Nat) (key : String) (type : TypeExpr) : RouteTree :=
  tree.setNode id (Keyed.put Prod.fst (key, .leaf type) (tree.node id))

/-- The position of the node for a path, made on the way. -/
def walk (tree : RouteTree) (id : Nat) : List String → RouteTree × Nat
  | [] => (tree, id)
  | segment :: rest =>
    let (grown, next) := tree.child id segment
    walk grown next rest

/-- Attaches leaves to the node for a path. -/
def insert (tree : RouteTree) (segments : List String) (leaves : List (String × TypeExpr)) :
    RouteTree :=
  let (grown, id) := tree.walk 0 segments
  leaves.foldl (fun t (key, type) => t.setLeaf id key type) grown

/-- The object type of a node. A child stands further on in the list than its parent, so the
number of nodes bounds the depth. -/
def typeAt (tree : RouteTree) : (depth : Nat) → (id : Nat) → TypeExpr
  | 0, _ => .objectOf .block []
  | depth + 1, id =>
    .objectOf .block <| (tree.node id).map fun (key, entry) =>
      .quotedField key <|
        match entry with
        | .child next => typeAt tree depth next
        | .leaf type => type

/-- Nested block objects with every key quoted. -/
def toType (tree : RouteTree) : TypeExpr := tree.typeAt tree.nodes.length 0

end RouteTree

end ApiTypes
