import ApiTypes.Keyed
import ApiTypes.Yaml.Node

/-!
Aliases and what they stand for.

An anchor gets the number of names known before it, so a name that comes again may share its
number with a later one. An alias goes by the number that its name has at that point, and stands
for the last node with that number in the whole document.
-/

namespace ApiTypes.Yaml

namespace Node

/-- The numbers of the names so far. -/
abbrev Names := List (String × Nat)

def declare (names : Names) (name : String) : Names × Nat :=
  (Keyed.put Prod.fst (name, names.length) names, names.length)

def linkProps (names : Names) (props : Props String) : Names × Props Nat :=
  match props.anchor with
  | none => (names, ⟨none, props.tag⟩)
  | some name =>
    let (names, id) := declare names name
    (names, ⟨some id, props.tag⟩)

mutual

/-- The node with numbers for names. An alias without an anchor before it is a fault. -/
def link? (names : Names) : Node String → Option (Names × Node Nat)
  | .alias name => (names.lookup name).map fun id => (names, .alias id)
  | .scalar props plain text =>
    let (names, props) := linkProps names props
    some (names, .scalar props plain text)
  | .sequence props items =>
    let (names, props) := linkProps names props
    (linkItems? names items).map fun (names, items) => (names, .sequence props items)
  | .mapping props entries =>
    let (names, props) := linkProps names props
    (linkEntries? names entries).map fun (names, entries) => (names, .mapping props entries)

def linkItems? (names : Names) : List (Node String) → Option (Names × List (Node Nat))
  | [] => some (names, [])
  | item :: rest =>
    (link? names item).bind fun (names, item) =>
      (linkItems? names rest).map fun (names, items) => (names, item :: items)

def linkEntries? (names : Names) : List (Node String × Node String) →
    Option (Names × List (Node Nat × Node Nat))
  | [] => some (names, [])
  | (key, value) :: rest =>
    (link? names key).bind fun (names, key) =>
      (link? names value).bind fun (names, value) =>
        (linkEntries? names rest).map fun (names, entries) => (names, (key, value) :: entries)

end

def ownTarget (props : Props Nat) (node : Node Nat) : List (Nat × Node Nat) :=
  (props.anchor.map (·, node)).toList

mutual

/-- The nodes with an anchor, in order. -/
def targets : Node Nat → List (Nat × Node Nat)
  | .alias _ => []
  | .scalar props plain text => ownTarget props (.scalar props plain text)
  | .sequence props items => ownTarget props (.sequence props items) ++ targetsOfItems items
  | .mapping props entries => ownTarget props (.mapping props entries) ++ targetsOfEntries entries

def targetsOfItems : List (Node Nat) → List (Nat × Node Nat)
  | [] => []
  | item :: rest => targets item ++ targetsOfItems rest

def targetsOfEntries : List (Node Nat × Node Nat) → List (Nat × Node Nat)
  | [] => []
  | (key, value) :: rest => targets key ++ targets value ++ targetsOfEntries rest

end

mutual

/-- The number of scalars, aliases, and starts and ends of collections. -/
def size {α : Type} : Node α → Nat
  | .alias _ => 1
  | .scalar _ _ _ => 1
  | .sequence _ items => 2 + sizeOfItems items
  | .mapping _ entries => 2 + sizeOfEntries entries

def sizeOfItems {α : Type} : List (Node α) → Nat
  | [] => 0
  | item :: rest => size item + sizeOfItems rest

def sizeOfEntries {α : Type} : List (Node α × Node α) → Nat
  | [] => 0
  | (key, value) :: rest => size key + size value + sizeOfEntries rest

end

end Node

end ApiTypes.Yaml
