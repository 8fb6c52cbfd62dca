import ApiTypes.Yaml.Token.Basic

/-!
From tokens to a tree of nodes.

A node may have an anchor and a tag in front. Where a node may be left out, an empty plain scalar
stands for it. Within square brackets a single key with its value is a mapping of its own; when
that key is left out, the token that shows it is passed over.
-/

namespace ApiTypes.Yaml

/-- What stands in front of a node. Anchors and aliases go by a name or a number. -/
structure Props (α : Type) where
  anchor : Option α
  tag : Option Tag
deriving Repr, Inhabited

inductive Node (α : Type) where
  | alias (target : α)
  | scalar (props : Props α) (plain : Bool) (text : String)
  | sequence (props : Props α) (items : List (Node α))
  | mapping (props : Props α) (entries : List (Node α × Node α))
deriving Repr

namespace Node

abbrev Step (β : Type) := Option (β × List Token)

/-- A node that is left out. -/
def absent : Node String := .scalar ⟨none, none⟩ true ""

instance : Inhabited (Node String) := ⟨absent⟩

def props? (handles : Tag.Handles) : List Token → Step (Props String)
  | .anchor name :: .tag written :: rest =>
    (Tag.resolve? handles written).map fun tag => (⟨some name, some tag⟩, rest)
  | .tag written :: .anchor name :: rest =>
    (Tag.resolve? handles written).map fun tag => (⟨some name, some tag⟩, rest)
  | .anchor name :: rest => some (⟨some name, none⟩, rest)
  | .tag written :: rest =>
    (Tag.resolve? handles written).map fun tag => (⟨none, some tag⟩, rest)
  | ts => some (⟨none, none⟩, ts)

/-- The exclamation mark alone is no tag for a scalar. -/
def scalarProps (props : Props String) : Props String :=
  if props.tag = some ⟨[Tag.bang]⟩ then { props with tag := none } else props

/-- An anchor or a tag is enough for a node. -/
def bare? (props : Props String) (ts : List Token) : Step (Node String) :=
  if props.anchor.isSome || props.tag.isSome then some (.scalar props true "", ts) else none

/-- One of the tokens comes next. -/
def comes (stops : List Token) (ts : List Token) : Bool := ts.head?.any fun t => t ∈ stops

/-- Items and entries after the first come behind a comma. -/
def afterComma? (first : Bool) (ts : List Token) : Option (List Token) :=
  if first then some ts
  else
    match ts with
    | .comma :: rest => some rest
    | _ => none

mutual

def read? (handles : Tag.Handles) : (fuel : Nat) → (block indentless : Bool) → List Token →
    Step (Node String)
  | 0, _, _, _ => none
  | _ + 1, _, _, .alias name :: rest => some (.alias name, rest)
  | fuel + 1, block, indentless, ts =>
    (props? handles ts).bind fun (props, ts) =>
      match ts with
      | .scalar plain text :: rest => some (.scalar (scalarProps props) plain text, rest)
      | .item :: _ =>
        if indentless then
          (looseItems? handles fuel ts).map fun (items, rest) => (.sequence props items, rest)
        else bare? props ts
      | .sequenceOpen :: rest =>
        (flowItems? handles fuel true rest).map fun (items, rest) => (.sequence props items, rest)
      | .mappingOpen :: rest =>
        (flowEntries? handles fuel true rest).map fun (entries, rest) =>
          (.mapping props entries, rest)
      | .sequenceBlock :: rest =>
        if block then
          (blockItems? handles fuel rest).map fun (items, rest) => (.sequence props items, rest)
        else bare? props ts
      | .mappingBlock :: rest =>
        if block then
          (blockEntries? handles fuel rest).map fun (entries, rest) =>
            (.mapping props entries, rest)
        else bare? props ts
      | _ => bare? props ts

/-- A node, left out if one of the tokens comes next. -/
def readUnless? (handles : Tag.Handles) : (fuel : Nat) → (block indentless : Bool) →
    (stops : List Token) → List Token → Step (Node String)
  | 0, _, _, _, _ => none
  | fuel + 1, block, indentless, stops, ts =>
    if comes stops ts then some (absent, ts) else read? handles fuel block indentless ts

/-- The value of an entry, left out if there is no mark for it or one of the tokens follows. -/
def value? (handles : Tag.Handles) : (fuel : Nat) → (block : Bool) → (stops : List Token) →
    List Token → Step (Node String)
  | 0, _, _, _ => none
  | fuel + 1, block, stops, .value :: rest => readUnless? handles fuel block block stops rest
  | _ + 1, _, _, ts => some (absent, ts)

def blockItems? (handles : Tag.Handles) : (fuel : Nat) → List Token → Step (List (Node String))
  | 0, _ => none
  | fuel + 1, .item :: rest =>
    (readUnless? handles fuel true false [.item, .blockEnd] rest).bind fun (item, rest) =>
      (blockItems? handles fuel rest).map fun (items, rest) => (item :: items, rest)
  | _ + 1, .blockEnd :: rest => some ([], rest)
  | _ + 1, _ => none

/-- Items of a sequence that stands at the column of the mapping around. -/
def looseItems? (handles : Tag.Handles) : (fuel : Nat) → List Token → Step (List (Node String))
  | 0, _ => none
  | fuel + 1, .item :: rest =>
    (readUnless? handles fuel true false [.item, .key, .value, .blockEnd] rest).bind
      fun (item, rest) =>
        (looseItems? handles fuel rest).map fun (items, rest) => (item :: items, rest)
  | _ + 1, ts => some ([], ts)

def blockEntries? (handles : Tag.Handles) : (fuel : Nat) → List Token →
    Step (List (Node String × Node String))
  | 0, _ => none
  | fuel + 1, .key :: rest =>
    (readUnless? handles fuel true true [.key, .value, .blockEnd] rest).bind fun (key, rest) =>
      (value? handles fuel true [.key, .value, .blockEnd] rest).bind fun (value, rest) =>
        (blockEntries? handles fuel rest).map fun (entries, rest) => ((key, value) :: entries, rest)
  | _ + 1, .blockEnd :: rest => some ([], rest)
  | _ + 1, _ => none

def flowItems? (handles : Tag.Handles) : (fuel : Nat) → (first : Bool) → List Token →
    Step (List (Node String))
  | 0, _, _ => none
  | _ + 1, _, .sequenceClose :: rest => some ([], rest)
  | fuel + 1, first, ts =>
    (afterComma? first ts).bind fun ts =>
      match ts with
      | .sequenceClose :: rest => some ([], rest)
      | .key :: rest =>
        (pair? handles fuel rest).bind fun (pair, rest) =>
          (flowItems? handles fuel false rest).map fun (items, rest) =>
            (.mapping ⟨none, none⟩ [pair] :: items, rest)
      | ts =>
        (read? handles fuel false false ts).bind fun (item, rest) =>
          (flowItems? handles fuel false rest).map fun (items, rest) => (item :: items, rest)

/-- A key with its value within square brackets. -/
def pair? (handles : Tag.Handles) : (fuel : Nat) → List Token → Step (Node String × Node String)
  | 0, _ => none
  | fuel + 1, ts =>
    (if comes [.value, .comma, .sequenceClose] ts then some (absent, ts.tail)
     else read? handles fuel false false ts).bind fun (key, rest) =>
      (value? handles fuel false [.comma, .sequenceClose] rest).map fun (value, rest) =>
        ((key, value), rest)

def flowEntries? (handles : Tag.Handles) : (fuel : Nat) → (first : Bool) → List Token →
    Step (List (Node String × Node String))
  | 0, _, _ => none
  | _ + 1, _, .mappingClose :: rest => some ([], rest)
  | fuel + 1, first, ts =>
    (afterComma? first ts).bind fun ts =>
      match ts with
      | .mappingClose :: rest => some ([], rest)
      | .key :: rest =>
        (readUnless? handles fuel false false [.value, .comma, .mappingClose] rest).bind
          fun (key, rest) =>
            (value? handles fuel false [.comma, .mappingClose] rest).bind fun (value, rest) =>
              (flowEntries? handles fuel false rest).map fun (entries, rest) =>
                ((key, value) :: entries, rest)
      | ts =>
        (read? handles fuel false false ts).bind fun (key, rest) =>
          (flowEntries? handles fuel false rest).map fun (entries, rest) =>
            ((key, absent) :: entries, rest)

end

/-! ### Documents -/

/-- The declarations at the head of a document: at most one version, and each handle once. -/
def directives? : (version : Bool) → Tag.Handles → List Token → Step Tag.Handles
  | version, handles, .version :: rest =>
    if version then none else directives? true handles rest
  | version, handles, .handle handle start :: rest =>
    if (handles.lookup handle).isSome then none
    else directives? version (handles ++ [(handle, start)]) rest
  | _, handles, ts => some (handles, ts)

/-- Nothing follows the document but marks of its end. -/
def finish? (step : Step (Node String)) : Option (Node String) :=
  step.bind fun (node, rest) =>
    if rest.dropWhile (· = .documentEnd) = [.textEnd] then some node else none

/-- A node takes at most two steps for each token, and a last one. -/
def fuel (ts : List Token) : Nat := 4 * ts.length + 4

def startsDocument : Token → Bool
  | .version | .handle _ _ | .documentStart | .textEnd => true
  | _ => false

/-- What ends a document that holds nothing. -/
def endsDocument : Token → Bool
  | .documentEnd => true
  | t => startsDocument t

/-- The only document of a text. A text without a document holds an empty node. -/
def ofTokens? (ts : List Token) : Option (Node String) :=
  if ts = [.textEnd] then some absent
  else if ts.head?.any startsDocument then
    (directives? false [] ts).bind fun (handles, ts) =>
      match ts with
      | .documentStart :: rest =>
        finish? <|
          if rest.head?.any endsDocument then some (absent, rest)
          else read? (handles ++ Tag.standardHandles) (fuel ts) true false rest
      | _ => none
  else finish? (read? Tag.standardHandles (fuel ts) true false ts)

end Node

end ApiTypes.Yaml
