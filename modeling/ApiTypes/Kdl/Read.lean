import ApiTypes.Kdl.Number

/-!
From text to KDL nodes.

A node ends with its line, at a semicolon, at a comment or where the block around it ends. A slash
and a hyphen take the next node, entry or block of children away.
-/

namespace ApiTypes.Kdl

/-- Skips the name of a type in parentheses. -/
def skipType? (cs : List Char) : Option (List Char) :=
  match cs with
  | '(' :: rest =>
    (nodeSpace? rest).bind fun rest =>
      (string? rest).bind fun (_, rest) =>
        (nodeSpace? rest).bind fun rest =>
          match rest with
          | ')' :: rest => nodeSpace? rest
          | _ => none
  | cs => some cs

/-- A value that is no string. -/
def otherValue? (cs : List Char) : Step Value :=
  match cs with
  | '#' :: rest =>
    let word := rest.takeWhile isIdentifierChar
    (keyword? (String.ofList word)).map fun value => (value, rest.drop word.length)
  | cs =>
    let word := cs.takeWhile isIdentifierChar
    if looksNumeric word then (number? word).map fun value => (value, cs.drop word.length)
    else none

def value? (cs : List Char) : Step Value :=
  (skipType? cs).bind fun cs =>
    match otherValue? cs with
    | some found => some found
    | none => (string? cs).map fun (text, rest) => (.string text, rest)

/-- The value of a property, if an equals sign follows its name. -/
def propertyValue? (cs : List Char) : Option (Step Value) :=
  match nodeSpace? cs with
  | some ('=' :: rest) => some ((nodeSpace? rest).bind value?)
  | _ => none

/-- A property or an argument. -/
def item? (cs : List Char) : Step Entry :=
  match string? cs with
  | some (name, rest) =>
    match propertyValue? rest with
    | some value => value.map fun (value, rest) => (⟨some name, value⟩, rest)
    | none => some (⟨none, .string name⟩, rest)
  | none => (value? cs).map fun (value, rest) => (⟨none, value⟩, rest)

/-- What is taken away starts here. -/
def slashDash? : List Char → Option (List Char)
  | '/' :: '-' :: rest => lineSpace? rest
  | _ => none

def opensBlock (cs : List Char) : Bool := cs.head? = some '\x7b'

/-- The entries of a node, up to its children or its end. Space stands before each. -/
def entries? : (limit : Nat) → List Char → Step (List Entry)
  | 0, cs => some ([], cs)
  | limit + 1, cs =>
    (nodeSpace? cs).bind fun next =>
      if next.length = cs.length then some ([], cs)
      else
        match slashDash? next with
        | some hidden =>
          if opensBlock hidden then some ([], cs)
          else (item? hidden).bind fun (_, rest) => entries? limit rest
        | none =>
          match next with
          | '/' :: _ => some ([], cs)
          | _ =>
            match item? next with
            | some (entry, rest) =>
              (entries? limit rest).map fun (entries, rest) => (entry :: entries, rest)
            | none => some ([], cs)

/-- The end of a node: nothing more, a semicolon or the end of the line. The end of the block
around stays. -/
def terminator? (cs : List Char) : Option (List Char) :=
  (nodeSpace? cs).bind fun cs =>
    match cs with
    | [] => some []
    | ';' :: rest => some rest
    | '\x7d' :: rest => some ('\x7d' :: rest)
    | '/' :: '/' :: rest => some (skipLine rest)
    | cs => newline? cs

mutual

/-- The nodes up to the end of the block or the text. -/
def nodes? : (fuel : Nat) → List Char → Step (List Node)
  | 0, _ => none
  | fuel + 1, cs =>
    (lineSpace? cs).bind fun cs =>
      match cs with
      | [] => some ([], [])
      | '\x7d' :: rest => some ([], '\x7d' :: rest)
      | cs =>
        match slashDash? cs with
        | some hidden => (node? fuel hidden).bind fun (_, rest) => nodes? fuel rest
        | none =>
          (node? fuel cs).bind fun (node, rest) =>
            (nodes? fuel rest).map fun (nodes, rest) => (node :: nodes, rest)

def node? : (fuel : Nat) → List Char → Step Node
  | 0, _ => none
  | fuel + 1, cs =>
    (skipType? cs).bind fun cs =>
      (string? cs).bind fun (name, rest) =>
        (entries? rest.length rest).bind fun (entries, rest) =>
          (children? fuel false rest).bind fun (children, rest) =>
            (terminator? rest).map fun rest => (.mk name entries children, rest)

/-- The block of children among those that are taken away. There is one at most. -/
def children? : (fuel : Nat) → (found : Bool) → List Char → Step (Option (List Node))
  | 0, _, _ => none
  | fuel + 1, found, cs =>
    (nodeSpace? cs).bind fun next =>
      match slashDash? next with
      | some hidden =>
        (block? fuel hidden).bind fun (_, rest) => children? fuel found rest
      | none =>
        if opensBlock next && !found then
          (block? fuel next).bind fun (nodes, rest) =>
            (children? fuel true rest).map fun (_, rest) => (some nodes, rest)
        else some (none, cs)

def block? : (fuel : Nat) → List Char → Step (List Node)
  | 0, _ => none
  | fuel + 1, cs =>
    match cs with
    | '\x7b' :: rest =>
      (nodes? fuel rest).bind fun (nodes, rest) =>
        match rest with
        | '\x7d' :: rest => some (nodes, rest)
        | _ => none
    | _ => none

end

/-- A mark of byte order may stand at the very start. -/
def dropMark : List Char → List Char
  | c :: rest => if c.toNat = 0xFEFF then rest else c :: rest
  | [] => []

/-- The nodes of a text. -/
def parse? (text : String) : Option (List Node) :=
  let cs := dropMark text.toList
  match nodes? (4 * cs.length + 4) cs with
  | some (nodes, []) => some nodes
  | _ => none

end ApiTypes.Kdl
