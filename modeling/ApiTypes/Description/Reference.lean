import ApiTypes.Json.Pointer

/-!
Unfolding internal references.

An object with a string `$ref` is a reference. One whose text starts with `#` is internal, and what
follows is a pointer into the description. Unfolding replaces every internal reference by its
unfolded target, and leaves in place those that point at the node being unfolded or at something
around it, so that unfolding ends. A pointer that names nothing is an error.
-/

namespace ApiTypes.Reference

/-- The text of a reference object's `$ref`. -/
def textOf? (entries : List (String × Json)) : Option String :=
  (entries.lookup "$ref").bind Json.string?

/-- The pointer of an internal reference. -/
def pointer? (text : String) : Option String :=
  match text.toList with
  | '#' :: rest => some (String.ofList rest)
  | _ => none

/-- What follows the first text in the second. -/
def rest? : List Char → List Char → Option (List Char)
  | [], cs => some cs
  | _ :: _, [] => none
  | p :: ps, c :: cs => if p = c then rest? ps cs else none

/-- Whether a pointer names a location or something around it. -/
def encloses (pointer location : String) : Bool :=
  match rest? pointer.toList location.toList with
  | some [] => true
  | some (c :: _) => c == '/'
  | none => false

mutual

/-- The texts of all reference objects, wherever they stand. -/
def texts : Json → List String
  | .array items => textsOfItems items
  | .object entries => (textOf? entries).toList ++ textsOfEntries entries
  | _ => []

def textsOfItems : List Json → List String
  | [] => []
  | item :: rest => texts item ++ textsOfItems rest

def textsOfEntries : List (String × Json) → List String
  | [] => []
  | (_, value) :: rest => texts value ++ textsOfEntries rest

end

/-- The distinct pointers of the internal references. -/
def pointers (root : Json) : List String := ((texts root).filterMap pointer?).eraseDups

/-- A reference whose pointer names nothing. -/
structure Dangling where
  text : String
deriving DecidableEq, Repr, Inhabited

/-- The location of an entry inside the object at a location. -/
def entryLocation (location key : String) : String := location ++ "/" ++ Json.escapeToken key

def itemLocation (location : String) (index : Nat) : String := location ++ "/" ++ index.repr

mutual

/-- Rebuilds the value at a location, with `expand` deciding what becomes of each reference object,
given the object, its text and its location. -/
def rebuild (expand : Json → String → String → Except Dangling Json) (location : String) :
    Json → Except Dangling Json
  | .array items => (rebuildItems expand location 0 items).map .array
  | .object entries =>
    match textOf? entries with
    | some text => expand (.object entries) text location
    | none => (rebuildEntries expand location entries).map .object
  | value => .ok value

def rebuildItems (expand : Json → String → String → Except Dangling Json) (location : String) :
    Nat → List Json → Except Dangling (List Json)
  | _, [] => .ok []
  | index, item :: rest =>
    match rebuild expand (itemLocation location index) item with
    | .error e => .error e
    | .ok x => (rebuildItems expand location (index + 1) rest).map (x :: ·)

def rebuildEntries (expand : Json → String → String → Except Dangling Json)
    (location : String) : List (String × Json) → Except Dangling (List (String × Json))
  | [] => .ok []
  | (key, value) :: rest =>
    match rebuild expand (entryLocation location key) value with
    | .error e => .error e
    | .ok x => (rebuildEntries expand location rest).map ((key, x) :: ·)

end

/-- What becomes of a reference object. `opened` holds the locations of the references being
unfolded, innermost first. `depth` more may be opened: on the way down no pointer is opened twice,
so the number of pointers is enough. -/
def expand (root : Json) :
    (depth : Nat) → (opened : List String) → Json → String → String → Except Dangling Json
  | depth, opened, node, text, location =>
    match pointer? text with
    | none => .ok node
    | some pointer =>
      if (location :: opened).any (encloses pointer) then .ok node
      else
        match root.lookup? pointer with
        | none => .error ⟨text⟩
        | some target =>
          match depth with
          | 0 => .ok node
          | depth + 1 => rebuild (expand root depth (location :: opened)) pointer target

/-- The description with its internal references unfolded. -/
def unfold (root : Json) : Except Dangling Json :=
  rebuild (expand root (pointers root).length []) "" root

end ApiTypes.Reference
