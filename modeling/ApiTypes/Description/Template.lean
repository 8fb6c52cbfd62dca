import ApiTypes.Text.Piece

/-!
Path templates.

A placeholder of a template is the text between a brace `{` and the next `}`, if there is any
text. An empty pair of braces and a brace that is never closed are ordinary text.
-/

namespace ApiTypes.Template

/-- The placeholder names; the first argument holds the name being read since the last opening
brace. -/
def placeholdersFrom : Option (List Char) → List Char → List String
  | _, [] => []
  | none, c :: rest => placeholdersFrom (if c = '{' then some [] else none) rest
  | some name, c :: rest =>
    if c = '}' then
      match name with
      | [] => placeholdersFrom none rest
      | name => String.ofList name :: placeholdersFrom none rest
    else placeholdersFrom (some (name ++ [c])) rest

/-- The names of the placeholders, from left to right. -/
def placeholders (path : String) : List String := placeholdersFrom none path.toList

/-- The template with `:name` for each placeholder. A brace that opens none is copied, and the
search goes on right behind it. -/
def colons (cs : List Char) : List Char :=
  match _hopen : Text.cut? '{' cs with
  | none => cs
  | some (front, after) =>
    match _hclose : Text.cut? '}' after with
    | some (c :: name, rest) => front ++ ':' :: c :: name ++ colons rest
    | _ => front ++ '{' :: colons after
termination_by cs.length
decreasing_by
  · exact Nat.lt_trans (Text.length_lt_of_cut? _hclose) (Text.length_lt_of_cut? _hopen)
  · exact Text.length_lt_of_cut? _hopen

/-- The path with each placeholder `{name}` written `:name`. -/
def colonPath (path : String) : String := String.ofList (colons path.toList)

end ApiTypes.Template
