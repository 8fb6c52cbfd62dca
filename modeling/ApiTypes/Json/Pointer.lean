import ApiTypes.Json.Basic
import ApiTypes.Text.Piece

/-!
Pointers into a JSON value.

A pointer is empty, naming the whole value, or a slash before each of its tokens. In a token `~1`
stands for a slash and `~0` for a tilde. A token names an entry of an object, or an item of an
array by its index without leading zeros.
-/

namespace ApiTypes.Json

def escapeChar (c : Char) : List Char :=
  if c = '~' then ['~', '0'] else if c = '/' then ['~', '1'] else [c]

/-- A key written as one token. -/
def escapeToken (key : String) : String := String.ofList (key.toList.flatMap escapeChar)

def unescape : List Char → List Char
  | [] => []
  | '~' :: '0' :: rest => '~' :: unescape rest
  | '~' :: '1' :: rest => '/' :: unescape rest
  | c :: rest => c :: unescape rest

/-- The key a token stands for. -/
def unescapeToken (token : List Char) : String := String.ofList (unescape token)

/-- The index a token stands for, if it is a number without leading zeros. -/
def tokenIndex? (token : String) : Option Nat :=
  match token.toList with
  | '0' :: _ :: _ => none
  | cs => Text.ofDigits? 10 cs

/-- The child that a token names. -/
def child? (token : String) : Json → Option Json
  | .object entries => entries.lookup token
  | .array items => (tokenIndex? token).bind (items[·]?)
  | _ => none

/-- Follows the keys from the outermost inwards. -/
def descend? : List String → Json → Option Json
  | [], json => some json
  | token :: rest, json => (child? token json).bind (descend? rest)

/-- The keys of a pointer text, or nothing if it neither is empty nor starts with a slash. -/
def pointerKeys? (pointer : String) : Option (List String) :=
  match pointer.toList with
  | [] => some []
  | '/' :: rest => some ((Text.split '/' rest).map unescapeToken)
  | _ => none

/-- The part of a value that a pointer names. -/
def lookup? (json : Json) (pointer : String) : Option Json :=
  (pointerKeys? pointer).bind fun keys => descend? keys json

end ApiTypes.Json
