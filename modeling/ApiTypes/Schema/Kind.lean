import ApiTypes.Json.Basic

/-!
What a schema says, by the first rule that applies to it.

A reference comes first, then `oneOf`, `anyOf`, `allOf` and `enum`; a schema with `properties` is
an object schema whatever its `type`.
-/

namespace ApiTypes.Schema

inductive Primitive where
  | string
  | number
  | integer
  | boolean
  | null
deriving DecidableEq, Repr, Inhabited

inductive Kind where
  | reference (text : String)
  | oneOf (members : List Json)
  | anyOf (members : List Json)
  | allOf (members : List Json)
  | enumeration (values : List Json)
  | object (properties : Option (List (String × Json))) (required : List String)
  | arrayOf (items : Option Json)
  | primitive (type : Primitive)
  | unknown
deriving Repr, Inhabited

/-- An entry that holds a string. -/
def text? (key : String) (schema : Json) : Option String := (schema.get? key).bind Json.string?

/-- An entry that holds an array. -/
def list? (key : String) (schema : Json) : Option (List Json) :=
  (schema.get? key).bind Json.array?

/-- An entry that holds an object. -/
def table? (key : String) (schema : Json) : Option (List (String × Json)) :=
  (schema.get? key).bind Json.object?

/-- The names listed under `required`. -/
def requiredNames (schema : Json) : List String :=
  ((list? "required" schema).getD []).filterMap Json.string?

/-- The kind of a schema that only its `type` tells. -/
def kindOfType (schema : Json) : Option String → Kind
  | some "array" => .arrayOf (schema.get? "items")
  | some "string" => .primitive .string
  | some "number" => .primitive .number
  | some "integer" => .primitive .integer
  | some "boolean" => .primitive .boolean
  | some "null" => .primitive .null
  | _ => .unknown

def kindOfShape (schema : Json) : Kind :=
  let type := text? "type" schema
  let properties := table? "properties" schema
  if type = some "object" ∨ properties.isSome then .object properties (requiredNames schema)
  else kindOfType schema type

/-- The first rule that applies. -/
def kind (schema : Json) : Kind :=
  match text? "$ref" schema with
  | some text => .reference text
  | none =>
    match list? "oneOf" schema with
    | some members => .oneOf members
    | none =>
      match list? "anyOf" schema with
      | some members => .anyOf members
      | none =>
        match list? "allOf" schema with
        | some members => .allOf members
        | none =>
          match list? "enum" schema with
          | some values => .enumeration values
          | none => kindOfShape schema

end ApiTypes.Schema
