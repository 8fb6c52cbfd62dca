import ApiTypes.Json.Pointer
import ApiTypes.Schema.Kind
import ApiTypes.TypeExpr.Basic
import ApiTypes.TypeExpr.Name

/-!
The type of the values that a schema describes.

A reference becomes the name of its last segment, a choice a union, `allOf` an intersection, and
an enumeration the union of its values as literals. Properties that are not required are optional
members. A schema that is absent or null says nothing; one that no rule knows allows anything.
-/

namespace ApiTypes.Schema

/-- The type name of a reference: its last segment, unescaped and made a name. -/
def referenceName (reference : String) : String :=
  match (Text.split '/' reference.toList).getLast? with
  | none => "unknown"
  | some [] => "unknown"
  | some segment => TypeName.sanitize (Json.unescapeToken segment)

def Primitive.keyword : Primitive → String
  | .string => "string"
  | .number => "number"
  | .integer => "number"
  | .boolean => "boolean"
  | .null => "null"

/-! ### Schemas inside a schema are smaller -/

theorem sizeOf_lt_of_lookup {entries : List (String × Json)} {key : String} {value : Json}
    (h : entries.lookup key = some value) : sizeOf value < sizeOf entries := by
  induction entries with
  | nil => simp at h
  | cons entry rest ih =>
    obtain ⟨k, v⟩ := entry
    rw [List.lookup_cons] at h
    split at h
    · cases h
      simp only [List.cons.sizeOf_spec, Prod.mk.sizeOf_spec]
      omega
    · have := ih h
      simp only [List.cons.sizeOf_spec]
      omega

theorem sizeOf_lt_of_get? {schema value : Json} {key : String}
    (h : schema.get? key = some value) : sizeOf value < sizeOf schema := by
  cases schema with
  | object entries =>
    have := sizeOf_lt_of_lookup (show entries.lookup key = some value from h)
    simp only [Json.object.sizeOf_spec]
    omega
  | _ => simp [Json.get?] at h

theorem sizeOf_lt_of_list? {schema member : Json} {key : String} {members : List Json}
    (h : list? key schema = some members) (hm : member ∈ members) :
    sizeOf member < sizeOf schema := by
  obtain ⟨value, hget, hval⟩ := Option.bind_eq_some_iff.mp h
  have hsize := sizeOf_lt_of_get? hget
  have hmem := List.sizeOf_lt_of_mem hm
  cases value with
  | array items =>
    cases hval
    simp only [Json.array.sizeOf_spec] at hsize
    omega
  | _ => simp [Json.array?] at hval

theorem sizeOf_lt_of_table? {schema : Json} {key : String} {entries : List (String × Json)}
    {entry : String × Json} (h : table? key schema = some entries) (hm : entry ∈ entries) :
    sizeOf entry.2 < sizeOf schema := by
  obtain ⟨value, hget, hval⟩ := Option.bind_eq_some_iff.mp h
  have hsize := sizeOf_lt_of_get? hget
  have hmem := List.sizeOf_lt_of_mem hm
  obtain ⟨k, v⟩ := entry
  cases value with
  | object es =>
    cases hval
    simp only [Json.object.sizeOf_spec] at hsize
    simp only [Prod.mk.sizeOf_spec] at hmem
    simp only
    omega
  | _ => simp [Json.object?] at hval

/-- The schemas that a kind holds. -/
inductive Kind.Holds : Kind → Json → Prop where
  | oneOf {members : List Json} {s : Json} : s ∈ members → Holds (.oneOf members) s
  | anyOf {members : List Json} {s : Json} : s ∈ members → Holds (.anyOf members) s
  | allOf {members : List Json} {s : Json} : s ∈ members → Holds (.allOf members) s
  | property {properties : List (String × Json)} {required : List String} {entry : String × Json} :
      entry ∈ properties → Holds (.object (some properties) required) entry.2
  | items {s : Json} : Holds (.arrayOf (some s)) s

theorem holds_of_kindOfType {schema s : Json} {type : Option String}
    (h : (kindOfType schema type).Holds s) : schema.get? "items" = some s := by
  unfold kindOfType at h
  split at h
  case h_1 =>
    cases hi : schema.get? "items" with
    | none => rw [hi] at h; cases h
    | some t => rw [hi] at h; cases h; rfl
  all_goals cases h

theorem sizeOf_lt_of_holds {schema s : Json} (h : (kind schema).Holds s) :
    sizeOf s < sizeOf schema := by
  unfold kind at h
  split at h
  · cases h
  · split at h
    · cases h with
      | oneOf hm => exact sizeOf_lt_of_list? (by assumption) hm
    · split at h
      · cases h with
        | anyOf hm => exact sizeOf_lt_of_list? (by assumption) hm
      · split at h
        · cases h with
          | allOf hm => exact sizeOf_lt_of_list? (by assumption) hm
        · split at h
          · cases h
          · unfold kindOfShape at h
            simp only at h
            split at h
            · generalize hp : table? "properties" schema = properties at h
              cases h with
              | property hm => exact sizeOf_lt_of_table? hp hm
            · exact sizeOf_lt_of_get? (holds_of_kindOfType h)

/-! ### The type -/

/-- A member for a property, optional unless its name is required. -/
def propertyMember (required : List String) (name : String) (type : TypeExpr) : Member TypeExpr :=
  if name ∈ required then .field name type else .optionalField name type

/-- The type of a schema, given the types of the schemas inside it. -/
def typeOfKind (kind : Kind) (inner : (s : Json) → kind.Holds s → TypeExpr) : TypeExpr :=
  match kind with
  | .reference text => .literal (referenceName text)
  | .oneOf members => .union (members.attach.map fun ⟨m, hm⟩ => inner m (.oneOf hm))
  | .anyOf members => .union (members.attach.map fun ⟨m, hm⟩ => inner m (.anyOf hm))
  | .allOf members => .intersection (members.attach.map fun ⟨m, hm⟩ => inner m (.allOf hm))
  | .enumeration values => .union (values.map fun v => .literal v.compact)
  | .object none _ => .objectOf .inline []
  | .object (some properties) required =>
    .objectOf .inline <| properties.attach.map fun ⟨entry, he⟩ =>
      propertyMember required entry.1 (inner entry.2 (.property he))
  | .arrayOf none => .array .unknown
  | .arrayOf (some items) => .array (inner items .items)
  | .primitive type => .literal type.keyword
  | .unknown => .any

def toType (schema : Json) : TypeExpr :=
  match schema with
  | .null => .unknown
  | schema => typeOfKind (kind schema) fun s _ => toType s
termination_by sizeOf schema
decreasing_by exact sizeOf_lt_of_holds (by assumption)

/-- The type of a schema that may be absent. -/
def toType? : Option Json → TypeExpr
  | none => .unknown
  | some schema => toType schema

end ApiTypes.Schema
