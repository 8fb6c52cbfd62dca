import ApiTypes.Schema.Type
import ApiTypes.Proofs.TypeExpr.Name
import Mathlib.Data.Rat.Defs

/-!
What schemas and type expressions mean.

A schema means the values that are valid against it: every keyword it has must hold, each on its
own, and a keyword whose value has the wrong shape asks nothing. A type expression means the values
that have its shape. Both take the meaning of names from outside, as one predicate for each name: a
reference means what the name of its type means.
-/

namespace ApiTypes

/-! ### Values that are the same -/

/-- The number as a ratio. -/
def Number.value : Number → Rat
  | .int n => n
  | .real d => mkRat (if d.negative then -(d.ratio.1 : Int) else d.ratio.1) d.ratio.2

/-- Equality of JSON values: numbers by value, objects without regard to order. -/
inductive Json.Same : Json → Json → Prop where
  | null : Same .null .null
  | bool {b : Bool} : Same (.bool b) (.bool b)
  | number {m n : Number} : m.value = n.value → Same (.number m) (.number n)
  | string {s : String} : Same (.string s) (.string s)
  | array {xs ys : List Json} :
      xs.length = ys.length →
      (∀ (i : Nat) x y, xs[i]? = some x → ys[i]? = some y → Same x y) →
      Same (.array xs) (.array ys)
  | object {es fs : List (String × Json)} :
      (∀ key, (es.lookup key).isSome = (fs.lookup key).isSome) →
      (∀ key x y, es.lookup key = some x → fs.lookup key = some y → Same x y) →
      Same (.object es) (.object fs)

namespace Schema

/-! ### Valid values -/

/-- The values a type word allows; a word that is no type allows all. -/
def HasType (word : String) (v : Json) : Prop :=
  match word with
  | "null" => v = .null
  | "boolean" => ∃ b, v = .bool b
  | "string" => ∃ s, v = .string s
  | "number" => ∃ n, v = .number n
  | "integer" => ∃ n : Number, v = .number n ∧ n.value.isInt = true
  | "array" => ∃ items, v = .array items
  | "object" => ∃ entries, v = .object entries
  | _ => True

/-- What the keywords of a schema ask of a value, where `valid` is validity against the schemas
inside. -/
structure Meets (named : String → Json → Prop) (valid : Json → Json → Prop)
    (schema v : Json) : Prop where
  reference : ∀ text, text? "$ref" schema = some text → named (referenceName text) v
  oneOf : ∀ members, list? "oneOf" schema = some members →
    ∃ (i : Nat) (s : Json), members[i]? = some s ∧ valid s v ∧
      ∀ (j : Nat) (t : Json), members[j]? = some t → valid t v → j = i
  anyOf : ∀ members, list? "anyOf" schema = some members → ∃ s ∈ members, valid s v
  allOf : ∀ members, list? "allOf" schema = some members → ∀ s ∈ members, valid s v
  enumeration : ∀ values, list? "enum" schema = some values → ∃ w ∈ values, Json.Same w v
  type : ∀ word, text? "type" schema = some word → HasType word v
  types : ∀ words, list? "type" schema = some words →
    ∃ word, Json.string word ∈ words ∧ HasType word v
  properties : ∀ properties, table? "properties" schema = some properties →
    ∀ entries, v = .object entries → ∀ p ∈ properties, ∀ x,
      entries.lookup p.1 = some x → valid p.2 x
  required : ∀ names, list? "required" schema = some names →
    ∀ entries, v = .object entries → ∀ name, Json.string name ∈ names →
      (entries.lookup name).isSome = true
  items : ∀ s, schema.get? "items" = some s →
    ∀ items, v = .array items → ∀ x ∈ items, valid s x

/-- The values valid against a schema. The schemas inside a schema are smaller than it. -/
def Valid (named : String → Json → Prop) (schema v : Json) : Prop :=
  match schema with
  | .bool allowed => allowed = true
  | schema => Meets named (fun s x => ∃ _ : sizeOf s < sizeOf schema, Valid named s x) schema v
termination_by sizeOf schema

variable {named : String → Json → Prop} {schema v : Json}

lemma Meets.imp {valid valid' : Json → Json → Prop}
    (h : ∀ s x, sizeOf s < sizeOf schema → (valid s x ↔ valid' s x))
    (hm : Meets named valid schema v) : Meets named valid' schema v where
  reference := hm.reference
  oneOf := by
    intro members hms
    obtain ⟨i, s, hs, hv, huniq⟩ := hm.oneOf members hms
    refine ⟨i, s, hs, ?_, fun j t ht hvt => huniq j t ht ?_⟩
    · exact (h s v (sizeOf_lt_of_list? hms (List.mem_of_getElem? hs))).mp hv
    · exact (h t v (sizeOf_lt_of_list? hms (List.mem_of_getElem? ht))).mpr hvt
  anyOf := by
    intro members hms
    obtain ⟨s, hs, hv⟩ := hm.anyOf members hms
    exact ⟨s, hs, (h s v (sizeOf_lt_of_list? hms hs)).mp hv⟩
  allOf := fun members hms s hs =>
    (h s v (sizeOf_lt_of_list? hms hs)).mp (hm.allOf members hms s hs)
  enumeration := hm.enumeration
  type := hm.type
  types := hm.types
  properties := fun properties hps entries he p hp x hx =>
    (h p.2 x (sizeOf_lt_of_table? hps hp)).mp (hm.properties properties hps entries he p hp x hx)
  required := hm.required
  items := fun s hs items hi x hx =>
    (h s x (sizeOf_lt_of_get? hs)).mp (hm.items s hs items hi x hx)

lemma meets_congr {valid valid' : Json → Json → Prop}
    (h : ∀ s x, sizeOf s < sizeOf schema → (valid s x ↔ valid' s x)) :
    Meets named valid schema v ↔ Meets named valid' schema v :=
  ⟨Meets.imp h, Meets.imp fun s x hs => (h s x hs).symm⟩

/-- Validity against a schema that is no truth value, by its keywords. -/
lemma valid_iff (hb : ∀ allowed, schema ≠ .bool allowed) :
    Valid named schema v ↔ Meets named (Valid named) schema v := by
  have hguard : Meets named (fun s x => ∃ _ : sizeOf s < sizeOf schema, Valid named s x) schema v ↔
      Meets named (Valid named) schema v :=
    meets_congr fun s x hs => ⟨fun ⟨_, hv⟩ => hv, fun hv => ⟨hs, hv⟩⟩
  rw [← hguard]
  cases schema with
  | bool allowed => exact absurd rfl (hb allowed)
  | _ => rw [Valid]; simp

end Schema

namespace TypeExpr

/-! ### Values of a type -/

/-- The values of a type that has a word of its own. -/
def keyword? (text : String) : Option (Json → Prop) :=
  match text with
  | "any" => some fun _ => True
  | "unknown" => some fun _ => True
  | "never" => some fun _ => False
  | "null" => some (Schema.HasType "null")
  | "boolean" => some (Schema.HasType "boolean")
  | "string" => some (Schema.HasType "string")
  | "number" => some (Schema.HasType "number")
  | "\x7b\x7d" => some (Schema.HasType "object")
  | _ => none

/-- The values of a literal: those of a word, those of a named type, or else the values whose text
it is. -/
def LiteralHolds (named : String → Json → Prop) (text : String) (v : Json) : Prop :=
  match keyword? text with
  | some holds => holds v
  | none => if TypeName.isTypeName text then named text v else ∃ w, w.compact = text ∧ Json.Same w v

mutual

/-- The values of a type. No shape is known for generic types, so no value is promised to be one. -/
def Belongs (named : String → Json → Prop) : TypeExpr → Json → Prop
  | .literal text, v => LiteralHolds named text v
  | .object _ members, v => ∃ entries, v = .object entries ∧ HasMembers named members entries
  | .union members, v => BelongsToSome named members v
  | .intersection members, v => BelongsToAll named members v
  | .generic _ _, _ => False
  | .array item, v => ∃ items, v = .array items ∧ ∀ x ∈ items, Belongs named item x

def BelongsToSome (named : String → Json → Prop) : List TypeExpr → Json → Prop
  | [], _ => False
  | member :: rest, v => Belongs named member v ∨ BelongsToSome named rest v

def BelongsToAll (named : String → Json → Prop) : List TypeExpr → Json → Prop
  | [], _ => True
  | member :: rest, v => Belongs named member v ∧ BelongsToAll named rest v

def HasMembers (named : String → Json → Prop) :
    List (Member TypeExpr) → List (String × Json) → Prop
  | [], _ => True
  | member :: rest, entries => HasMember named member entries ∧ HasMembers named rest entries

/-- The entry under the key has the type; there may be none if the member is optional. -/
def HasMember (named : String → Json → Prop) : Member TypeExpr → List (String × Json) → Prop
  | ⟨key, optional, type⟩, entries =>
    match entries.lookup key.text with
    | some x => Belongs named type x
    | none => optional = true

end

variable {named : String → Json → Prop} {v : Json}

lemma belongsToSome_iff {members : List TypeExpr} :
    BelongsToSome named members v ↔ ∃ t ∈ members, Belongs named t v := by
  induction members with
  | nil => simp [BelongsToSome]
  | cons member rest ih => simp [BelongsToSome, ih]

lemma belongsToAll_iff {members : List TypeExpr} :
    BelongsToAll named members v ↔ ∀ t ∈ members, Belongs named t v := by
  induction members with
  | nil => simp [BelongsToAll]
  | cons member rest ih => simp [BelongsToAll, ih]

lemma hasMembers_iff {members : List (Member TypeExpr)} {entries : List (String × Json)} :
    HasMembers named members entries ↔ ∀ m ∈ members, HasMember named m entries := by
  induction members with
  | nil => simp [HasMembers]
  | cons member rest ih => simp [HasMembers, ih]

end TypeExpr

end ApiTypes
