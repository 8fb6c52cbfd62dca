import ApiTypes.Proofs.Json.Printer
import ApiTypes.Proofs.Keyed
import ApiTypes.Proofs.Schema.Meaning
import Mathlib.Logic.Relation

/-!
Every value valid against a schema belongs to the type of the schema.

The type looks at the first rule that applies and leaves the other keywords out. As every keyword
only narrows a schema, what it leaves out makes the type larger. The names it gives to references
are neither words of types nor texts of values, so the three kinds of literals cannot be taken for
each other.
-/

namespace ApiTypes

/-! ### Literals -/

lemma TypeName.isTypeName_eq_false {text : String} {c : Char} {rest : List Char}
    (ht : text.toList = c :: rest) (hc : c.isDigit = true ∨ isPart c = false) :
    isTypeName text = false := by
  rw [Bool.eq_false_iff]
  intro h
  obtain ⟨⟨d, tail, hd, hdigit⟩, hparts, -⟩ := isTypeName_iff.mp h
  rw [ht] at hd
  cases hd
  rcases hc with hc | hc
  · rw [hc] at hdigit
    cases hdigit
  · rw [hparts c (by simp [ht])] at hc
    cases hc

/-- No text of a value is a type name. -/
lemma Json.isTypeName_compact (json : Json) : TypeName.isTypeName json.compact = false := by
  obtain ⟨c, rest, h, hc⟩ := json.exists_compact_cons
  cases json with
  | null => decide +kernel
  | bool b => cases b <;> decide +kernel
  | number n =>
    rcases hc with rfl | hdigit
    · exact TypeName.isTypeName_eq_false h (Or.inr (by decide +kernel))
    · exact TypeName.isTypeName_eq_false h (Or.inl hdigit)
  | string s =>
    cases hc
    exact TypeName.isTypeName_eq_false h (Or.inr (by decide +kernel))
  | array items =>
    cases hc
    exact TypeName.isTypeName_eq_false h (Or.inr (by decide +kernel))
  | object entries =>
    cases hc
    exact TypeName.isTypeName_eq_false h (Or.inr (by decide +kernel))

namespace TypeExpr

variable {named : String → Json → Prop}

/-- The words that types have of their own. -/
def keywords : List String :=
  ["any", "unknown", "never", "null", "boolean", "string", "number", "\x7b\x7d"]

lemma mem_keywords {text : String} {holds : Json → Prop} (h : keyword? text = some holds) :
    text ∈ keywords := by
  unfold keyword? at h
  split at h
  case h_9 => cases h
  all_goals simp [keywords]

lemma isTypeName_of_mem_keywords :
    ∀ text ∈ keywords, TypeName.isTypeName text = false := by
  decide +kernel

lemma head_of_mem_keywords :
    ∀ text ∈ keywords, text.toList.head? ∈ ['a', 'u', 'n', 'b', 's', '{'].map some := by
  decide +kernel

lemma eq_of_brace_of_mem_keywords :
    ∀ text ∈ keywords, text.toList.head? = some '{' → text = "\x7b\x7d" := by
  decide +kernel

/-- A type name means what it is taken to mean. -/
lemma literalHolds_of_isTypeName {text : String} {v : Json}
    (h : TypeName.isTypeName text = true) : LiteralHolds named text v ↔ named text v := by
  unfold LiteralHolds
  split
  · next holds hk =>
    rw [isTypeName_of_mem_keywords text (mem_keywords hk)] at h
    cases h
  · rw [if_pos h]

/-- Where the text of a value is a word, the value is of that type. -/
lemma holds_of_same {w v : Json} {holds : Json → Prop} (hk : keyword? w.compact = some holds)
    (hs : Json.Same w v) : holds v := by
  have hmem := mem_keywords hk
  have hhead := head_of_mem_keywords _ hmem
  obtain ⟨c, rest, h, hc⟩ := w.exists_compact_cons
  rw [h, List.head?_cons] at hhead
  cases hs with
  | null =>
    cases hk
    rfl
  | @bool b =>
    cases b <;> cases hk
  | number _ =>
    rcases hc with rfl | hdigit
    · simp at hhead
    · simp only [List.map_cons, List.map_nil, List.mem_cons, Option.some.injEq,
        List.not_mem_nil, or_false] at hhead
      rcases hhead with rfl | rfl | rfl | rfl | rfl | rfl <;> cases hdigit
  | string =>
    cases hc
    simp at hhead
  | array _ _ =>
    cases hc
    simp at hhead
  | object _ _ =>
    cases hc
    have hbrace := eq_of_brace_of_mem_keywords _ hmem (by rw [h, List.head?_cons])
    rw [hbrace] at hk
    cases hk
    exact ⟨_, rfl⟩

/-- A literal that is the text of a value means the values equal to it. -/
lemma literalHolds_compact {w v : Json} (hs : Json.Same w v) : LiteralHolds named w.compact v := by
  unfold LiteralHolds
  split
  · next holds hk => exact holds_of_same hk hs
  · rw [if_neg (by simp [Json.isTypeName_compact])]
    exact ⟨w, rfl, hs⟩

end TypeExpr

namespace Schema

open TypeExpr

variable {named : String → Json → Prop}

lemma referenceName_cases (reference : String) :
    referenceName reference = "unknown" ∨
      TypeName.isTypeName (referenceName reference) = true := by
  unfold referenceName
  split
  · exact Or.inl rfl
  · exact Or.inl rfl
  · exact Or.inr (TypeName.isTypeName_sanitize _)

lemma literalHolds_referenceName {reference : String} {v : Json}
    (h : named (referenceName reference) v) : LiteralHolds named (referenceName reference) v := by
  rcases referenceName_cases reference with hunknown | hname
  · rw [hunknown]
    trivial
  · exact (literalHolds_of_isTypeName hname).mpr h

/-- The word under `type` for a primitive type. -/
def Primitive.word : Primitive → String
  | .string => "string"
  | .number => "number"
  | .integer => "integer"
  | .boolean => "boolean"
  | .null => "null"

lemma literalHolds_keyword {type : Primitive} {v : Json} (h : HasType type.word v) :
    LiteralHolds named type.keyword v := by
  cases type with
  | integer =>
    obtain ⟨n, rfl, -⟩ := h
    exact ⟨n, rfl⟩
  | _ => exact h

/-! ### Rules -/

/-- What a schema must have for a rule to give its kind. -/
inductive Rule (schema : Json) : Kind → Prop where
  | reference {text : String} : text? "$ref" schema = some text → Rule schema (.reference text)
  | oneOf {members : List Json} :
      list? "oneOf" schema = some members → Rule schema (.oneOf members)
  | anyOf {members : List Json} :
      list? "anyOf" schema = some members → Rule schema (.anyOf members)
  | allOf {members : List Json} :
      list? "allOf" schema = some members → Rule schema (.allOf members)
  | enumeration {values : List Json} :
      list? "enum" schema = some values → Rule schema (.enumeration values)
  | object :
      text? "type" schema = some "object" ∨ (table? "properties" schema).isSome = true →
      Rule schema (.object (table? "properties" schema) (requiredNames schema))
  | arrayOf :
      text? "type" schema = some "array" → Rule schema (.arrayOf (schema.get? "items"))
  | primitive {type : Primitive} :
      text? "type" schema = some type.word → Rule schema (.primitive type)
  | unknown : Rule schema .unknown

lemma rule_kindOfType (schema : Json) : Rule schema (kindOfType schema (text? "type" schema)) := by
  generalize ht : text? "type" schema = type
  unfold kindOfType
  split
  · exact .arrayOf ht
  · exact @Rule.primitive schema .string ht
  · exact @Rule.primitive schema .number ht
  · exact @Rule.primitive schema .integer ht
  · exact @Rule.primitive schema .boolean ht
  · exact @Rule.primitive schema .null ht
  · exact .unknown

lemma rule_kind (schema : Json) : Rule schema (kind schema) := by
  unfold kind
  split
  · next h => exact .reference h
  · split
    · next h => exact .oneOf h
    · split
      · next h => exact .anyOf h
      · split
        · next h => exact .allOf h
        · split
          · next h => exact .enumeration h
          · unfold kindOfShape
            simp only
            split
            · next h => exact .object h
            · exact rule_kindOfType schema

lemma toType_null : toType .null = .unknown := by rw [toType]

lemma toType_eq {schema : Json} (h : schema ≠ .null) :
    toType schema = typeOfKind (kind schema) fun s _ => toType s := by
  cases schema with
  | null => exact absurd rfl h
  | _ => rw [toType]; simp

lemma toType_of_kind {schema : Json} {k : Kind} (h : schema ≠ .null) (hk : kind schema = k) :
    toType schema = typeOfKind k fun s _ => toType s := by
  subst hk
  exact toType_eq h

lemma toType_of_properties {schema : Json} {properties : List (String × Json)}
    {required : List String} (hk : kind schema = .object (some properties) required) :
    toType schema = .objectOf .inline (properties.map fun e =>
      propertyMember required e.1 (toType e.2)) := by
  have h : schema ≠ .null := by
    rintro rfl
    cases hk
  rw [toType_of_kind h hk]
  simp only [typeOfKind, List.map_attach_eq_pmap, List.pmap_eq_map]

/-! ### What types are made of -/

lemma type_propertyMember (required : List String) (name : String) (type : TypeExpr) :
    (propertyMember required name type).type = type := by
  unfold propertyMember
  split <;> rfl

/-- One rule, where the motive holds of the types of the schemas inside. -/
lemma typeOfKind_induction {motive : TypeExpr → Prop}
    (reference : ∀ text, motive (.literal (referenceName text)))
    (value : ∀ json : Json, motive (.literal json.compact))
    (keyword : ∀ type : Primitive, motive (.literal type.keyword))
    (unknown : motive .unknown) (any : motive .any)
    (union : ∀ members, (∀ m ∈ members, motive m) → motive (.union members))
    (intersection : ∀ members, (∀ m ∈ members, motive m) → motive (.intersection members))
    (object : ∀ members, (∀ m ∈ members, motive m.type) → motive (.objectOf .inline members))
    (array : ∀ item, motive item → motive (.array item))
    {kind : Kind} {inner : (s : Json) → kind.Holds s → TypeExpr}
    (h : ∀ s hs, motive (inner s hs)) : motive (typeOfKind kind inner) := by
  cases kind with
  | reference text => exact reference text
  | oneOf members => exact union _ (List.forall_mem_map.mpr fun _ _ => h _ _)
  | anyOf members => exact union _ (List.forall_mem_map.mpr fun _ _ => h _ _)
  | allOf members => exact intersection _ (List.forall_mem_map.mpr fun _ _ => h _ _)
  | enumeration values => exact union _ (List.forall_mem_map.mpr fun json _ => value json)
  | object properties required =>
    cases properties with
    | none => exact object [] (List.forall_mem_nil _)
    | some properties =>
      refine object _ (List.forall_mem_map.mpr fun entry _ => ?_)
      rw [type_propertyMember]
      exact h _ _
  | arrayOf items =>
    cases items with
    | none => exact array _ unknown
    | some items => exact array _ (h _ _)
  | primitive type => exact keyword type
  | unknown => exact any

/-- Types of schemas are names, values and keywords put together to unions, intersections, inline
objects and arrays. -/
theorem toType_induction {motive : TypeExpr → Prop}
    (reference : ∀ text, motive (.literal (referenceName text)))
    (value : ∀ json : Json, motive (.literal json.compact))
    (keyword : ∀ type : Primitive, motive (.literal type.keyword))
    (unknown : motive .unknown) (any : motive .any)
    (union : ∀ members, (∀ m ∈ members, motive m) → motive (.union members))
    (intersection : ∀ members, (∀ m ∈ members, motive m) → motive (.intersection members))
    (object : ∀ members, (∀ m ∈ members, motive m.type) → motive (.objectOf .inline members))
    (array : ∀ item, motive item → motive (.array item)) (schema : Json) :
    motive (toType schema) := by
  -- The schemas inside are smaller than the schema, so induction is on the size.
  induction hsize : sizeOf schema using Nat.strongRecOn generalizing schema with
  | ind size ih =>
    subst hsize
    by_cases hnull : schema = .null
    · rw [hnull, toType_null]
      exact unknown
    · rw [toType_eq hnull]
      exact typeOfKind_induction reference value keyword unknown any union intersection object array
        fun s hs => ih _ (sizeOf_lt_of_holds hs) s rfl

/-! ### Members -/

lemma mem_requiredNames {schema : Json} {name : String} :
    name ∈ requiredNames schema ↔
      ∃ names, list? "required" schema = some names ∧ Json.string name ∈ names := by
  have hstring : ∀ json : Json, json.string? = some name ↔ json = .string name := by
    intro json
    cases json <;> simp [Json.string?]
  rw [requiredNames, List.mem_filterMap]
  simp only [hstring]
  cases list? "required" schema <;> simp

/-- A property that has its type where it is present, and is present where it is required. -/
lemma hasMember_propertyMember {required : List String} {name : String} {type : TypeExpr}
    {entries : List (String × Json)} :
    HasMember named (propertyMember required name type) entries ↔
      (∀ x, entries.lookup name = some x → Belongs named type x) ∧
        (name ∈ required → (entries.lookup name).isSome = true) := by
  unfold propertyMember
  cases hl : entries.lookup name with
  | some x => split <;> simp [Member.field, Member.optionalField, HasMember, hl]
  | none =>
    split
    · next hname => simp [Member.field, HasMember, hl, hname]
    · next hname => simp [Member.optionalField, HasMember, hl, hname]

/-! ### The theorem -/

/-- Every object schema with properties that gives the type some part says that it is one. -/
def ObjectsTyped (schema : Json) : Prop :=
  ∀ s, Relation.ReflTransGen (fun a b => (kind a).Holds b) schema s →
    ∀ properties required, kind s = .object (some properties) required →
      text? "type" s = some "object"

lemma ObjectsTyped.inner {schema s : Json} (h : ObjectsTyped schema) (hs : (kind schema).Holds s) :
    ObjectsTyped s :=
  fun t ht => h t (.head hs ht)

/-- The object type of properties, for an object that meets the schema with them. -/
lemma belongs_objectOf {schema : Json} {properties entries : List (String × Json)}
    (hm : Meets named (Valid named) schema (.object entries))
    (hp : table? "properties" schema = some properties)
    (inner : ∀ p ∈ properties, ∀ x, Valid named p.2 x → Belongs named (toType p.2) x) :
    Belongs named (.objectOf .inline (properties.map fun p =>
      propertyMember (requiredNames schema) p.1 (toType p.2))) (.object entries) := by
  refine ⟨entries, rfl, hasMembers_iff.mpr fun m hmember => ?_⟩
  obtain ⟨p, hmem, rfl⟩ := List.mem_map.mp (Keyed.mem_of_mem_gather hmember)
  refine hasMember_propertyMember.mpr ⟨fun x hx => ?_, fun hname => ?_⟩
  · exact inner p hmem x (hm.properties _ hp entries rfl p hmem x hx)
  · obtain ⟨names, hnames, hlisted⟩ := mem_requiredNames.mp hname
    exact hm.required names hnames entries rfl p.1 hlisted

/-- One rule: the type of a schema, where the types of the schemas inside are known to be sound. -/
lemma belongs_typeOfKind {schema v : Json} (hm : Meets named (Valid named) schema v)
    (hobject : ∀ properties required, kind schema = .object (some properties) required →
      text? "type" schema = some "object")
    (inner : ∀ s x, (kind schema).Holds s → Valid named s x → Belongs named (toType s) x) :
    Belongs named (typeOfKind (kind schema) fun s _ => toType s) v := by
  have hrule := rule_kind schema
  generalize kind schema = k at *
  cases hrule with
  | reference h => exact literalHolds_referenceName (hm.reference _ h)
  | oneOf h =>
    obtain ⟨i, s, hs, hv, -⟩ := hm.oneOf _ h
    have hmem := List.mem_of_getElem? hs
    simp only [typeOfKind, List.map_attach_eq_pmap, List.pmap_eq_map]
    exact belongsToSome_iff.mpr ⟨toType s, List.mem_map_of_mem hmem, inner s v (.oneOf hmem) hv⟩
  | anyOf h =>
    obtain ⟨s, hmem, hv⟩ := hm.anyOf _ h
    simp only [typeOfKind, List.map_attach_eq_pmap, List.pmap_eq_map]
    exact belongsToSome_iff.mpr ⟨toType s, List.mem_map_of_mem hmem, inner s v (.anyOf hmem) hv⟩
  | allOf h =>
    simp only [typeOfKind, List.map_attach_eq_pmap, List.pmap_eq_map]
    refine belongsToAll_iff.mpr fun t ht => ?_
    obtain ⟨s, hmem, rfl⟩ := List.mem_map.mp ht
    exact inner s v (.allOf hmem) (hm.allOf _ h s hmem)
  | enumeration h =>
    obtain ⟨w, hmem, hsame⟩ := hm.enumeration _ h
    refine belongsToSome_iff.mpr ⟨.literal w.compact, ?_, literalHolds_compact hsame⟩
    exact List.mem_map.mpr ⟨w, hmem, rfl⟩
  | object h =>
    have htype : text? "type" schema = some "object" := by
      rcases h with h | h
      · exact h
      · obtain ⟨properties, hp⟩ := Option.isSome_iff_exists.mp h
        exact hobject properties _ (by rw [hp])
    obtain ⟨entries, rfl⟩ := hm.type _ htype
    cases hp : table? "properties" schema with
    | none => exact ⟨entries, rfl, trivial⟩
    | some properties =>
      simp only [typeOfKind, List.map_attach_eq_pmap, List.pmap_eq_map]
      rw [hp] at inner
      exact belongs_objectOf hm hp fun p hmem x => inner p.2 x (.property hmem)
  | arrayOf h =>
    obtain ⟨items, rfl⟩ := hm.type _ h
    cases hi : schema.get? "items" with
    | none => exact ⟨items, rfl, fun x _ => trivial⟩
    | some s =>
      rw [hi] at inner
      exact ⟨items, rfl, fun x hx => inner s x .items (hm.items s hi items rfl x hx)⟩
  | primitive h => exact literalHolds_keyword (hm.type _ h)
  | unknown => trivial

/-- **Soundness.** Whatever the names mean, a value that is valid against a schema belongs to the
type of the schema. -/
theorem belongs_of_valid (named : String → Json → Prop) (schema v : Json)
    (hobjects : ObjectsTyped schema) (hv : Valid named schema v) :
    Belongs named (toType schema) v := by
  -- The schemas a kind holds are smaller than the schema, so induction is on the size.
  induction hsize : sizeOf schema using Nat.strongRecOn generalizing schema v with
  | ind size ih =>
    subst hsize
    have inner : ∀ s x, (kind schema).Holds s → Valid named s x → Belongs named (toType s) x :=
      fun s x hs hx => ih _ (sizeOf_lt_of_holds hs) s x (hobjects.inner hs) hx rfl
    cases schema with
    | null =>
      rw [toType_null]
      trivial
    | bool b =>
      rw [toType_eq (by simp)]
      trivial
    | _ =>
      rw [toType_eq (by simp)]
      rw [valid_iff (by simp)] at hv
      exact belongs_typeOfKind hv (hobjects _ .refl) inner

/-- An object with a required number and an optional reference. -/
def sampleSchema : Json :=
  .object [("type", .string "object"),
    ("properties", .object [("id", .object [("type", .string "integer")]),
      ("owner", .object [("$ref", .string "#/components/schemas/User")])]),
    ("required", .array [.string "id"])]

def sampleValue : Json :=
  .object [("owner", .string "ann"), ("id", .number (.int 5)), ("more", .null)]

def sampleNames (name : String) (v : Json) : Prop := name = "User" ∧ v = .string "ann"

lemma objectsTyped_of_inner {schema : Json}
    (hself : ∀ properties required, kind schema = .object (some properties) required →
      text? "type" schema = some "object")
    (hinner : ∀ s, (kind schema).Holds s → ObjectsTyped s) : ObjectsTyped schema := by
  intro s hs
  rcases hs.cases_head with rfl | ⟨t, ht, hts⟩
  · exact hself
  · exact hinner t ht s hts

lemma objectsTyped_sample : ObjectsTyped sampleSchema := by
  refine objectsTyped_of_inner (fun _ _ _ => rfl) fun s hs => ?_
  cases hs with
  | property hmem =>
    simp only [List.mem_cons, List.not_mem_nil, or_false] at hmem
    rcases hmem with rfl | rfl
    · exact objectsTyped_of_inner nofun nofun
    · exact objectsTyped_of_inner nofun nofun

lemma valid_sample : Valid sampleNames sampleSchema sampleValue := by
  have hid : Valid sampleNames (.object [("type", .string "integer")]) (.number (.int 5)) := by
    refine (valid_iff (by simp)).mpr ?_
    constructor <;> simp [text?, list?, table?, Json.get?, Json.string?, Json.array?, HasType,
      List.lookup_cons, Number.value]
    rfl
  have howner : Valid sampleNames (.object [("$ref", .string "#/components/schemas/User")])
      (.string "ann") := by
    refine (valid_iff (by simp)).mpr ?_
    constructor <;> simp [text?, list?, table?, Json.get?, Json.string?, List.lookup_cons]
    exact ⟨rfl, rfl⟩
  refine (valid_iff (by simp [sampleSchema])).mpr ?_
  constructor <;> simp [sampleSchema, sampleValue, text?, list?, table?, Json.get?, Json.string?,
    Json.array?, Json.object?, HasType, List.lookup_cons]
  rintro name property (⟨rfl, rfl⟩ | ⟨rfl, rfl⟩) x hx
  · cases hx
    exact hid
  · cases hx
    exact howner

theorem belongs_sample :
    ObjectsTyped sampleSchema ∧ Valid sampleNames sampleSchema sampleValue ∧
      Belongs sampleNames (toType sampleSchema) sampleValue :=
  ⟨objectsTyped_sample, valid_sample,
    belongs_of_valid sampleNames sampleSchema sampleValue objectsTyped_sample valid_sample⟩

end Schema

end ApiTypes
