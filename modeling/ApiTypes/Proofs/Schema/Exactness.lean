import ApiTypes.Proofs.Json.Atomic
import ApiTypes.Proofs.Json.Tree
import ApiTypes.Proofs.Schema.Soundness
import Mathlib.Tactic.MkIffOfInductiveProp

/-!
Where the type of a schema is exact.

The type follows one rule at every node and leaves the other keywords out. Where a node has the
keywords of one rule only, nothing is left out, and what the rule makes of them says the same as
they do: for each rule the keywords ask of a value what the type asks of it, given that this is so
for the schemas inside. Choices that must not overlap, integers, and enumerated values whose text
does not tell them are not among these rules.
-/

namespace ApiTypes

/-- A literal that is the text of an atomic value means the values equal to it and no others. -/
lemma TypeExpr.literalHolds_compact_iff {named : String → Json → Prop} {w v : Json}
    (hw : w.isAtomic = true) : LiteralHolds named w.compact v ↔ Json.Same w v := by
  refine ⟨fun h => ?_, literalHolds_compact⟩
  unfold LiteralHolds at h
  split at h
  · next holds hk =>
    -- of the words of types only one is the text of an atomic value
    have hhead := head_of_mem_keywords _ (mem_keywords hk)
    obtain ⟨c, rest, htext, hc⟩ := w.exists_compact_cons
    rw [htext, List.head?_cons] at hhead
    cases w with
    | null =>
      cases hk
      cases h
      exact .null
    | bool b => cases b <;> cases hk
    | number n =>
      rcases hc with rfl | hdigit
      · simp at hhead
      · simp only [List.map_cons, List.map_nil, List.mem_cons, Option.some.injEq,
          List.not_mem_nil, or_false] at hhead
        rcases hhead with rfl | rfl | rfl | rfl | rfl | rfl <;> cases hdigit
    | string s =>
      cases hc
      simp at hhead
    | array items => cases hw
    | object entries => cases hw
  · rw [if_neg (by simp [Json.isTypeName_compact])] at h
    obtain ⟨w', htext, hsame⟩ := h
    rwa [Json.eq_of_compact_eq hw htext] at hsame

namespace Schema

open TypeExpr

/-! ### Schemas of one rule at every node -/

/-- The keywords that the rules read. -/
def ruleKeywords : List String :=
  ["$ref", "oneOf", "anyOf", "allOf", "enum", "type", "properties", "required", "items"]

/-- The schema has no other keywords of the rules than these. -/
def HasOnly (schema : Json) (keys : List String) : Prop :=
  ∀ key ∈ ruleKeywords, key ∉ keys → schema.get? key = none

instance (schema : Json) (keys : List String) : Decidable (HasOnly schema keys) :=
  inferInstanceAs (Decidable (∀ key ∈ ruleKeywords, _))

/-- Every node has the keywords of one rule only, and the rule is one of those that lose nothing. -/
inductive SingleRule : Json → Prop where
  | reference {schema : Json} {text : String} : HasOnly schema ["$ref"] →
      schema.get? "$ref" = some (.string text) →
      (Text.split '/' text.toList).getLast? ≠ some [] → SingleRule schema
  | anyOf {schema : Json} {members : List Json} : HasOnly schema ["anyOf"] →
      schema.get? "anyOf" = some (.array members) → (∀ s ∈ members, SingleRule s) →
      SingleRule schema
  | allOf {schema : Json} {members : List Json} : HasOnly schema ["allOf"] →
      schema.get? "allOf" = some (.array members) → (∀ s ∈ members, SingleRule s) →
      SingleRule schema
  | enumeration {schema : Json} {values : List Json} : HasOnly schema ["enum"] →
      schema.get? "enum" = some (.array values) → (∀ w ∈ values, w.isAtomic = true) →
      SingleRule schema
  | object {schema : Json} {properties : List (String × Json)} :
      HasOnly schema ["type", "properties", "required"] →
      schema.get? "type" = some (.string "object") →
      schema.get? "properties" = some (.object properties) →
      (∀ name ∈ requiredNames schema, name ∈ properties.map Prod.fst) →
      (∀ p ∈ properties, SingleRule p.2) → SingleRule schema
  | array {schema : Json} : HasOnly schema ["type"] →
      schema.get? "type" = some (.string "array") → SingleRule schema
  | arrayOf {schema items : Json} : HasOnly schema ["type", "items"] →
      schema.get? "type" = some (.string "array") → schema.get? "items" = some items →
      SingleRule items → SingleRule schema
  | primitive {schema : Json} {type : Primitive} : HasOnly schema ["type"] →
      schema.get? "type" = some (.string type.word) → type ≠ .integer → SingleRule schema

/-! ### What the keywords of one rule ask -/

attribute [mk_iff] Meets

section

variable {named : String → Json → Prop} {valid : Json → Json → Prop} {schema v : Json}
  {members : List Json}

lemma meets_reference {text : String} (h : HasOnly schema ["$ref"])
    (hr : schema.get? "$ref" = some (.string text)) :
    Meets named valid schema v ↔ named (referenceName text) v := by
  simp only [HasOnly, ruleKeywords] at h
  simp [meets_iff, text?, list?, table?, h, hr, Json.string?]

lemma meets_anyOf (h : HasOnly schema ["anyOf"])
    (hm : schema.get? "anyOf" = some (.array members)) :
    Meets named valid schema v ↔ ∃ s ∈ members, valid s v := by
  simp only [HasOnly, ruleKeywords] at h
  simp [meets_iff, text?, list?, table?, h, hm, Json.array?]

lemma meets_allOf (h : HasOnly schema ["allOf"])
    (hm : schema.get? "allOf" = some (.array members)) :
    Meets named valid schema v ↔ ∀ s ∈ members, valid s v := by
  simp only [HasOnly, ruleKeywords] at h
  simp [meets_iff, text?, list?, table?, h, hm, Json.array?]

lemma meets_enumeration {values : List Json} (h : HasOnly schema ["enum"])
    (hv : schema.get? "enum" = some (.array values)) :
    Meets named valid schema v ↔ ∃ w ∈ values, Json.Same w v := by
  simp only [HasOnly, ruleKeywords] at h
  simp [meets_iff, text?, list?, table?, h, hv, Json.array?]

lemma meets_object {properties : List (String × Json)}
    (h : HasOnly schema ["type", "properties", "required"])
    (ht : schema.get? "type" = some (.string "object"))
    (hp : schema.get? "properties" = some (.object properties)) :
    Meets named valid schema v ↔ ∃ entries, v = .object entries ∧
      (∀ p ∈ properties, ∀ x, entries.lookup p.1 = some x → valid p.2 x) ∧
      ∀ name ∈ requiredNames schema, (entries.lookup name).isSome = true := by
  have htype : text? "type" schema = some "object" := by simp [text?, ht, Json.string?]
  have htable : table? "properties" schema = some properties := by simp [table?, hp, Json.object?]
  constructor
  · intro hm
    obtain ⟨entries, rfl⟩ := hm.type "object" htype
    refine ⟨entries, rfl, hm.properties properties htable entries rfl, fun name hname => ?_⟩
    obtain ⟨names, hnames, hlisted⟩ := mem_requiredNames.mp hname
    exact hm.required names hnames entries rfl name hlisted
  · rintro ⟨entries, rfl, hproperties, hrequired⟩
    simp only [HasOnly, ruleKeywords] at h
    constructor
    case type => simp [htype, HasType]
    case properties =>
      rintro _ hps _ ⟨⟩
      rw [htable] at hps
      cases hps
      exact hproperties
    case required =>
      rintro names hnames _ ⟨⟩ name hlisted
      exact hrequired name (mem_requiredNames.mpr ⟨names, hnames, hlisted⟩)
    all_goals simp [text?, list?, h, ht, Json.array?]

lemma meets_array (h : HasOnly schema ["type"])
    (ht : schema.get? "type" = some (.string "array")) :
    Meets named valid schema v ↔ ∃ items, v = .array items := by
  simp only [HasOnly, ruleKeywords] at h
  simp [meets_iff, text?, list?, table?, h, ht, Json.string?, Json.array?, HasType]

lemma meets_arrayOf {s : Json} (h : HasOnly schema ["type", "items"])
    (ht : schema.get? "type" = some (.string "array")) (hs : schema.get? "items" = some s) :
    Meets named valid schema v ↔ ∃ items, v = .array items ∧ ∀ x ∈ items, valid s x := by
  simp only [HasOnly, ruleKeywords] at h
  have hmeets : Meets named valid schema v ↔ (∃ items, v = .array items) ∧
      ∀ items, v = .array items → ∀ x ∈ items, valid s x := by
    simp [meets_iff, text?, list?, table?, h, ht, hs, Json.string?, Json.array?, HasType]
  rw [hmeets]
  constructor
  · rintro ⟨⟨items, rfl⟩, hall⟩
    exact ⟨items, rfl, hall items rfl⟩
  · rintro ⟨items, rfl, hall⟩
    refine ⟨⟨items, rfl⟩, ?_⟩
    rintro _ ⟨⟩
    exact hall

lemma meets_primitive {type : Primitive} (h : HasOnly schema ["type"])
    (ht : schema.get? "type" = some (.string type.word)) :
    Meets named valid schema v ↔ HasType type.word v := by
  simp only [HasOnly, ruleKeywords] at h
  simp [meets_iff, text?, list?, table?, h, ht, Json.string?, Json.array?]

end

/-! ### The rule that applies -/

section

variable {schema : Json} {members : List Json}

lemma kind_reference {text : String} (hr : schema.get? "$ref" = some (.string text)) :
    kind schema = .reference text := by
  simp [kind, text?, hr, Json.string?]

lemma kind_anyOf (h : HasOnly schema ["anyOf"])
    (hm : schema.get? "anyOf" = some (.array members)) : kind schema = .anyOf members := by
  simp only [HasOnly, ruleKeywords] at h
  simp [kind, text?, list?, h, hm, Json.array?]

lemma kind_allOf (h : HasOnly schema ["allOf"])
    (hm : schema.get? "allOf" = some (.array members)) : kind schema = .allOf members := by
  simp only [HasOnly, ruleKeywords] at h
  simp [kind, text?, list?, h, hm, Json.array?]

lemma kind_enumeration {values : List Json} (h : HasOnly schema ["enum"])
    (hv : schema.get? "enum" = some (.array values)) : kind schema = .enumeration values := by
  simp only [HasOnly, ruleKeywords] at h
  simp [kind, text?, list?, h, hv, Json.array?]

lemma kind_object {properties : List (String × Json)}
    (h : HasOnly schema ["type", "properties", "required"])
    (hp : schema.get? "properties" = some (.object properties)) :
    kind schema = .object (some properties) (requiredNames schema) := by
  simp only [HasOnly, ruleKeywords] at h
  simp [kind, kindOfShape, text?, list?, table?, h, hp, Json.object?]

lemma kind_array (h : HasOnly schema ["type"])
    (ht : schema.get? "type" = some (.string "array")) : kind schema = .arrayOf none := by
  simp only [HasOnly, ruleKeywords] at h
  simp [kind, kindOfShape, kindOfType, text?, list?, table?, h, ht, Json.string?]

lemma kind_arrayOf {items : Json} (h : HasOnly schema ["type", "items"])
    (ht : schema.get? "type" = some (.string "array")) (hi : schema.get? "items" = some items) :
    kind schema = .arrayOf (some items) := by
  simp only [HasOnly, ruleKeywords] at h
  simp [kind, kindOfShape, kindOfType, text?, list?, table?, h, ht, hi, Json.string?]

/-- A type other than that of objects and arrays stands under its own word. -/
lemma kind_primitive {type : Primitive} (h : HasOnly schema ["type"])
    (ht : schema.get? "type" = some (.string type.word)) : kind schema = .primitive type := by
  simp only [HasOnly, ruleKeywords] at h
  cases type <;>
    simp [kind, kindOfShape, kindOfType, text?, list?, table?, h, ht, Primitive.word, Json.string?]

lemma isTypeName_referenceName {text : String}
    (h : (Text.split '/' text.toList).getLast? ≠ some []) :
    TypeName.isTypeName (referenceName text) = true := by
  unfold referenceName
  split
  · next hnone =>
    rw [List.getLast?_eq_none_iff] at hnone
    exact absurd hnone (Text.split_ne_nil _ _)
  · next hempty => exact absurd hempty h
  · exact TypeName.isTypeName_sanitize _

end

/-! ### The schemas inside -/

lemma distinct_of_get? {schema value : Json} {key : String} (hd : schema.Distinct)
    (h : schema.get? key = some value) : value.Distinct := by
  cases schema with
  | object entries => exact (Json.everyObject_object_iff.mp hd).2 _ (Keyed.mem_of_lookup h)
  | _ => simp [Json.get?] at h

lemma distinct_of_mem {schema s : Json} {key : String} {members : List Json}
    (hd : schema.Distinct) (h : schema.get? key = some (.array members)) (hs : s ∈ members) :
    s.Distinct :=
  Json.everyObject_array_iff.mp (distinct_of_get? hd h) s hs

lemma distinct_of_property {schema : Json} {properties : List (String × Json)}
    {p : String × Json} (hd : schema.Distinct)
    (h : schema.get? "properties" = some (.object properties)) (hp : p ∈ properties) :
    p.2.Distinct :=
  (Json.everyObject_object_iff.mp (distinct_of_get? hd h)).2 p hp

/-- The properties of an object schema become its members, one for one and in their order. -/
lemma toType_object {schema : Json} {properties : List (String × Json)} (hd : schema.Distinct)
    (h : HasOnly schema ["type", "properties", "required"])
    (hp : schema.get? "properties" = some (.object properties)) :
    toType schema = .object .inline (properties.map fun p =>
      propertyMember (requiredNames schema) p.1 (toType p.2)) := by
  have hnodup : (properties.map Prod.fst).Nodup :=
    (Json.everyObject_object_iff.mp (distinct_of_get? hd hp)).1
  rw [toType_of_properties (kind_object h hp), objectOf, Keyed.gather_of_nodup]
  rw [List.map_map]
  convert hnodup using 2
  funext p
  simp only [Function.comp_apply, propertyMember]
  split <;> rfl

/-- A schema of one rule and the schemas that give its type some part are of one rule each, and
in none of them a key stands twice. -/
lemma SingleRule.holds {schema s : Json} (h : SingleRule schema) (hd : schema.Distinct)
    (hs : (kind schema).Holds s) : SingleRule s ∧ s.Distinct := by
  cases h with
  | reference h hr _ =>
    rw [kind_reference hr] at hs
    cases hs
  | anyOf h hm hmembers =>
    rw [kind_anyOf h hm] at hs
    cases hs with
    | anyOf hmem => exact ⟨hmembers s hmem, distinct_of_mem hd hm hmem⟩
  | allOf h hm hmembers =>
    rw [kind_allOf h hm] at hs
    cases hs with
    | allOf hmem => exact ⟨hmembers s hmem, distinct_of_mem hd hm hmem⟩
  | enumeration h hv _ =>
    rw [kind_enumeration h hv] at hs
    cases hs
  | object h _ hp _ hproperties =>
    rw [kind_object h hp] at hs
    cases hs with
    | property hmem => exact ⟨hproperties _ hmem, distinct_of_property hd hp hmem⟩
  | array h ht =>
    rw [kind_array h ht] at hs
    cases hs
  | arrayOf h ht hi hitems =>
    rw [kind_arrayOf h ht hi] at hs
    cases hs
    exact ⟨hitems, distinct_of_get? hd hi⟩
  | primitive h ht _ =>
    rw [kind_primitive h ht] at hs
    cases hs

/-! ### The theorem -/

section

variable {named : String → Json → Prop} {schema v : Json}

lemma toType_of_get? {k : Kind} {key : String} {value : Json}
    (h : schema.get? key = some value) (hk : kind schema = k) :
    toType schema = typeOfKind k fun s _ => toType s := by
  refine toType_of_kind ?_ hk
  rintro rfl
  cases h

lemma valid_iff_of_get? {key : String} {value : Json} (h : schema.get? key = some value) :
    Valid named schema v ↔ Meets named (Valid named) schema v := by
  refine valid_iff ?_
  rintro allowed rfl
  cases h

lemma literalHolds_keyword_iff {type : Primitive} (h : type ≠ .integer) :
    LiteralHolds named type.keyword v ↔ HasType type.word v := by
  cases type with
  | integer => exact absurd rfl h
  | _ => rfl

/-- An object has the members of the properties exactly where every property that is there has its
type and every required one is there. -/
lemma belongs_object_iff {properties : List (String × Json)} {required : List String}
    (hrequired : ∀ name ∈ required, name ∈ properties.map Prod.fst)
    (inner : ∀ p ∈ properties, ∀ x, Belongs named (toType p.2) x ↔ Valid named p.2 x) :
    Belongs named (.object .inline (properties.map fun p =>
        propertyMember required p.1 (toType p.2))) v ↔
      ∃ entries, v = .object entries ∧
        (∀ p ∈ properties, ∀ x, entries.lookup p.1 = some x → Valid named p.2 x) ∧
        ∀ name ∈ required, (entries.lookup name).isSome = true := by
  simp only [Belongs, hasMembers_iff, List.forall_mem_map, hasMember_propertyMember]
  refine exists_congr fun entries => and_congr_right fun _ => ?_
  constructor
  · refine fun h => ⟨fun p hp x hx => (inner p hp x).mp ((h p hp).1 x hx), fun name hname => ?_⟩
    obtain ⟨p, hp, rfl⟩ := List.mem_map.mp (hrequired name hname)
    exact (h p hp).2 hname
  · rintro ⟨hproperties, hnames⟩ p hp
    exact ⟨fun x hx => (inner p hp x).mpr (hproperties p hp x hx), hnames p.1⟩

/-- One case for each rule: the type is what the rule makes of the types inside, and the keywords
of the rule ask the same of a value. -/
lemma SingleRule.belongs_iff (h : SingleRule schema) (hd : schema.Distinct) :
    Belongs named (toType schema) v ↔ Valid named schema v := by
  induction h generalizing v with
  | reference h hr hsegment =>
    rw [toType_of_get? hr (kind_reference hr), valid_iff_of_get? hr, meets_reference h hr]
    exact literalHolds_of_isTypeName (isTypeName_referenceName hsegment)
  | anyOf h hm _ ih =>
    rw [toType_of_get? hm (kind_anyOf h hm), valid_iff_of_get? hm, meets_anyOf h hm]
    simp only [typeOfKind, List.map_attach_eq_pmap, List.pmap_eq_map, Belongs, belongsToSome_iff,
      List.mem_map, exists_exists_and_eq_and]
    exact exists_congr fun s => and_congr_right fun hs => ih s hs (distinct_of_mem hd hm hs)
  | allOf h hm _ ih =>
    rw [toType_of_get? hm (kind_allOf h hm), valid_iff_of_get? hm, meets_allOf h hm]
    simp only [typeOfKind, List.map_attach_eq_pmap, List.pmap_eq_map, Belongs, belongsToAll_iff,
      List.forall_mem_map]
    exact forall₂_congr fun s hs => ih s hs (distinct_of_mem hd hm hs)
  | enumeration h hv hatomic =>
    rw [toType_of_get? hv (kind_enumeration h hv), valid_iff_of_get? hv, meets_enumeration h hv]
    simp only [typeOfKind, Belongs, belongsToSome_iff, List.mem_map, exists_exists_and_eq_and]
    exact exists_congr fun w => and_congr_right fun hw => literalHolds_compact_iff (hatomic w hw)
  | object h ht hp hrequired _ ih =>
    rw [toType_object hd h hp, valid_iff_of_get? hp, meets_object h ht hp]
    exact belongs_object_iff hrequired fun p hmem _ => ih p hmem (distinct_of_property hd hp hmem)
  | array h ht =>
    rw [toType_of_get? ht (kind_array h ht), valid_iff_of_get? ht, meets_array h ht]
    simp [typeOfKind, Belongs, LiteralHolds, TypeExpr.unknown, keyword?]
  | arrayOf h ht hi _ ih =>
    rw [toType_of_get? ht (kind_arrayOf h ht hi), valid_iff_of_get? ht, meets_arrayOf h ht hi]
    simp only [typeOfKind, Belongs, ih (distinct_of_get? hd hi)]
  | primitive h ht htype =>
    rw [toType_of_get? ht (kind_primitive h ht), valid_iff_of_get? ht, meets_primitive h ht]
    exact literalHolds_keyword_iff htype

/-- Among the schemas of one rule only those of objects have properties. -/
lemma SingleRule.toType_of_properties {properties : List (String × Json)} (h : SingleRule schema)
    (hd : schema.Distinct) (hp : schema.get? "properties" = some (.object properties)) :
    toType schema = .object .inline (properties.map fun p =>
      propertyMember (requiredNames schema) p.1 (toType p.2)) := by
  have hnone : ∀ keys, HasOnly schema keys → "properties" ∈ keys := by
    intro keys honly
    by_contra hmem
    rw [honly "properties" (by decide) hmem] at hp
    cases hp
  cases h
  case object => exact toType_object hd (by assumption) hp
  all_goals exact absurd (hnone _ ‹HasOnly schema _›) (by decide)

end

/-- **Exactness.** Where every node of a schema has the keywords of one rule only, the type of the
schema has the values that are valid against the schema and no others, whatever the names mean;
and at every depth the members of an object type stand in the order of the properties. -/
theorem belongs_iff_valid (named : String → Json → Prop) (schema : Json) (hd : schema.Distinct)
    (h : SingleRule schema) :
    (∀ v, Belongs named (toType schema) v ↔ Valid named schema v) ∧
      ∀ s, Relation.ReflTransGen (fun a b => (kind a).Holds b) schema s →
        ∀ properties, s.get? "properties" = some (.object properties) →
          toType s = .object .inline (properties.map fun p =>
            propertyMember (requiredNames s) p.1 (toType p.2)) := by
  have hinside : ∀ s, Relation.ReflTransGen (fun a b => (kind a).Holds b) schema s →
      SingleRule s ∧ s.Distinct := by
    intro s hs
    induction hs with
    | refl => exact ⟨h, hd⟩
    | tail _ hnext ih => exact ih.1.holds ih.2 hnext
  refine ⟨fun v => h.belongs_iff hd, fun s hs properties hp => ?_⟩
  exact (hinside s hs).1.toType_of_properties (hinside s hs).2 hp

/-- An object with an enumeration and a list of references or nulls. -/
def listedSchema : Json :=
  .object [("type", .string "object"),
    ("properties", .object [
      ("kind", .object [("enum", .array [.string "cat", .number (.int 3), .null])]),
      ("owners", .object [("type", .string "array"), ("items", .object [("anyOf", .array [
        .object [("$ref", .string "#/components/schemas/User")],
        .object [("type", .string "null")]])])])]),
    ("required", .array [.string "kind"])]

lemma singleRule_listedSchema : SingleRule listedSchema := by
  have howner : ∀ s ∈ [Json.object [("$ref", .string "#/components/schemas/User")],
      .object [("type", .string "null")]], SingleRule s := by
    simp only [List.forall_mem_cons, List.not_mem_nil, false_imp_iff, implies_true, and_true]
    exact ⟨.reference (by decide +kernel) rfl (by decide +kernel),
      @SingleRule.primitive _ .null (by decide +kernel) rfl (by decide)⟩
  refine .object (by decide +kernel) rfl rfl (by decide +kernel) ?_
  simp only [List.forall_mem_cons, List.not_mem_nil, false_imp_iff, implies_true, and_true]
  constructor
  · exact .enumeration (by decide +kernel) rfl (by decide)
  · exact .arrayOf (by decide +kernel) rfl rfl (.anyOf (by decide +kernel) rfl howner)

theorem belongs_iff_valid_listedSchema :
    listedSchema.Distinct ∧ SingleRule listedSchema ∧
      (∀ v, Belongs sampleNames (toType listedSchema) v ↔ Valid sampleNames listedSchema v) ∧
      ∃ members, toType listedSchema = .object .inline members ∧
        members.map Member.name = ["kind", "owners"] := by
  have hd : listedSchema.Distinct := by
    simp [listedSchema, Json.Distinct, Json.EveryObject, Json.EveryObjectOfItems,
      Json.EveryObjectOfEntries]
  obtain ⟨hiff, hmembers⟩ := belongs_iff_valid sampleNames listedSchema hd singleRule_listedSchema
  exact ⟨hd, singleRule_listedSchema, hiff, _, hmembers _ .refl _ rfl, by decide +kernel⟩

end Schema

end ApiTypes
