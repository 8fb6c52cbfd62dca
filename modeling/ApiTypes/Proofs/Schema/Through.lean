import ApiTypes.Proofs.List
import ApiTypes.Proofs.Schema.Positions
import ApiTypes.Proofs.Schema.Soundness
import Mathlib.Data.Option.Basic

/-!
The type of an unfolded schema is the type of the schema through its references.

A schema can be given a type without unfolding it: at an internal reference the type is that of the
schema the pointer names, and otherwise the rules for types apply. This is a relation, as following
references need not end. Where they end, both ways lead to the same type, as long as references
stand where schemas are expected: then unfolding keeps which rule applies to a schema, and changes
nothing that a rule reads but the schemas inside.
-/

namespace ApiTypes.Schema

open Json Relation
open Reference (textOf? pointer? texts Unfolds Outside Acyclic Resolvable)

/-! ### Types through references -/

/-- The type of a schema by the rules for types, but with internal references followed. -/
inductive TypeThrough (root : Json) : Json → TypeExpr → Prop where
  | null : TypeThrough root .null .unknown
  | follow {schema target : Json} {text pointer : String} {type : TypeExpr} :
      text? "$ref" schema = some text → pointer? text = some pointer →
      root.lookup? pointer = some target → TypeThrough root target type →
      TypeThrough root schema type
  | rule {schema : Json} {k : Kind} {inner : (s : Json) → k.Holds s → TypeExpr} :
      schema ≠ .null → (∀ text, text? "$ref" schema = some text → pointer? text = none) →
      kind schema = k → (∀ s h, TypeThrough root s (inner s h)) →
      TypeThrough root schema (typeOfKind k inner)

variable {root : Json}

lemma TypeThrough.unique {schema : Json} {type type' : TypeExpr}
    (h : TypeThrough root schema type) (h' : TypeThrough root schema type') : type' = type := by
  induction h generalizing type' with
  | null =>
    cases h' with
    | null => rfl
    | follow ht _ _ _ => cases ht
    | rule hne _ _ _ => exact absurd rfl hne
  | follow ht hp hl _ ih =>
    cases h' with
    | null => cases ht
    | follow ht' hp' hl' hrest =>
      obtain rfl := Option.some.inj (ht.symm.trans ht')
      obtain rfl := Option.some.inj (hp.symm.trans hp')
      obtain rfl := Option.some.inj (hl.symm.trans hl')
      exact ih hrest
    | rule _ hno _ _ =>
      rw [hno _ ht] at hp
      cases hp
  | rule hne hno hk _ ih =>
    cases h' with
    | null => exact absurd rfl hne
    | follow ht hp _ _ =>
      rw [hno _ ht] at hp
      cases hp
    | rule _ _ hk' hinner =>
      obtain rfl := hk.symm.trans hk'
      exact congrArg (typeOfKind _) (funext fun s => funext fun h => ih s h (hinner s h))

/-! ### Rules on two schemas -/

/-- Two kinds of the same rule, with related schemas inside and all else the same. -/
inductive Kind.Match (R : Json → Json → Prop) : Kind → Kind → Prop where
  | reference (text : String) : Match R (.reference text) (.reference text)
  | oneOf {members members' : List Json} :
      List.Forall₂ R members members' → Match R (.oneOf members) (.oneOf members')
  | anyOf {members members' : List Json} :
      List.Forall₂ R members members' → Match R (.anyOf members) (.anyOf members')
  | allOf {members members' : List Json} :
      List.Forall₂ R members members' → Match R (.allOf members) (.allOf members')
  | enumeration (values : List Json) : Match R (.enumeration values) (.enumeration values)
  | object {properties properties' : Option (List (String × Json))} (required : List String) :
      Option.Rel (List.Forall₂ fun e e' => e.1 = e'.1 ∧ R e.2 e'.2) properties properties' →
      Match R (.object properties required) (.object properties' required)
  | arrayOf {items items' : Option Json} :
      Option.Rel R items items' → Match R (.arrayOf items) (.arrayOf items')
  | primitive (type : Primitive) : Match R (.primitive type) (.primitive type)
  | unknown : Match R .unknown .unknown

/-- What the rules read is the same in both schemas, up to the schemas inside. -/
structure Alike (R : Json → Json → Prop) (schema schema' : Json) : Prop where
  reference : text? "$ref" schema' = text? "$ref" schema
  oneOf : Option.Rel (List.Forall₂ R) (list? "oneOf" schema) (list? "oneOf" schema')
  anyOf : Option.Rel (List.Forall₂ R) (list? "anyOf" schema) (list? "anyOf" schema')
  allOf : Option.Rel (List.Forall₂ R) (list? "allOf" schema) (list? "allOf" schema')
  enumeration : list? "enum" schema' = list? "enum" schema
  type : text? "type" schema' = text? "type" schema
  required : list? "required" schema' = list? "required" schema
  properties : Option.Rel (List.Forall₂ fun e e' => e.1 = e'.1 ∧ R e.2 e'.2)
    (table? "properties" schema) (table? "properties" schema')
  items : Option.Rel R (schema.get? "items") (schema'.get? "items")

variable {R : Json → Json → Prop}

lemma Alike.match_kindOfShape {schema schema' : Json} (h : Alike R schema schema') :
    Kind.Match R (kindOfShape schema) (kindOfShape schema') := by
  have hsome : (table? "properties" schema').isSome = (table? "properties" schema).isSome := by
    have hp := h.properties
    generalize table? "properties" schema = properties, table? "properties" schema' = properties'
      at hp ⊢
    cases hp <;> rfl
  have hrequired : requiredNames schema' = requiredNames schema := by
    rw [requiredNames, requiredNames, h.required]
  unfold kindOfShape
  simp only [h.type, hsome, hrequired]
  split
  · exact .object _ h.properties
  · unfold kindOfType
    split
    · exact .arrayOf h.items
    · exact .primitive _
    · exact .primitive _
    · exact .primitive _
    · exact .primitive _
    · exact .primitive _
    · exact .unknown

lemma Alike.match_kind {schema schema' : Json} (h : Alike R schema schema') :
    Kind.Match R (kind schema) (kind schema') := by
  obtain ⟨hreference, hone, hany, hall, henum, -, -, -, -⟩ := id h
  have hshape := h.match_kindOfShape
  unfold kind
  rw [hreference, henum]
  generalize list? "oneOf" schema = one, list? "oneOf" schema' = one' at hone ⊢
  generalize list? "anyOf" schema = any, list? "anyOf" schema' = any' at hany ⊢
  generalize list? "allOf" schema = all, list? "allOf" schema' = all' at hall ⊢
  -- the first entry that is there in one schema is the first in the other
  cases text? "$ref" schema with
  | some text => exact .reference text
  | none =>
  cases hone with
  | some hmembers => exact .oneOf hmembers
  | none =>
  cases hany with
  | some hmembers => exact .anyOf hmembers
  | none =>
  cases hall with
  | some hmembers => exact .allOf hmembers
  | none =>
  cases list? "enum" schema with
  | some values => exact .enumeration values
  | none => exact hshape

/-- Matching kinds have the same type, where related schemas have the same type. -/
lemma Kind.Match.typeOfKind_eq {k k' : Kind} (h : k.Match R k')
    {inner : (s : Json) → k.Holds s → TypeExpr} {type : Json → TypeExpr}
    (hinner : ∀ s hs s', R s s' → inner s hs = type s') :
    typeOfKind k inner = typeOfKind k' fun s _ => type s := by
  cases h with
  | reference text => rfl
  | oneOf hmembers =>
    simp only [typeOfKind, List.map_attach_eq_pmap, List.pmap_eq_map]
    rw [hmembers.pmap_eq_map fun s hs s' => hinner s (.oneOf hs) s']
  | anyOf hmembers =>
    simp only [typeOfKind, List.map_attach_eq_pmap, List.pmap_eq_map]
    rw [hmembers.pmap_eq_map fun s hs s' => hinner s (.anyOf hs) s']
  | allOf hmembers =>
    simp only [typeOfKind, List.map_attach_eq_pmap, List.pmap_eq_map]
    rw [hmembers.pmap_eq_map fun s hs s' => hinner s (.allOf hs) s']
  | enumeration values => rfl
  | object required hproperties =>
    cases hproperties with
    | none => rfl
    | some hentries =>
      simp only [typeOfKind, List.map_attach_eq_pmap, List.pmap_eq_map]
      rw [hentries.pmap_eq_map fun e he e' hsame => ?_]
      rw [hsame.1, hinner e.2 (.property he) e'.2 hsame.2]
  | arrayOf hitems =>
    cases hitems with
    | none => rfl
    | some hitems => simp only [typeOfKind, hinner _ .items _ hitems]
  | primitive type => rfl
  | unknown => rfl

lemma Kind.Match.exists_of_holds {k k' : Kind} (h : k.Match R k') {s : Json} (hs : k.Holds s) :
    ∃ s', R s s' := by
  cases hs with
  | oneOf hm => cases h with | oneOf hmembers => exact List.exists_forall₂_iff.mp ⟨_, hmembers⟩ _ hm
  | anyOf hm => cases h with | anyOf hmembers => exact List.exists_forall₂_iff.mp ⟨_, hmembers⟩ _ hm
  | allOf hm => cases h with | allOf hmembers => exact List.exists_forall₂_iff.mp ⟨_, hmembers⟩ _ hm
  | property he =>
    cases h with
    | object required hproperties =>
      cases hproperties with
      | some hentries =>
        obtain ⟨e', hsame⟩ := List.exists_forall₂_iff.mp ⟨_, hentries⟩ _ he
        exact ⟨e'.2, hsame.2⟩
  | items =>
    cases h with
    | arrayOf hitems => cases hitems with | some hitems => exact ⟨_, hitems⟩

/-- A schema that is no internal reference has through references the type of a schema like it,
where this is so of the schemas inside. -/
lemma typeThrough_of_alike {schema schema' : Json} (hne : schema ≠ .null) (hne' : schema' ≠ .null)
    (hno : ∀ text, text? "$ref" schema = some text → pointer? text = none)
    (h : Alike (fun s s' => TypeThrough root s (toType s')) schema schema') :
    TypeThrough root schema (toType schema') := by
  have hmatch := h.match_kind
  have hexists : ∀ s, (kind schema).Holds s → ∃ type, TypeThrough root s type := by
    intro s hs
    obtain ⟨s', hs'⟩ := hmatch.exists_of_holds hs
    exact ⟨_, hs'⟩
  choose inner hinner using hexists
  have htype : typeOfKind (kind schema) inner = toType schema' := by
    rw [toType_eq hne']
    exact hmatch.typeOfKind_eq fun s hs s' hs' => hs'.unique (hinner s hs)
  rw [← htype]
  exact .rule hne hno rfl hinner

/-! ### Schemas without internal references -/

lemma texts_subset_of_get? {schema value : Json} {key : String}
    (h : schema.get? key = some value) : texts value ⊆ texts schema := by
  cases schema with
  | object entries => exact Reference.texts_subset_of_entry (Keyed.mem_of_lookup h)
  | _ => cases h

lemma texts_subset_of_list? {schema member : Json} {members : List Json} {key : String}
    (h : list? key schema = some members) (hm : member ∈ members) :
    texts member ⊆ texts schema := by
  obtain ⟨value, hget, hvalue⟩ := Option.bind_eq_some_iff.mp h
  cases value with
  | array items =>
    cases hvalue
    exact List.Subset.trans (Reference.texts_subset_of_item hm) (texts_subset_of_get? hget)
  | _ => cases hvalue

lemma texts_subset_of_table? {schema : Json} {entries : List (String × Json)}
    {entry : String × Json} {key : String} (h : table? key schema = some entries)
    (hm : entry ∈ entries) : texts entry.2 ⊆ texts schema := by
  obtain ⟨value, hget, hvalue⟩ := Option.bind_eq_some_iff.mp h
  cases value with
  | object entries =>
    cases hvalue
    exact List.Subset.trans (Reference.texts_subset_of_entry hm) (texts_subset_of_get? hget)
  | _ => cases hvalue

lemma texts_subset_of_holds {schema s : Json} (h : (kind schema).Holds s) :
    texts s ⊆ texts schema := by
  have hrule := rule_kind schema
  generalize kind schema = k at h hrule
  cases hrule with
  | oneOf hl => cases h with | oneOf hm => exact texts_subset_of_list? hl hm
  | anyOf hl => cases h with | anyOf hm => exact texts_subset_of_list? hl hm
  | allOf hl => cases h with | allOf hm => exact texts_subset_of_list? hl hm
  | object _ =>
    generalize hp : table? "properties" schema = properties at h
    cases h with | property hm => exact texts_subset_of_table? hp hm
  | arrayOf _ =>
    generalize hi : schema.get? "items" = items at h
    cases h with | items => exact texts_subset_of_get? hi
  | _ => cases h

lemma mem_texts_of_text? {schema : Json} {text : String} (h : text? "$ref" schema = some text) :
    text ∈ texts schema := by
  cases schema with
  | object entries =>
    have ht : textOf? entries = some text := h
    simp [texts, ht]
  | _ => cases h

/-- Where there is nothing to follow, the type is the plain one. -/
lemma typeThrough_self {schema : Json} (h : ∀ text ∈ texts schema, pointer? text = none) :
    TypeThrough root schema (toType schema) := by
  induction hn : sizeOf schema using Nat.strongRecOn generalizing schema with
  | ind n ih =>
    by_cases hnull : schema = .null
    · rw [hnull, toType_null]
      exact .null
    · rw [toType_eq hnull]
      refine .rule hnull (fun text ht => h text (mem_texts_of_text? ht)) rfl fun s hs => ?_
      refine ih (sizeOf s) (hn ▸ sizeOf_lt_of_holds hs) (fun text ht => ?_) rfl
      exact h text (texts_subset_of_holds hs ht)

/-! ### Unfolding keeps the rules -/

/-- Parts beneath no reference have, through references, the type of what stands at the same keys
of the result. -/
def Agrees (root value result : Json) : Prop :=
  ∀ path schema, Outside value path → descend? path value = some schema →
    ProperThrough root schema →
    ∃ schema', descend? path result = some schema' ∧ TypeThrough root schema (toType schema')

/-- A proper object that is no reference, and its unfolding. -/
structure UnfoldsObject (root : Json) (entries results : List (String × Json)) : Prop where
  reference : textOf? entries = none
  distinct : (Json.object entries).Distinct
  proper : ProperThrough root (.object entries)
  lookup : ∀ key, Option.Rel (fun x y => (∃ keys, Unfolds root keys x y) ∧ Agrees root x y)
    (entries.lookup key) (results.lookup key)

namespace UnfoldsObject

variable {entries results : List (String × Json)}

/-- Entries that hold no schemas stay as they are. -/
lemma lookup_eq (h : UnfoldsObject root entries results) {key : String}
    (hkey : ∀ rest, ¬ SchemaKeys (key :: rest)) : results.lookup key = entries.lookup key := by
  have hrel := h.lookup key
  generalize hx : entries.lookup key = x, results.lookup key = y at hrel
  cases hrel with
  | none => rfl
  | some hxy =>
    obtain ⟨⟨keys, hunfolds⟩, -⟩ := hxy
    have hpart := descend?_entry hx
    have hnone := (h.proper _ .refl).pointer?_eq_none (h.distinct.descend hpart) hpart hkey
    rw [hunfolds.eq_self hnone]

/-- An internal reference among the entries is a schema. -/
lemma schemaKeys (h : UnfoldsObject root entries results) {key text pointer : String}
    {inner : List (String × Json)} (hx : entries.lookup key = some (.object inner))
    (ht : textOf? inner = some text) (hp : pointer? text = some pointer) : SchemaKeys [key] := by
  have hat : pointerAt? (.object entries) [key] = some pointer := by
    simp [pointerAt?, referenceAt?, descend?_entry hx, object?, ht, hp]
  exact (h.proper _ .refl).schemaKeys hat

/-- A schema inside an entry has the type of its unfolding. -/
lemma typeThrough (h : UnfoldsObject root entries results) {x y s s' : Json} {key : String}
    (path : List String) (hx : entries.lookup key = some x) (hxy : Agrees root x y)
    (ho : Outside x path) (hs : descend? path x = some s) (hs' : descend? path y = some s')
    (hpath : ∀ rest, SchemaKeys (key :: path ++ rest) → SchemaKeys rest) :
    TypeThrough root s (toType s') := by
  have hpart : descend? (key :: path) (.object entries) = some s := by
    rw [descend?, child?, hx]
    exact hs
  have hout : Outside (.object entries) (key :: path) :=
    (Reference.outside_entry h.reference key).append (descend?_entry hx) ho
  obtain ⟨t, ht, htype⟩ := hxy path s ho hs (h.proper.part hpath hout hpart)
  rwa [← Option.some.inj (ht.symm.trans hs')]

lemma rel_list? (h : UnfoldsObject root entries results) {key : String} (hkey : key ∈ holders) :
    Option.Rel (List.Forall₂ fun s s' => TypeThrough root s (toType s'))
      (list? key (.object entries)) (list? key (.object results)) := by
  have hrel := h.lookup key
  change Option.Rel _ ((entries.lookup key).bind array?) ((results.lookup key).bind array?)
  generalize hx : entries.lookup key = x, results.lookup key = y at hrel
  cases hrel with
  | none => exact .none
  | some hxy =>
    obtain ⟨⟨keys, hunfolds⟩, hagrees⟩ := hxy
    cases hunfolds with
    | @array _ items items' hlen _ =>
      refine .some (List.forall₂_iff_get.mpr ⟨hlen.symm, fun i hi hi' => ?_⟩)
      refine h.typeThrough [i.repr] hx hagrees ?_ ?_ ?_ fun rest => .of_held hkey
      · rw [Reference.outside_singleton]
        rintro _ ⟨⟩
      · simp [descend?, child?]
      · simp [descend?, child?]
    | circular ht hp _ => exact absurd (h.schemaKeys hx ht hp) (not_schemaKeys_holder hkey)
    | replaced ht hp _ _ _ => exact absurd (h.schemaKeys hx ht hp) (not_schemaKeys_holder hkey)
    | _ => exact .none

lemma rel_table? (h : UnfoldsObject root entries results) {key : String} (hkey : key ∈ holders) :
    Option.Rel (List.Forall₂ fun e e' => e.1 = e'.1 ∧ TypeThrough root e.2 (toType e'.2))
      (table? key (.object entries)) (table? key (.object results)) := by
  have hrel := h.lookup key
  change Option.Rel _ ((entries.lookup key).bind object?) ((results.lookup key).bind object?)
  generalize hx : entries.lookup key = x, results.lookup key = y at hrel
  cases hrel with
  | none => exact .none
  | @some x y hxy =>
    obtain ⟨⟨keys, hunfolds⟩, hagrees⟩ := hxy
    have hd : x.Distinct := h.distinct.descend (descend?_entry hx)
    cases hunfolds with
    | @object _ table table' ht hkeys _ =>
      have hnodup := (everyObject_object_iff.mp hd).1
      have hlen : table.length = table'.length := by
        simpa using congrArg List.length hkeys.symm
      refine .some (List.forall₂_iff_get.mpr ⟨hlen, fun i hi hi' => ?_⟩)
      have hname : (table.get ⟨i, hi⟩).1 = (table'.get ⟨i, hi'⟩).1 := by
        have hat := congrArg (fun names => names[i]?) hkeys.symm
        simpa [hi, hi'] using hat
      refine ⟨hname, ?_⟩
      refine h.typeThrough [(table.get ⟨i, hi⟩).1] hx hagrees (Reference.outside_entry ht _) ?_ ?_
        fun rest => .of_held hkey
      · exact descend?_entry (Keyed.lookup_of_mem hnodup (List.get_mem _ _))
      · rw [hname]
        exact descend?_entry (Keyed.lookup_of_mem (hkeys ▸ hnodup) (List.get_mem _ _))
    | @external _ table text ht hp =>
      -- the table is taken for a reference and stays as it is, but nothing in it is to be followed
      have hnone := (h.proper _ .refl).pointer?_eq_none_of_reference hd (descend?_entry hx)
        (not_schemaKeys_holder hkey) ht
      refine .some (List.forall₂_same.mpr fun e he => ⟨rfl, typeThrough_self fun text htext => ?_⟩)
      exact hnone text (Reference.texts_subset_of_entry he htext)
    | circular ht hp _ => exact absurd (h.schemaKeys hx ht hp) (not_schemaKeys_holder hkey)
    | replaced ht hp _ _ _ => exact absurd (h.schemaKeys hx ht hp) (not_schemaKeys_holder hkey)
    | _ => exact .none

lemma rel_items (h : UnfoldsObject root entries results) :
    Option.Rel (fun s s' => TypeThrough root s (toType s'))
      (get? "items" (.object entries)) (get? "items" (.object results)) := by
  have hrel := h.lookup "items"
  change Option.Rel _ (entries.lookup "items") (results.lookup "items")
  generalize hx : entries.lookup "items" = x, results.lookup "items" = y at hrel
  cases hrel with
  | none => exact .none
  | some hxy =>
    exact .some (h.typeThrough [] hx hxy.2 (Reference.outside_nil _) rfl rfl fun rest => .of_items)

lemma alike (h : UnfoldsObject root entries results) :
    Alike (fun s s' => TypeThrough root s (toType s')) (.object entries) (.object results) := by
  have hsame : ∀ key ∈ ["$ref", "enum", "type", "required"],
      get? key (.object results) = get? key (.object entries) := by
    intro key hkey
    refine h.lookup_eq fun rest hkeys => ?_
    have hother : ∀ key ∈ ["$ref", "enum", "type", "required"], key ∉ holders := by decide
    rcases schemaKeys_cons_iff.mp hkeys with ⟨hheld, -⟩ | ⟨rfl, -⟩
    · exact hother key hkey hheld
    · simp at hkey
  exact {
    reference := by rw [text?, text?, hsame _ (by simp)]
    oneOf := h.rel_list? (by simp [holders])
    anyOf := h.rel_list? (by simp [holders])
    allOf := h.rel_list? (by simp [holders])
    enumeration := by rw [list?, list?, hsame _ (by simp)]
    type := by rw [text?, text?, hsame _ (by simp)]
    required := by rw [list?, list?, hsame _ (by simp)]
    properties := h.rel_table? (by simp [holders])
    items := h.rel_items }

end UnfoldsObject

/-- Values agree if they have the same type and what is below them agrees. -/
lemma Agrees.mk {value result : Json}
    (hhere : ProperThrough root value → TypeThrough root value (toType result))
    (hbelow : ∀ key child, Outside value [key] → child? key value = some child →
      ∃ child', child? key result = some child' ∧ Agrees root child child') :
    Agrees root value result := by
  intro path schema ho hs hproper
  cases path with
  | nil =>
    cases hs
    exact ⟨result, rfl, hhere hproper⟩
  | cons key rest =>
    obtain ⟨child, hchild, hrest⟩ := Option.bind_eq_some_iff.mp hs
    have hout : Outside value [key] :=
      Reference.outside_singleton.mpr (Reference.outside_cons.mp ho).1
    obtain ⟨child', hchild', hagrees⟩ := hbelow key child hout hchild
    obtain ⟨schema', hs', htype⟩ := hagrees rest schema (ho.tail hchild) hrest hproper
    exact ⟨schema', by rw [descend?, hchild']; exact hs', htype⟩

/-- Nothing is looked at below a reference. -/
lemma Agrees.of_reference {entries : List (String × Json)} {text : String} {result : Json}
    (ht : textOf? entries = some text)
    (hhere : ProperThrough root (.object entries) →
      TypeThrough root (.object entries) (toType result)) :
    Agrees root (.object entries) result := by
  refine .mk hhere fun key child ho _ => ?_
  rw [Reference.outside_singleton.mp ho entries rfl] at ht
  cases ht

lemma agrees_scalar {value : Json} (ht : ∀ text ∈ texts value, pointer? text = none)
    (hchild : ∀ key, child? key value = none) : Agrees root value value := by
  refine .mk (fun _ => typeThrough_self ht) fun key child _ hc => ?_
  rw [hchild] at hc
  cases hc

lemma typeThrough_array (items results : List Json) :
    TypeThrough root (.array items) (toType (.array results)) := by
  rw [toType_eq (by simp)]
  refine .rule (k := .unknown) (by simp) (fun text ht => ?_) rfl fun s hs => ?_
  · cases ht
  · cases hs

lemma typeThrough_external {entries : List (String × Json)} {text : String}
    (ht : textOf? entries = some text) (hp : pointer? text = none) :
    TypeThrough root (.object entries) (toType (.object entries)) := by
  have hreference : text? "$ref" (.object entries) = some text := ht
  have hkind : kind (.object entries) = .reference text := by rw [kind, hreference]
  rw [toType_eq (by simp)]
  refine .rule (by simp) (fun text' ht' => ?_) rfl fun s hs => ?_
  · rwa [Option.some.inj (ht'.symm.trans hreference)]
  · rw [hkind] at hs
    cases hs

lemma agrees_of_unfolds {keys : List String} {value result : Json} (ha : Acyclic root)
    (hd : root.Distinct) (h : Unfolds root keys value result) (hv : value.Distinct) :
    Agrees root value result := by
  induction h with
  | null => exact agrees_scalar (by simp [texts]) fun _ => rfl
  | bool => exact agrees_scalar (by simp [texts]) fun _ => rfl
  | number => exact agrees_scalar (by simp [texts]) fun _ => rfl
  | string => exact agrees_scalar (by simp [texts]) fun _ => rfl
  | @array keys items results hlen _ ih =>
    refine .mk (fun _ => typeThrough_array items results) fun key child _ hchild => ?_
    obtain ⟨i, hi, hx⟩ := Option.bind_eq_some_iff.mp hchild
    obtain ⟨y, hy⟩ := List.exists_getElem?_of_length_eq hlen.symm hx
    refine ⟨y, by simp [child?, hi, hy], ih i child y hx hy ?_⟩
    exact everyObject_array_iff.mp hv child (List.mem_of_getElem? hx)
  | @object keys entries results ht hkeys hall ih =>
    have hlookup := Reference.rel_lookup hkeys fun i key x y hx hy =>
      (⟨⟨_, hall i key x y hx hy⟩, ih i key x y hx hy
        ((everyObject_object_iff.mp hv).2 _ (List.mem_of_getElem? hx))⟩ :
        (∃ keys, Unfolds root keys x y) ∧ Agrees root x y)
    refine .mk (fun hproper => ?_) fun key child _ hchild => ?_
    · have hobject : UnfoldsObject root entries results := ⟨ht, hv, hproper, hlookup⟩
      refine typeThrough_of_alike (by simp) (by simp) (fun text htext => ?_) hobject.alike
      rw [show text? "$ref" (.object entries) = none from ht] at htext
      cases htext
    · have hrel := hlookup key
      rw [show entries.lookup key = some child from hchild] at hrel
      change ∃ child', results.lookup key = some child' ∧ _
      generalize results.lookup key = y at hrel
      cases hrel with
      | some hxy => exact ⟨_, rfl, hxy.2⟩
  | external ht hp => exact .of_reference ht fun _ => typeThrough_external ht hp
  | circular _ _ hc => exact absurd hc ha.not_onCycle
  | @replaced keys target entries text pointer node result ht hp htarget hnode _ ih =>
    refine .of_reference ht fun hproper => ?_
    have hl : root.lookup? pointer = some node := by simp [lookup?, htarget, hnode]
    have hat : pointerAt? (.object entries) [] = some pointer := by
      simp [pointerAt?, referenceAt?, descend?, object?, ht, hp]
    have hnext : LeadsTo root (.object entries) node :=
      ⟨[], pointer, hat, Reference.outside_nil _, hl⟩
    have hfollowed : ProperThrough root node := fun t hreach => hproper t (.head hnext hreach)
    obtain ⟨_, ⟨⟩, htype⟩ := ih (hd.descend hnode) [] node (Reference.outside_nil _) rfl hfollowed
    exact .follow ht hp hl htype

def referenceTo (text : String) : Json := .object [("$ref", .string text)]

def stringSchema : Json := .object [("type", .string "string")]

/-- One property is a reference to a reference, with a text beside it, and one refers to null. -/
def orderSchema : Json :=
  .object [("properties", .object
      [("item", .object [("$ref", .string "#/Item"), ("description", .string "sold")]),
       ("note", referenceTo "#/Nothing")]),
    ("required", .array [.string "item"])]

def orderEntries : List (String × Json) :=
  [("Order", orderSchema), ("Item", referenceTo "#/Text"), ("Text", stringSchema),
    ("Nothing", .null)]

def orderFollowed : Json :=
  .object [("properties", .object [("item", stringSchema), ("note", .null)]),
    ("required", .array [.string "item"])]

lemma toType_stringSchema : toType stringSchema = .literal "string" :=
  toType_of_kind (k := .primitive .string) nofun rfl

lemma toType_orderFollowed : toType orderFollowed =
    .object .inline [.field "item" (.literal "string"), .optionalField "note" .unknown] := by
  have hk : kind orderFollowed =
      .object (some [("item", stringSchema), ("note", .null)]) ["item"] := rfl
  rw [toType_of_properties hk]
  simp only [List.map_cons, List.map_nil, toType_stringSchema, toType_null]
  rfl

lemma typeThrough_order :
    TypeThrough (.object orderEntries) orderSchema (toType orderFollowed) := by
  have hstring : TypeThrough (.object orderEntries) stringSchema (toType stringSchema) :=
    typeThrough_self (by decide)
  have hnull : TypeThrough (.object orderEntries) .null (toType .null) :=
    typeThrough_self (by decide)
  refine typeThrough_of_alike nofun nofun nofun ?_
  exact {
    reference := rfl
    oneOf := .none
    anyOf := .none
    allOf := .none
    enumeration := rfl
    type := rfl
    required := rfl
    properties := .some (.cons ⟨rfl, .follow rfl rfl rfl (.follow rfl rfl rfl hstring)⟩
      (.cons ⟨rfl, .follow rfl rfl rfl hnull⟩ .nil))
    items := .none }

lemma proper_referenceTo (text : String) : Proper (referenceTo text) :=
  proper_of_entries (by simp [texts])

lemma properThrough_order : ProperThrough (.object orderEntries) orderSchema := by
  have horder : Proper orderSchema := by
    refine proper_of_held rfl (List.forall_mem_cons.mpr ⟨Or.inr ?_, ?_⟩)
    · refine ⟨by decide, _, rfl, rfl, List.forall_mem_cons.mpr ⟨?_, ?_⟩⟩
      · exact proper_of_entries (by simp [texts])
      · simp [proper_referenceTo]
    · simp [texts, Reference.textsOfItems]
  refine properThrough_of_closed [orderSchema, referenceTo "#/Text", stringSchema, .null] ?_ ?_
    (by simp)
  · have hstring : Proper stringSchema := proper_of_texts (by decide)
    have hnull : Proper .null := proper_of_texts (by decide)
    simp [horder, proper_referenceTo, hstring, hnull]
  · -- each text inside these schemas, its pointer, and what that names
    have htexts : texts orderSchema = ["#/Item", "#/Nothing"] ∧
      texts (referenceTo "#/Text") = ["#/Text"] ∧ texts stringSchema = [] := ⟨rfl, rfl, rfl⟩
    have hpointers : pointer? "#/Item" = some "/Item" ∧ pointer? "#/Nothing" = some "/Nothing" ∧
      pointer? "#/Text" = some "/Text" := ⟨rfl, rfl, rfl⟩
    have hitem : lookup? (.object orderEntries) "/Item" = some (referenceTo "#/Text") := rfl
    have hnothing : lookup? (.object orderEntries) "/Nothing" = some .null := rfl
    have htext : lookup? (.object orderEntries) "/Text" = some stringSchema := rfl
    simp [htexts, hpointers, hitem, hnothing, htext, texts]

/-- Unfolding changes the type of a schema, though its references have no cycle, name nodes, and
stand where schemas are expected. -/
structure Changes (root schema : Json) (keys : List String) (through unfolded : TypeExpr) :
    Prop where
  distinct : root.Distinct
  acyclic : Acyclic root
  resolvable : Resolvable root
  found : descend? keys root = some schema
  outside : Outside root keys
  expected : ∀ keys pointer, pointerAt? schema keys = some pointer → SchemaKeys keys
  type : TypeThrough root schema through
  unfold : ∃ result schema', Reference.unfold root = .ok result ∧
    descend? keys result = some schema' ∧ toType schema' = unfolded
  differ : through ≠ unfolded

/-- A property with the name of references, and a text for a schema. -/
def tableSchema : Json :=
  .object [("properties", .object [("$ref", .string "other.yaml"), ("a", referenceTo "#/A")])]

def tableFollowed : Json :=
  .object [("properties", .object [("$ref", .string "other.yaml"), ("a", stringSchema)])]

def tableEntries : List (String × Json) := [("S", tableSchema), ("A", stringSchema)]

/-- A schema whose properties are given by a reference. -/
def sharedTable : Json :=
  .object [("type", .string "object"), ("properties", referenceTo "#/P")]

def sharedUnfolded : Json :=
  .object [("type", .string "object"), ("properties", .object [("x", stringSchema)])]

def sharedEntries : List (String × Json) :=
  [("S", referenceTo "#/A"), ("A", sharedTable), ("P", .object [("x", stringSchema)])]

lemma toType_string (text : String) : toType (.string text) = .any :=
  toType_of_kind (k := .unknown) nofun rfl

lemma toType_referenceTo (text : String) :
    toType (referenceTo text) = .literal (referenceName text) :=
  toType_of_kind (k := .reference text) nofun rfl

lemma schemaKeys_tableSchema {keys : List String} {pointer : String}
    (h : pointerAt? tableSchema keys = some pointer) : SchemaKeys keys := by
  rcases keys with _ | ⟨key, rest⟩
  · exact .here
  obtain ⟨x, hx, -, hrest⟩ := exists_entry_of_pointerAt? h
  obtain ⟨rfl, rfl⟩ : key = "properties" ∧ x = _ := by simpa using hx
  rcases rest with _ | ⟨name, below⟩
  · cases hrest
  obtain ⟨y, hy, -, hbelow⟩ := exists_entry_of_pointerAt? hrest
  have hproper : Proper y := by
    rcases List.mem_cons.mp hy with hy | hy
    · cases hy
      exact proper_of_texts (by decide)
    · cases List.mem_singleton.mp hy
      exact proper_referenceTo "#/A"
  exact .held (by decide) (hproper.schemaKeys hbelow)

lemma typeThrough_tableSchema :
    TypeThrough (.object tableEntries) tableSchema (toType tableFollowed) := by
  have hstring : TypeThrough (.object tableEntries) stringSchema (toType stringSchema) :=
    typeThrough_self (by decide)
  have htext : TypeThrough (.object tableEntries) (.string "other.yaml") (toType _) :=
    typeThrough_self (by decide)
  refine typeThrough_of_alike nofun nofun nofun ?_
  exact {
    reference := rfl
    oneOf := .none
    anyOf := .none
    allOf := .none
    enumeration := rfl
    type := rfl
    required := rfl
    properties := .some (.cons ⟨rfl, htext⟩ (.cons ⟨rfl, .follow rfl rfl rfl hstring⟩ .nil))
    items := .none }

lemma typeThrough_sharedTable :
    TypeThrough (.object sharedEntries) sharedTable (toType sharedTable) := by
  have hk : kind sharedTable = .object (some [("$ref", .string "#/P")]) [] := rfl
  have hne : sharedTable ≠ .null := nofun
  rw [toType_of_kind hne hk]
  refine .rule hne nofun hk fun s hs => ?_
  cases hs with
  | property he =>
    cases List.mem_singleton.mp he
    exact typeThrough_self (by decide)

end ApiTypes.Schema
