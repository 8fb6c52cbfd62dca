import ApiTypes.Generate
import ApiTypes.Proofs.Description.Paths
import ApiTypes.Proofs.Module.AliasNames
import ApiTypes.Proofs.Module.Containment
import ApiTypes.Proofs.Reference.Shared
import ApiTypes.Proofs.Schema.Through

/-!
Aliases mention aliases only.

Unfolding leaves a reference in place where it closes a cycle, and the type of a schema then has the
name of that reference in it. The name is made from the last key of a pointer, and the names of
aliases from the keys of the named schemas. Where all references are pointers to named schemas, the
names that are left are names of aliases: a reference that is left points at something around it, so
its target is there, and unfolding keeps the keys of the named schemas.

Two things can bring in other names. A reference that is left in place keeps all that stands beside
its text, where nothing was looked up; and the unfolding of a `$ref` entry may be a text, which
makes a new reference.
-/

namespace ApiTypes

open Json

/-! ### Names in a type -/

/-- The text stands in the type as it is. -/
inductive TypeExpr.Mentions : TypeExpr → String → Prop where
  | literal {text : String} : Mentions (.literal text) text
  | object {layout : ObjectLayout} {members : List (Member TypeExpr)} {m : Member TypeExpr}
      {text : String} : m ∈ members → Mentions m.type text → Mentions (.object layout members) text
  | union {members : List TypeExpr} {m : TypeExpr} {text : String} :
      m ∈ members → Mentions m text → Mentions (.union members) text
  | intersection {members : List TypeExpr} {m : TypeExpr} {text : String} :
      m ∈ members → Mentions m text → Mentions (.intersection members) text
  | name {name : String} {arguments : List TypeExpr} : Mentions (.generic name arguments) name
  | argument {name : String} {arguments : List TypeExpr} {a : TypeExpr} {text : String} :
      a ∈ arguments → Mentions a text → Mentions (.generic name arguments) text
  | array {item : TypeExpr} {text : String} : Mentions item text → Mentions (.array item) text

namespace Schema

open Reference (texts)

/-- The type of the schema gets this name for a reference. -/
inductive Emits : Json → String → Prop where
  | reference {schema : Json} {text : String} :
      kind schema = .reference text → Emits schema (referenceName text)
  | inside {schema s : Json} {name : String} :
      (kind schema).Holds s → Emits s name → Emits schema name

lemma exists_text_of_emits {schema : Json} {name : String} (h : Emits schema name) :
    ∃ text ∈ texts schema, name = referenceName text := by
  induction h with
  | @reference schema text hk =>
    have hrule := rule_kind schema
    rw [hk] at hrule
    cases hrule with
    | reference ht => exact ⟨text, mem_texts_of_text? ht, rfl⟩
  | inside hs _ ih =>
    obtain ⟨text, ht, hname⟩ := ih
    exact ⟨text, texts_subset_of_holds hs ht, hname⟩

lemma isTypeName_keyword (type : Primitive) : TypeName.isTypeName type.keyword = false := by
  cases type <;> decide +kernel

/-- A name in the type of a kind is that of a reference, or stands in a type inside. -/
lemma mentions_typeOfKind {k : Kind} {inner : (s : Json) → k.Holds s → TypeExpr} {text : String}
    (h : (typeOfKind k inner).Mentions text) (hname : TypeName.isTypeName text = true) :
    (∃ reference, k = .reference reference ∧ text = referenceName reference) ∨
      ∃ s hs, (inner s hs).Mentions text := by
  cases k with
  | reference reference =>
    cases h
    exact Or.inl ⟨reference, rfl, rfl⟩
  | oneOf members =>
    cases h with
    | union hm hin =>
      obtain ⟨⟨s, hs⟩, -, rfl⟩ := List.mem_map.mp hm
      exact Or.inr ⟨s, .oneOf hs, hin⟩
  | anyOf members =>
    cases h with
    | union hm hin =>
      obtain ⟨⟨s, hs⟩, -, rfl⟩ := List.mem_map.mp hm
      exact Or.inr ⟨s, .anyOf hs, hin⟩
  | allOf members =>
    cases h with
    | intersection hm hin =>
      obtain ⟨⟨s, hs⟩, -, rfl⟩ := List.mem_map.mp hm
      exact Or.inr ⟨s, .allOf hs, hin⟩
  | enumeration values =>
    cases h with
    | union hm hin =>
      obtain ⟨value, -, rfl⟩ := List.mem_map.mp hm
      cases hin
      rw [Json.isTypeName_compact] at hname
      cases hname
  | object properties required =>
    cases properties with
    | none => cases h with | object hm _ => cases hm
    | some properties =>
      cases h with
      | object hm hin =>
        obtain ⟨⟨entry, he⟩, -, rfl⟩ := List.mem_map.mp (Keyed.mem_of_mem_gather hm)
        rw [type_propertyMember] at hin
        exact Or.inr ⟨entry.2, .property he, hin⟩
  | arrayOf items =>
    cases items with
    | none =>
      cases h with
      | array hin =>
        cases hin
        exact absurd hname (by decide +kernel)
    | some items =>
      cases h with
      | array hin => exact Or.inr ⟨items, .items, hin⟩
  | primitive type =>
    cases h
    rw [isTypeName_keyword] at hname
    cases hname
  | unknown =>
    cases h
    exact absurd hname (by decide +kernel)

/-- All type names in the type of a schema come from its references. -/
lemma emits_of_mentions {schema : Json} {text : String} (h : (toType schema).Mentions text)
    (hname : TypeName.isTypeName text = true) : Emits schema text := by
  induction hn : sizeOf schema using Nat.strongRecOn generalizing schema with
  | ind n ih =>
    by_cases hnull : schema = .null
    · rw [hnull, toType_null] at h
      cases h
      exact absurd hname (by decide +kernel)
    · rw [toType_eq hnull] at h
      rcases mentions_typeOfKind h hname with ⟨reference, hk, rfl⟩ | ⟨s, hs, hin⟩
      · exact .reference hk
      · exact .inside hs (ih (sizeOf s) (hn ▸ sizeOf_lt_of_holds hs) hin rfl)

end Schema

/-! ### References that are left -/

namespace Reference

/-- The text of an internal reference whose pointer names a node. -/
def NamesNode (root : Json) (text : String) : Prop :=
  ∃ pointer node, pointer? text = some pointer ∧ root.lookup? pointer = some node

/-- What stands inside a reference on a cycle, which may be left in place, names nodes. -/
def HeldNamesNodes (root : Json) : Prop :=
  ∀ keys entries text, descend? keys root = some (.object entries) → textOf? entries = some text →
    OnCycle root keys → ∀ inner ∈ textsOfEntries entries, NamesNode root inner

/-- No `$ref` entry is a reference that leads to a text. -/
def NoTextEntries (root : Json) : Prop :=
  root.EveryObject fun entries =>
    ∀ inner, entries.lookup "$ref" = some (.object inner) →
      ∀ s, ¬ LeadsToText root (.object inner) s

variable {root : Json} {keys : List String}

lemma heldNamesNodes_of_flat (h : root.EveryObject fun entries =>
    ∀ text, textOf? entries = some text → textsOfEntries entries = []) : HeldNamesNodes root := by
  intro keys entries text hat ht _ inner hinner
  rw [h.at_keys hat text ht] at hinner
  cases hinner

/-- Every reference in an unfolding is one of the description and names a node. -/
lemma Unfolds.namesNode {value result : Json} (hd : root.Distinct)
    (hinternal : ∀ text ∈ texts root, ∃ pointer, pointer? text = some pointer)
    (hheld : HeldNamesNodes root) (hno : NoTextEntries root)
    (h : Unfolds root keys value result) (hv : descend? keys root = some value) :
    ∀ text ∈ texts result, text ∈ texts root ∧ NamesNode root text := by
  induction h with
  | null => simp [texts]
  | bool => simp [texts]
  | number => simp [texts]
  | string => simp [texts]
  | @array keys items results hlen _ ih =>
    intro text htext
    obtain ⟨y, hy, hin⟩ := mem_textsOfItems.mp htext
    obtain ⟨i, hi⟩ := List.mem_iff_getElem?.mp hy
    obtain ⟨x, hx⟩ := List.exists_getElem?_of_length_eq hlen hi
    exact ih i x y hx hi (descend?_push hv (child?_item hx)) text hin
  | @object keys entries results ht hk hall ih =>
    have hnone : textOf? results = none := by
      rw [Option.eq_none_iff_forall_ne_some]
      intro s hs
      obtain ⟨inner, hinner, hleads⟩ := Unfolds.leadsToText_entry ht hk hall hs
      exact hno.at_keys hv inner hinner s hleads
    intro text htext
    rw [texts, hnone] at htext
    obtain ⟨⟨key, y⟩, hy, hin⟩ := mem_textsOfEntries.mp htext
    obtain ⟨i, hi⟩ := List.mem_iff_getElem?.mp hy
    obtain ⟨x, hx⟩ := exists_entry_of_keys_eq hk hi
    have hfound := Keyed.lookup_of_mem (hd.at_keys hv) (List.mem_of_getElem? hx)
    exact ih i _ x y hx hi (descend?_push hv hfound) text hin
  | @external keys entries text ht hp =>
    obtain ⟨pointer, hpointer⟩ :=
      hinternal text (texts_subset_of_descend hv (by simp [texts, ht]))
    rw [hp] at hpointer
    cases hpointer
  | @circular keys entries text pointer ht hp hc =>
    intro inner hinner
    refine ⟨texts_subset_of_descend hv hinner, ?_⟩
    rw [texts, ht, Option.toList_some, List.singleton_append, List.mem_cons] at hinner
    rcases hinner with rfl | hinner
    · -- the target of a reference on a cycle is a node
      obtain ⟨target, ⟨entries', text', pointer', node, hat, ht', hp', htarget, hnode⟩, -⟩ := hc
      rw [hv] at hat
      cases hat
      obtain rfl : inner = text' := Option.some.inj (ht.symm.trans ht')
      exact ⟨pointer', node, hp', by rw [lookup?, htarget]; exact hnode⟩
    · exact hheld keys entries text hv ht hc inner hinner
  | replaced _ _ _ hnode _ ih => exact ih hnode

/-- A property of all reference texts, object by object. -/
lemma everyObject_text_iff {good : String → Prop} {value : Json} :
    value.EveryObject (fun entries => ∀ text, textOf? entries = some text → good text) ↔
      ∀ text ∈ texts value, good text := by
  induction value using Json.induction with
  | null => simp [EveryObject, texts]
  | bool b => simp [EveryObject, texts]
  | number n => simp [EveryObject, texts]
  | string s => simp [EveryObject, texts]
  | array items ih =>
    rw [everyObject_array_iff, texts]
    constructor
    · intro h text htext
      obtain ⟨x, hx, hin⟩ := mem_textsOfItems.mp htext
      exact (ih x hx).mp (h x hx) text hin
    · exact fun h x hx => (ih x hx).mpr fun text ht => h text (mem_textsOfItems.mpr ⟨x, hx, ht⟩)
  | object entries ih =>
    rw [everyObject_object_iff, texts]
    constructor
    · rintro ⟨hown, hrest⟩ text htext
      rcases List.mem_append.mp htext with h | h
      · exact hown text (by simpa using h)
      · obtain ⟨e, he, hin⟩ := mem_textsOfEntries.mp h
        exact (ih e he).mp (hrest e he) text hin
    · refine fun h => ⟨fun text ht => h text (by simp [ht]), fun e he => (ih e he).mpr ?_⟩
      exact fun text ht => h text (List.mem_append_right _ (mem_textsOfEntries.mpr ⟨e, he, ht⟩))

end Reference

/-! ### Reading the named schemas -/

lemma Json.Reader.readEntries_raw (entries : List (String × Json)) :
    readEntries raw entries = .ok entries := by
  induction entries with
  | nil => rfl
  | cons entry rest ih =>
    rw [readEntries, ih]
    rfl

lemma Json.Reader.eq_object_of_table_raw {value : Json} {entries : List (String × Json)}
    (h : table raw value = .ok entries) : value = .object entries := by
  cases value with
  | object found =>
    rw [table, readEntries_raw] at h
    cases h
    rfl
  | _ => cases h

lemma Json.get?_of_child? {key : String} {json child : Json} (hkey : tokenIndex? key = none)
    (h : child? key json = some child) : json.get? key = some child := by
  cases json with
  | object entries => exact h
  | array items =>
    rw [child?, hkey] at h
    cases h
  | _ => cases h

namespace OpenApi

lemma Components.everyObject_schemas {R : List (String × Json) → Prop} {value : Json}
    {components : Components} (hv : value.EveryObject R)
    (h : Components.shape.read value = .ok components) :
    ∀ e ∈ components.schemas, e.2.EveryObject R := by
  refine Components.isField_schemas.of_read (Q := fun schemas => ∀ e ∈ schemas, e.2.EveryObject R)
    (List.forall_mem_nil _) ?_ hv h
  intro part schemas hpart hread
  rw [Reader.eq_object_of_table_raw hread] at hpart
  exact (everyObject_object_iff.mp hpart).2

lemma Document.everyObject_schemas {R : List (String × Json) → Prop} {value : Json}
    {doc : Document} (hv : value.EveryObject R) (h : Document.shape.read value = .ok doc) :
    ∀ components ∈ doc.components, ∀ e ∈ components.schemas, e.2.EveryObject R := by
  refine Document.isField_components.of_read
    (Q := fun part => ∀ components ∈ part, ∀ e ∈ components.schemas, e.2.EveryObject R)
    (by rintro _ ⟨⟩) ?_ hv h
  intro part found hpart hread components hcomponents
  rcases Reader.optional_cases hread with ⟨-, rfl⟩ | ⟨read, hfound, rfl⟩
  · cases hcomponents
  · cases hcomponents
    exact Components.everyObject_schemas hpart hfound

/-- A named schema of the value is one of the description. -/
lemma Document.mem_schemas {value node : Json} {doc : Document} {key : String}
    (hd : value.Distinct) (h : Document.shape.read value = .ok doc)
    (hat : descend? ["components", "schemas", key] value = some node) :
    ∃ components, doc.components = some components ∧ key ∈ components.schemas.map Prod.fst := by
  obtain ⟨part, hpart, hrest⟩ := Option.bind_eq_some_iff.mp hat
  obtain ⟨schemas, hschemas, hrest⟩ := Option.bind_eq_some_iff.mp hrest
  obtain ⟨found, hfound, -⟩ := Option.bind_eq_some_iff.mp hrest
  have hget : part.get? "schemas" = some schemas := Json.get?_of_child? rfl hschemas
  have hread := Document.isField_components.read_eq hd h (Json.get?_of_child? rfl hpart)
  rcases Reader.optional_cases hread with ⟨rfl, -⟩ | ⟨components, hcomponents, hsome⟩
  · cases hget
  · refine ⟨components, hsome, ?_⟩
    have htable :=
      Components.isField_schemas.read_eq (EveryObject.child hd hpart) hcomponents hget
    rw [Reader.eq_object_of_table_raw htable] at hfound
    exact List.mem_map_of_mem (Keyed.mem_of_lookup hfound)

lemma Document.namedSchemas_model (merge : Merge) (doc : Document) :
    (doc.model merge).namedSchemas = (doc.components.map Components.schemas).getD [] := by
  rw [Model.namedSchemas, Document.model]
  cases doc.components with
  | none => rfl
  | some components =>
    obtain ⟨schemas⟩ := components
    cases schemas <;> rfl

end OpenApi

/-! ### References to named schemas -/

/-- The text of a reference to a named schema: the pointer to the named schemas and one more token,
which is not empty. -/
def IsSchemaReference (text : String) : Prop :=
  ∃ token, text = "#/components/schemas" ++ "/" ++ token ∧ token ≠ "" ∧ '/' ∉ token.toList

namespace IsSchemaReference

variable {token : String}

lemma pointer?_eq (token : String) :
    Reference.pointer? ("#/components/schemas" ++ "/" ++ token) =
      some ("/components/schemas" ++ "/" ++ token) := by
  have hlist : ("#/components/schemas" ++ "/" ++ token).toList =
      '#' :: ("/components/schemas" ++ "/" ++ token).toList := by
    simp
  rw [Reference.pointer?, hlist]
  simp only [String.ofList_toList]

lemma pointerKeys?_eq (h : '/' ∉ token.toList) :
    pointerKeys? ("/components/schemas" ++ "/" ++ token) =
      some ["components", "schemas", unescapeToken token.toList] := by
  have hschemas : pointerKeys? "/components/schemas" = some ["components", "schemas"] := by
    decide +kernel
  rw [pointerKeys?_push hschemas h]
  rfl

end IsSchemaReference

/-- The model has an alias of this name. -/
def Model.HasAlias (model : Model) (name : String) : Prop :=
  ∃ entry ∈ model.namedSchemas, TypeName.sanitize entry.1 = name

/-- A valid OpenAPI description whose references all point at named schemas. -/
structure RefersToSchemas (root : Json) (doc : OpenApi.Document) : Prop where
  distinct : root.Distinct
  valid : Description.validate true root = .ok (.openApi doc)
  /-- Neither the description nor its `components` nor their `schemas` are references. -/
  inPlace : ∀ key, Reference.Outside root ["components", "schemas", key]
  schemaReference : ∀ text ∈ Reference.texts root, IsSchemaReference text

lemma Description.openApi_of_validate {root : Json} {doc : OpenApi.Document}
    (h : validate true root = .ok (.openApi doc)) :
    ∃ unfolded, Reference.unfold root = .ok unfolded ∧
      OpenApi.Document.shape.read unfolded = .ok doc := by
  obtain ⟨format, unfolded, hunfolded, hread, -⟩ := exists_of_validate h
  refine ⟨unfolded, mapError_eq_ok.mp hunfolded, ?_⟩
  cases format with
  | openApi3 =>
    obtain ⟨found, hfound, heq⟩ := map_eq_ok.mp (mapError_eq_ok.mp hread)
    cases heq
    exact hfound
  | swagger2 =>
    obtain ⟨found, -, heq⟩ := map_eq_ok.mp (mapError_eq_ok.mp hread)
    cases heq

namespace RefersToSchemas

variable {root : Json} {doc : OpenApi.Document}

/-- A reference to a named schema that is there has the name of an alias. -/
lemma hasAlias (h : RefersToSchemas root doc) (merge : Merge) {text : String}
    (htext : text ∈ Reference.texts root) (hnames : Reference.NamesNode root text) :
    (doc.model merge).HasAlias (Schema.referenceName text) := by
  obtain ⟨unfolded, hunfold, hread⟩ := Description.openApi_of_validate h.valid
  obtain ⟨token, rfl, hne, hslash⟩ := h.schemaReference text htext
  obtain ⟨pointer, node, hpointer, hnode⟩ := hnames
  rw [IsSchemaReference.pointer?_eq, Option.some.injEq] at hpointer
  subst hpointer
  rw [lookup?, IsSchemaReference.pointerKeys?_eq hslash, Option.bind_some] at hnode
  obtain ⟨found, hfound, -⟩ := Reference.answer_of_outside hunfold (h.inPlace _) hnode
  obtain ⟨components, hcomponents, hkey⟩ :=
    OpenApi.Document.mem_schemas (Reference.distinct_of_unfold h.distinct hunfold) hread hfound
  obtain ⟨entry, hentry, hname⟩ := List.mem_map.mp hkey
  refine ⟨entry, ?_, ?_⟩
  · rw [OpenApi.Document.namedSchemas_model, hcomponents]
    exact hentry
  · rw [Schema.referenceName_append hne hslash, hname]

/-- A reference in a named schema is one of the description, and names a node. -/
lemma namesNode (h : RefersToSchemas root doc) (merge : Merge)
    (hheld : Reference.HeldNamesNodes root) (hno : Reference.NoTextEntries root)
    {entry : String × Json} (hentry : entry ∈ (doc.model merge).namedSchemas) :
    ∀ text ∈ Reference.texts entry.2,
      text ∈ Reference.texts root ∧ Reference.NamesNode root text := by
  obtain ⟨unfolded, hunfold, hread⟩ := Description.openApi_of_validate h.valid
  have hinternal : ∀ text ∈ Reference.texts root, ∃ pointer,
      Reference.pointer? text = some pointer := by
    intro text htext
    obtain ⟨token, rfl, -, -⟩ := h.schemaReference text htext
    exact ⟨_, IsSchemaReference.pointer?_eq token⟩
  have hu : Reference.Unfolds root [] root unfolded :=
    Reference.Nested.start.unfolds h.distinct [] unfolded (.start root) hunfold
  have hleft := Reference.everyObject_text_iff.mpr
    (hu.namesNode h.distinct hinternal hheld hno rfl)
  rw [OpenApi.Document.namedSchemas_model] at hentry
  cases hcomponents : doc.components with
  | none =>
    rw [hcomponents] at hentry
    cases hentry
  | some components =>
    rw [hcomponents] at hentry
    exact Reference.everyObject_text_iff.mp
      (OpenApi.Document.everyObject_schemas hleft hread components hcomponents entry hentry)

/-- **Aliases mention aliases only.** For a valid description whose references all point at named
schemas, every name that the type of a named schema gets for a reference is the name of an alias,
and so is every type name in that type. What stands inside a reference on a cycle has to name a
schema by itself, and no `$ref` entry may be a reference that leads to a text. -/
theorem generateAliases_closed {text : String} (htext : decode? text = some root)
    (h : RefersToSchemas root doc) (hheld : Reference.HeldNamesNodes root)
    (hno : Reference.NoTextEntries root) (merge : Merge) (width : Nat) :
    generateAliases ⟨true, merge, width⟩ text = .ok (aliases width (doc.model merge)) ∧
    ∀ entry ∈ (doc.model merge).namedSchemas,
      (∀ name, Schema.Emits entry.2 name → (doc.model merge).HasAlias name) ∧
      ∀ name, (Schema.toType entry.2).Mentions name → TypeName.isTypeName name = true →
        (doc.model merge).HasAlias name := by
  refine ⟨?_, fun entry hentry => ?_⟩
  · simp only [generateAliases, Model.ofText, htext, h.valid]
    rfl
  have hemits : ∀ name, Schema.Emits entry.2 name → (doc.model merge).HasAlias name := by
    intro name hname
    obtain ⟨reference, hreference, rfl⟩ := Schema.exists_text_of_emits hname
    obtain ⟨hroot, hnode⟩ := h.namesNode merge hheld hno hentry reference hreference
    exact h.hasAlias merge hroot hnode
  exact ⟨hemits, fun name hname htype => hemits name (Schema.emits_of_mentions hname htype)⟩

end RefersToSchemas

/-! ### Three descriptions -/

/-- A description with these named schemas and nothing else. -/
def schemasRoot (schemas : List (String × Json)) : Json :=
  .object [("openapi", .string "3"),
    ("info", .object [("title", .string "T"), ("version", .string "1")]),
    ("components", .object [("schemas", .object schemas)])]

lemma outside_schemasRoot {schemas : List (String × Json)}
    (h : Reference.textOf? schemas = none) (key : String) :
    Reference.Outside (schemasRoot schemas) ["components", "schemas", key] := by
  refine Reference.outside_cons.mpr ⟨?_, ?_⟩
  · rintro _ ⟨⟩
    rfl
  rintro _ ⟨⟩
  refine Reference.outside_cons.mpr ⟨?_, ?_⟩
  · rintro _ ⟨⟩
    rfl
  rintro _ ⟨⟩
  refine Reference.outside_singleton.mpr ?_
  rintro _ ⟨⟩
  exact h

lemma exists_refersToSchemas {schemas unfolded : List (String × Json)}
    (hd : (Json.object schemas).Distinct) (hnone : Reference.textOf? schemas = none)
    (hunfold : Reference.unfold (schemasRoot schemas) = .ok (schemasRoot unfolded))
    (htexts : ∀ text ∈ Reference.texts (schemasRoot schemas), IsSchemaReference text) :
    ∃ doc, RefersToSchemas (schemasRoot schemas) doc ∧
      ∀ merge, (doc.model merge).namedSchemas = unfolded := by
  have hread : OpenApi.Document.shape.read (schemasRoot unfolded) =
      .ok ⟨"3", ⟨"T", "1", none⟩, [], some ⟨unfolded⟩⟩ := by
    have hschemas : Reader.table Reader.raw (.object unfolded) = .ok unfolded :=
      Reader.readEntries_raw unfolded
    simp only [schemasRoot, OpenApi.Document.shape, OpenApi.Components.shape, Shape.read,
      Shape.setEntries, Reader.optional, hschemas]
    rfl
  refine ⟨_, ⟨?_, ?_, outside_schemasRoot hnone, htexts⟩, fun merge =>
    OpenApi.Document.namedSchemas_model merge ⟨"3", ⟨"T", "1", none⟩, [], some ⟨unfolded⟩⟩⟩
  · simpa [schemasRoot, Distinct, EveryObject, EveryObjectOfEntries] using hd
  · have hdetect : Format.detect (schemasRoot schemas) = .ok .openApi3 := rfl
    have hvalue : Description.unfold true (schemasRoot schemas) = .ok (schemasRoot unfolded) := by
      rw [Description.unfold, if_pos rfl, hunfold]
      rfl
    unfold Description.validate
    simp only [schemasRoot]
    rw [← schemasRoot, hdetect, hvalue]
    simp only [Description.read, hread, bind, Except.bind]
    rfl

/-- Lists of lists, under a name that is escaped in the pointer and made fit in the type. -/
def listSchemas : List (String × Json) :=
  [("a/b", .object [("type", .string "array"),
    ("items", .object [("$ref", .string "#/components/schemas/a~1b")])])]

def listText : String :=
  "openapi: '3'\ninfo:\n  title: T\n  version: '1'\ncomponents:\n  schemas:\n    a/b:\n" ++
  "      type: array\n      items:\n        $ref: '#/components/schemas/a~1b'\n"

lemma decode?_listText : decode? listText = some (schemasRoot listSchemas) := by
  decide +kernel

theorem listSchemas_closed :
    decode? listText = some (schemasRoot listSchemas) ∧
    Reference.HeldNamesNodes (schemasRoot listSchemas) ∧
    Reference.NoTextEntries (schemasRoot listSchemas) ∧
    ∃ doc, RefersToSchemas (schemasRoot listSchemas) doc ∧
      (doc.model .concatenate).namedSchemas = listSchemas ∧
      (∃ entry ∈ listSchemas, Schema.Emits entry.2 "a_b") ∧
      (doc.model .concatenate).HasAlias "a_b" := by
  have hunfold : Reference.unfold (schemasRoot listSchemas) = .ok (schemasRoot listSchemas) := by
    decide +kernel
  have htexts : ∀ text ∈ Reference.texts (schemasRoot listSchemas), IsSchemaReference text := by
    have hall : Reference.texts (schemasRoot listSchemas) = ["#/components/schemas/a~1b"] := by
      decide +kernel
    rw [hall, List.forall_mem_singleton]
    exact ⟨"a~1b", by decide +kernel⟩
  have hheld : Reference.HeldNamesNodes (schemasRoot listSchemas) := by
    refine Reference.heldNamesNodes_of_flat ?_
    simp [schemasRoot, listSchemas, EveryObject, EveryObjectOfEntries, Reference.textOf?,
      Reference.textsOfEntries, Reference.texts, Keyed.lookup_cons]
  have hno : Reference.NoTextEntries (schemasRoot listSchemas) := by
    simp [schemasRoot, listSchemas, Reference.NoTextEntries, EveryObject, EveryObjectOfEntries,
      Keyed.lookup_cons]
  obtain ⟨doc, hdoc, hnamed⟩ := exists_refersToSchemas
    (by simp [listSchemas, Distinct, EveryObject, EveryObjectOfEntries]) rfl hunfold htexts
  have hname : Schema.referenceName "#/components/schemas/a~1b" = "a_b" := by decide +kernel
  obtain ⟨entry, hentry, hemits⟩ : ∃ entry ∈ listSchemas, Schema.Emits entry.2 "a_b" :=
    ⟨_, List.mem_singleton.mpr rfl, .inside .items (hname ▸ Schema.Emits.reference rfl)⟩
  obtain ⟨-, hclosed⟩ :=
    RefersToSchemas.generateAliases_closed decode?_listText hdoc hheld hno .concatenate 2
  exact ⟨decode?_listText, hheld, hno, doc, hdoc, hnamed _, ⟨entry, hentry, hemits⟩,
    (hclosed entry (by rw [hnamed]; exact hentry)).1 _ hemits⟩

/-- The `$ref` entry of the first schema leads to the text of the second. -/
def textSchemas : List (String × Json) :=
  [("A", .object [("$ref", .object [("$ref", .string "#/components/schemas/T")])]),
    ("T", .string "Missing")]

/-- The table of properties is a reference that is left in place, with another one inside. -/
def heldSchemas : List (String × Json) :=
  [("A", .object [("type", .string "object"), ("properties", .object
    [("$ref", .string "#/components/schemas/A"),
      ("x", .object [("$ref", .string "#/components/schemas/Missing")])])])]

/-- A name that stands in the type of a schema but is that of no alias. -/
lemma exists_name_without_alias {schemas unfolded : List (String × Json)} {name : String}
    (h : ∃ doc, RefersToSchemas (schemasRoot schemas) doc ∧
      ∀ merge, (doc.model merge).namedSchemas = unfolded)
    (hemits : ∃ entry ∈ unfolded, Schema.Emits entry.2 name)
    (hname : name ∉ unfolded.map fun entry => TypeName.sanitize entry.1) :
    ∃ doc, RefersToSchemas (schemasRoot schemas) doc ∧
      (∃ entry ∈ (doc.model .concatenate).namedSchemas, Schema.Emits entry.2 name) ∧
      ¬ (doc.model .concatenate).HasAlias name := by
  obtain ⟨doc, hdoc, hnamed⟩ := h
  refine ⟨doc, hdoc, ?_, ?_⟩
  · rw [hnamed]
    exact hemits
  · rintro ⟨entry, hentry, heq⟩
    rw [hnamed] at hentry
    exact hname (List.mem_map.mpr ⟨entry, hentry, heq⟩)

/-- Each of the two conditions on references within references is needed. -/
theorem names_without_alias :
    (Reference.HeldNamesNodes (schemasRoot textSchemas) ∧
      ∃ doc, RefersToSchemas (schemasRoot textSchemas) doc ∧
        (∃ entry ∈ (doc.model .concatenate).namedSchemas, Schema.Emits entry.2 "Missing") ∧
        ¬ (doc.model .concatenate).HasAlias "Missing") ∧
    Reference.NoTextEntries (schemasRoot heldSchemas) ∧
      ∃ doc, RefersToSchemas (schemasRoot heldSchemas) doc ∧
        (∃ entry ∈ (doc.model .concatenate).namedSchemas, Schema.Emits entry.2 "Missing") ∧
        ¬ (doc.model .concatenate).HasAlias "Missing" := by
  refine ⟨⟨?_, ?_⟩, ?_, ?_⟩
  · refine Reference.heldNamesNodes_of_flat ?_
    simp [schemasRoot, textSchemas, EveryObject, EveryObjectOfEntries, Reference.textOf?,
      Reference.textsOfEntries, Reference.texts, Keyed.lookup_cons, string?]
  · have htexts : Reference.texts (schemasRoot textSchemas) = ["#/components/schemas/T"] := by
      decide +kernel
    have hunfold : Reference.unfold (schemasRoot textSchemas) = .ok (schemasRoot
        [("A", .object [("$ref", .string "Missing")]), ("T", .string "Missing")]) := by
      decide +kernel
    have hname : Schema.referenceName "Missing" = "Missing" := by decide +kernel
    refine exists_name_without_alias (exists_refersToSchemas ?_ rfl hunfold ?_)
      ⟨_, List.mem_cons_self, hname ▸ Schema.Emits.reference rfl⟩ (by decide +kernel)
    · simp [textSchemas, Distinct, EveryObject, EveryObjectOfEntries]
    · rw [htexts, List.forall_mem_singleton]
      exact ⟨"T", by decide +kernel⟩
  · simp [schemasRoot, heldSchemas, Reference.NoTextEntries, EveryObject, EveryObjectOfEntries,
      Keyed.lookup_cons]
  · have htexts : Reference.texts (schemasRoot heldSchemas) =
        ["#/components/schemas/A", "#/components/schemas/Missing"] := by
      decide +kernel
    have hunfold : Reference.unfold (schemasRoot heldSchemas) = .ok (schemasRoot heldSchemas) := by
      decide +kernel
    have hname : Schema.referenceName "#/components/schemas/Missing" = "Missing" := by
      decide +kernel
    have hemits : ∃ entry ∈ heldSchemas, Schema.Emits entry.2 "Missing" :=
      ⟨_, List.mem_singleton.mpr rfl,
        .inside (.property (List.mem_cons_of_mem _ List.mem_cons_self))
          (hname ▸ Schema.Emits.reference rfl)⟩
    refine exists_name_without_alias (exists_refersToSchemas ?_ rfl hunfold ?_) hemits
      (by decide +kernel)
    · simp [heldSchemas, Distinct, EveryObject, EveryObjectOfEntries]
    · rw [htexts, List.forall_mem_cons, List.forall_mem_singleton]
      exact ⟨⟨"A", by decide +kernel⟩, "Missing", by decide +kernel⟩

end ApiTypes
