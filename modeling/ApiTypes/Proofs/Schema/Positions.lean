import ApiTypes.Proofs.Reference.Kept

/-!
Where schemas are expected inside a schema.

Schemas stand in lists under `oneOf`, `anyOf` and `allOf`, under names in `properties`, and under
`items`. A schema is proper if its internal references stand at such places only. Unfolding looks
for references in all objects, also in the table of properties: a property that has the name `$ref`
and holds a text makes the whole table a reference, and what is in it stays as it is. So the
references around an internal one have to stand where schemas are expected, too.
-/

namespace ApiTypes.Schema

open Json Relation
open Reference (textOf? pointer? texts Outside)

/-- The text of the reference that stands at these keys. -/
def referenceAt? (json : Json) (keys : List String) : Option String :=
  ((descend? keys json).bind object?).bind textOf?

/-- The pointer of the internal reference that stands at these keys. -/
def pointerAt? (json : Json) (keys : List String) : Option String :=
  (referenceAt? json keys).bind pointer?

/-- The entries that hold a number of schemas, as a list or under names. -/
def holders : List String := ["oneOf", "anyOf", "allOf", "properties"]

/-- Keys that lead from a schema to a schema: to one of those that an entry holds, or to the
items. -/
inductive SchemaKeys : List String → Prop where
  | here : SchemaKeys []
  | held {key name : String} {rest : List String} :
      key ∈ holders → SchemaKeys rest → SchemaKeys (key :: name :: rest)
  | items {rest : List String} : SchemaKeys rest → SchemaKeys ("items" :: rest)

/-- Internal references, and the references around them, stand where schemas are expected. -/
def Proper (schema : Json) : Prop :=
  ∀ keys pointer, pointerAt? schema keys = some pointer →
    ∀ outer text, outer <+: keys → referenceAt? schema outer = some text → SchemaKeys outer

/-- An internal reference of the schema, beneath no other reference, names the target. -/
def LeadsTo (root schema target : Json) : Prop :=
  ∃ keys pointer, pointerAt? schema keys = some pointer ∧ Outside schema keys ∧
    root.lookup? pointer = some target

/-- The schema is proper, and all those that its references lead to. -/
def ProperThrough (root schema : Json) : Prop :=
  ∀ target, ReflTransGen (LeadsTo root) schema target → Proper target

lemma schemaKeys_cons_iff {key : String} {rest : List String} :
    SchemaKeys (key :: rest) ↔
      (key ∈ holders ∧ ∃ name below, rest = name :: below ∧ SchemaKeys below) ∨
        key = "items" ∧ SchemaKeys rest := by
  constructor
  · intro h
    cases h with
    | held hkey hbelow => exact Or.inl ⟨hkey, _, _, rfl, hbelow⟩
    | items hrest => exact Or.inr ⟨rfl, hrest⟩
  · rintro (⟨hkey, name, below, rfl, hbelow⟩ | ⟨rfl, hrest⟩)
    · exact .held hkey hbelow
    · exact .items hrest

lemma not_schemaKeys_holder {key : String} (h : key ∈ holders) : ¬ SchemaKeys [key] := by
  rw [schemaKeys_cons_iff]
  rintro (⟨-, name, below, hnil, -⟩ | ⟨rfl, -⟩)
  · cases hnil
  · simp [holders] at h

lemma SchemaKeys.of_held {key name : String} {rest : List String} (hkey : key ∈ holders)
    (h : SchemaKeys (key :: name :: rest)) : SchemaKeys rest := by
  rcases schemaKeys_cons_iff.mp h with ⟨-, name, below, heq, hbelow⟩ | ⟨rfl, -⟩
  · cases heq
    exact hbelow
  · simp [holders] at hkey

lemma SchemaKeys.of_items {rest : List String} (h : SchemaKeys ("items" :: rest)) :
    SchemaKeys rest := by
  rcases schemaKeys_cons_iff.mp h with ⟨hkey, -⟩ | ⟨-, hrest⟩
  · simp [holders] at hkey
  · exact hrest

lemma descend?_entry {entries : List (String × Json)} {key : String} {x : Json}
    (h : entries.lookup key = some x) : descend? [key] (.object entries) = some x := by
  simp [descend?, child?, h]

lemma referenceAt?_append {json part : Json} {path : List String}
    (h : descend? path json = some part) (keys : List String) :
    referenceAt? json (path ++ keys) = referenceAt? part keys := by
  rw [referenceAt?, descend?_append, h, Option.bind_some, referenceAt?]

lemma pointerAt?_append {json part : Json} {path : List String}
    (h : descend? path json = some part) (keys : List String) :
    pointerAt? json (path ++ keys) = pointerAt? part keys := by
  rw [pointerAt?, referenceAt?_append h, pointerAt?]

lemma exists_referenceAt?_of_mem_texts {json : Json} {text : String} (hd : json.Distinct)
    (h : text ∈ texts json) : ∃ keys, referenceAt? json keys = some text := by
  induction json using Json.induction with
  | array items ih =>
    obtain ⟨x, hx, hin⟩ := Reference.mem_textsOfItems.mp h
    obtain ⟨i, hi⟩ := List.mem_iff_getElem?.mp hx
    obtain ⟨keys, hkeys⟩ := ih x hx (everyObject_array_iff.mp hd x hx) hin
    have hchild : descend? [i.repr] (.array items) = some x := by
      simp [descend?, Reference.child?_item hi]
    exact ⟨[i.repr] ++ keys, by rw [referenceAt?_append hchild, hkeys]⟩
  | object entries ih =>
    obtain ⟨hnodup, hentries⟩ := everyObject_object_iff.mp hd
    rw [texts, List.mem_append] at h
    rcases h with hhere | hin
    · exact ⟨[], Option.mem_toList.mp hhere⟩
    · obtain ⟨⟨key, x⟩, hx, hin⟩ := Reference.mem_textsOfEntries.mp hin
      obtain ⟨keys, hkeys⟩ := ih _ hx (hentries _ hx) hin
      have hchild := descend?_entry (Keyed.lookup_of_mem hnodup hx)
      exact ⟨[key] ++ keys, by rw [referenceAt?_append hchild, hkeys]⟩
  | _ => simp [texts] at h

lemma Proper.schemaKeys {schema : Json} {keys : List String} {pointer : String} (h : Proper schema)
    (hp : pointerAt? schema keys = some pointer) : SchemaKeys keys := by
  obtain ⟨text, ht, -⟩ := Option.bind_eq_some_iff.mp hp
  exact h keys pointer hp keys text (List.prefix_refl keys) ht

/-- An internal reference inside a part stands at keys that go on from those of the part. -/
lemma exists_pointerAt?_of_mem_texts {schema part : Json} {path : List String}
    {text pointer : String} (hd : part.Distinct) (hpart : descend? path schema = some part)
    (ht : text ∈ texts part) (hp : pointer? text = some pointer) :
    ∃ keys, pointerAt? schema (path ++ keys) = some pointer := by
  obtain ⟨keys, hkeys⟩ := exists_referenceAt?_of_mem_texts hd ht
  refine ⟨keys, ?_⟩
  rw [pointerAt?_append hpart, pointerAt?, hkeys]
  exact hp

/-- Nothing inside a part is an internal reference, where schemas are expected neither there nor
further inside. -/
lemma Proper.pointer?_eq_none {schema part : Json} {path : List String} (h : Proper schema)
    (hd : part.Distinct) (hpart : descend? path schema = some part)
    (hpath : ∀ rest, ¬ SchemaKeys (path ++ rest)) : ∀ text ∈ texts part, pointer? text = none := by
  intro text ht
  rw [Option.eq_none_iff_forall_ne_some]
  intro pointer hp
  obtain ⟨keys, hkeys⟩ := exists_pointerAt?_of_mem_texts hd hpart ht hp
  exact hpath keys (h.schemaKeys hkeys)

/-- Nor inside a reference that stands where no schema is expected. -/
lemma Proper.pointer?_eq_none_of_reference {schema : Json} {entries : List (String × Json)}
    {path : List String} {reference : String} (h : Proper schema)
    (hd : (Json.object entries).Distinct) (hpart : descend? path schema = some (.object entries))
    (hpath : ¬ SchemaKeys path) (hr : textOf? entries = some reference) :
    ∀ text ∈ texts (.object entries), pointer? text = none := by
  intro text ht
  rw [Option.eq_none_iff_forall_ne_some]
  intro pointer hp
  obtain ⟨keys, hkeys⟩ := exists_pointerAt?_of_mem_texts hd hpart ht hp
  have hhere : referenceAt? schema path = some reference := by
    simp [referenceAt?, hpart, object?, hr]
  exact hpath (h (path ++ keys) pointer hkeys path reference (List.prefix_append path keys) hhere)

/-- A part that keys of one schema lead to, beneath no reference. -/
lemma ProperThrough.part {root schema part : Json} {path : List String}
    (h : ProperThrough root schema)
    (hpath : ∀ rest, SchemaKeys (path ++ rest) → SchemaKeys rest) (ho : Outside schema path)
    (hpart : descend? path schema = some part) : ProperThrough root part := by
  intro target htarget
  rcases htarget.cases_head with rfl | ⟨next, ⟨keys, pointer, hp, hout, hl⟩, hrest⟩
  · intro keys pointer hp outer text houter ht
    refine hpath outer (h schema .refl (path ++ keys) pointer ?_ (path ++ outer) text ?_ ?_)
    · rw [pointerAt?_append hpart, hp]
    · exact (List.prefix_append_right_inj path).mpr houter
    · rw [referenceAt?_append hpart, ht]
  · refine h target (.head ⟨path ++ keys, pointer, ?_, ho.append hpart hout, hl⟩ hrest)
    rw [pointerAt?_append hpart, hp]

/-! ### Proper schemas by their entries -/

lemma exists_text_of_pointerAt? {schema : Json} {keys : List String} {pointer : String}
    (h : pointerAt? schema keys = some pointer) :
    ∃ text ∈ texts schema, pointer? text = some pointer := by
  obtain ⟨text, ht, hp⟩ := Option.bind_eq_some_iff.mp h
  obtain ⟨entries, hentries, htext⟩ := Option.bind_eq_some_iff.mp ht
  obtain ⟨node, hnode, hobject⟩ := Option.bind_eq_some_iff.mp hentries
  cases node with
  | object entries =>
    cases hobject
    exact ⟨text, Reference.texts_subset_of_descend hnode (by simp [texts, htext]), hp⟩
  | _ => cases hobject

lemma proper_of_texts {schema : Json} (h : ∀ text ∈ texts schema, pointer? text = none) :
    Proper schema := by
  intro keys pointer hat
  obtain ⟨text, ht, hp⟩ := exists_text_of_pointerAt? hat
  rw [h text ht] at hp
  cases hp

lemma exists_entry_of_pointerAt? {entries : List (String × Json)} {key pointer : String}
    {keys : List String} (h : pointerAt? (.object entries) (key :: keys) = some pointer) :
    ∃ x, (key, x) ∈ entries ∧ descend? [key] (.object entries) = some x ∧
      pointerAt? x keys = some pointer := by
  cases hx : entries.lookup key with
  | none => simp [pointerAt?, referenceAt?, descend?, child?, hx] at h
  | some x =>
    have hpart := descend?_entry hx
    rw [← List.singleton_append, pointerAt?_append hpart] at h
    exact ⟨x, Keyed.mem_of_lookup hx, hpart, h⟩

/-- An object whose entries have no internal references inside, though it may be one. -/
lemma proper_of_entries {entries : List (String × Json)}
    (h : ∀ e ∈ entries, ∀ text ∈ texts e.2, pointer? text = none) : Proper (.object entries) := by
  intro keys pointer hat outer text houter _
  cases keys with
  | nil =>
    rw [List.prefix_nil.mp houter]
    exact .here
  | cons key rest =>
    obtain ⟨x, hx, -, hrest⟩ := exists_entry_of_pointerAt? hat
    obtain ⟨t, ht, hp⟩ := exists_text_of_pointerAt? hrest
    rw [h _ hx t ht] at hp
    cases hp

/-- An object whose entries have no internal references inside, or hold proper schemas. -/
lemma proper_of_held {entries : List (String × Json)} (hr : textOf? entries = none)
    (h : ∀ e ∈ entries, (∀ text ∈ texts e.2, pointer? text = none) ∨ e.1 ∈ holders ∧
      ∃ table, e.2 = .object table ∧ textOf? table = none ∧ ∀ p ∈ table, Proper p.2) :
    Proper (.object entries) := by
  intro keys pointer hat outer text houter href
  rcases keys with _ | ⟨key, rest⟩
  · simp [pointerAt?, referenceAt?, descend?, object?, hr] at hat
  obtain ⟨x, hx, hentry, hrest⟩ := exists_entry_of_pointerAt? hat
  rcases h _ hx with hnone | ⟨hkey, table, rfl, htable, hproper⟩
  · obtain ⟨t, ht, hp⟩ := exists_text_of_pointerAt? hrest
    rw [hnone t ht] at hp
    cases hp
  rcases rest with _ | ⟨name, below⟩
  · simp [pointerAt?, referenceAt?, descend?, object?, htable] at hrest
  obtain ⟨y, hy, hname, hbelow⟩ := exists_entry_of_pointerAt? hrest
  -- the table is no reference, so what is around the pointer is the object or one of the schemas
  rcases List.prefix_cons_iff.mp houter with rfl | ⟨inTable, rfl, hinTable⟩
  · exact .here
  rcases List.prefix_cons_iff.mp hinTable with rfl | ⟨inSchema, rfl, hinSchema⟩
  · simp [referenceAt?, hentry, object?, htable] at href
  rw [← List.singleton_append, referenceAt?_append hentry, ← List.singleton_append,
    referenceAt?_append hname] at href
  exact .held hkey (hproper _ hy below pointer hbelow inSchema text hinSchema href)

lemma properThrough_of_closed {root : Json} (schemas : List Json)
    (hproper : ∀ s ∈ schemas, Proper s)
    (hclosed : ∀ s ∈ schemas, ∀ text ∈ texts s, ∀ pointer ∈ pointer? text,
      ∀ t ∈ root.lookup? pointer, t ∈ schemas) {schema : Json} (h : schema ∈ schemas) :
    ProperThrough root schema := by
  intro target hreach
  refine hproper target ?_
  induction hreach with
  | refl => exact h
  | tail _ hnext ih =>
    obtain ⟨keys, pointer, hat, -, hl⟩ := hnext
    obtain ⟨text, ht, hp⟩ := exists_text_of_pointerAt? hat
    exact hclosed _ ih text ht pointer hp _ hl

end ApiTypes.Schema
