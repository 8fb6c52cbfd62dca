import ApiTypes.Proofs.Model.Declared

/-!
Overriding and bodies.

When the parameters of an operation override those of its path, the parameters of the endpoint are
those in effect: one for each name and location, the one that was declared last. The body of a
Swagger operation is made of parameters too, but of all that are declared. It is the first parameter
in the body that counts, whatever replaces it. A form field has the schema of its last declaration,
and it is required if any of its declarations says so.
-/

namespace ApiTypes

lemma Location.eq_name_of_ofName? {text : String} {location : Location}
    (h : ofName? text = some location) : text = location.name := by
  unfold ofName? at h
  split at h <;> cases h <;> rfl

namespace Swagger

/-! ### Parameters in effect -/

/-- A parameter is told from others by its name and its location. -/
def Parameter.key (p : Parameter) : String × String := (p.name, p.location)

/-- The parameters in effect: in the place of the first one with a name and a location, the last one
that has them. -/
def effective (declared : List Parameter) : List Parameter := Keyed.gather Parameter.key declared

/-- The parameter that is declared last with a name and a location. -/
def last? (declared : List Parameter) (key : String × String) : Option Parameter :=
  declared.reverse.find? fun p => p.key = key

lemma mem_effective_iff {declared : List Parameter} {p : Parameter} :
    p ∈ effective declared ↔ last? declared p.key = some p := Keyed.mem_gather_iff

lemma location_eq_of_key_eq {p q : Parameter} (h : p.key = q.key) : p.location = q.location :=
  congrArg Prod.snd h

/-- The merged parameters of the model are those in effect. -/
lemma mergeParameters_override (declared : List Parameter) :
    Model.mergeParameters .override (declared.filterMap Parameter.model?) =
      (effective declared).filterMap Parameter.model? := by
  refine (Keyed.filterMap_gather (fun p q h => ?_) (fun p q a b ha hb => ?_) declared).symm
  · simp [Parameter.model?, location_eq_of_key_eq h]
  · obtain ⟨s, hs, rfl⟩ := Option.map_eq_some_iff.mp ha
    obtain ⟨t, ht, rfl⟩ := Option.map_eq_some_iff.mp hb
    have hlocation : s = t ↔ p.location = q.location := by
      rw [Location.eq_name_of_ofName? hs, Location.eq_name_of_ofName? ht]
      cases s <;> cases t <;> decide
    simp [Model.Parameter.key, Parameter.key, hlocation]

/-! ### Bodies of the parameters in effect -/

/-- The first parameter in the body gives way to the last one of its name. -/
lemma inBody?_effective (declared : List Parameter) :
    inBody? (effective declared) = (inBody? declared).bind fun p => last? declared p.key :=
  Keyed.find?_gather_of_key (fun p q h => by rw [location_eq_of_key_eq h]) declared

lemma inBody?_effective_of_none {declared : List Parameter} (h : inBody? declared = none) :
    inBody? (effective declared) = none := by
  rw [inBody?_effective, h, Option.bind_none]

lemma formFields_effective (declared : List Parameter) :
    formFields (effective declared) = effective (formFields declared) :=
  Keyed.filter_gather (fun p q h => by rw [location_eq_of_key_eq h]) declared

lemma formFields_effective_eq_nil_iff {declared : List Parameter} :
    formFields (effective declared) = [] ↔ formFields declared = [] := by
  rw [formFields_effective, effective, Keyed.gather_eq_nil_iff]

lemma exists_last? {declared : List Parameter} {p : Parameter} (h : p ∈ declared) :
    ∃ q, last? declared p.key = some q :=
  Option.isSome_iff_exists.mp (List.find?_isSome.mpr ⟨p, List.mem_reverse.mpr h, by simp⟩)

lemma key_of_mem_formFields {parameters : List Parameter} {p : Parameter}
    (h : p ∈ formFields parameters) : p.key = (p.name, "formData") := by
  rw [Parameter.key, of_decide_eq_true (List.mem_filter.mp h).2]

/-- The names of those that are required, once for each such declaration. -/
def requiredOf (parameters : List Parameter) : List String :=
  (parameters.filter fun p => p.required).map Parameter.name

/-- The schemas of the form fields, one for each name. -/
def fieldSchemas (fields : List Parameter) : List (String × Json) :=
  Keyed.gather Prod.fst (fields.map fun p => (p.name, p.inlineSchema))

lemma fieldSchemas_effective (declared : List Parameter) :
    fieldSchemas (formFields (effective declared)) = fieldSchemas (formFields declared) := by
  rw [formFields_effective, fieldSchemas, fieldSchemas, effective]
  refine Keyed.gather_map_gather fun p hp q hq => ?_
  rw [key_of_mem_formFields hp, key_of_mem_formFields hq]
  simp

lemma formSchema_eq (fields : List Parameter) : formSchema fields =
    .object ([("type", .string "object"), ("properties", .object (fieldSchemas fields))] ++
      if requiredOf fields = [] then []
      else [("required", .array ((requiredOf fields).map .string))]) := by
  have hnames : ((fields.filter fun p => p.required).map fun p => Json.string p.name) =
      (requiredOf fields).map .string := by
    rw [requiredOf, List.map_map]
    rfl
  rw [formSchema, hnames]
  simp only [List.isEmpty_iff, List.map_eq_nil_iff]
  rfl

lemma get?_properties_formSchema (fields : List Parameter) :
    (formSchema fields).get? "properties" = some (.object (fieldSchemas fields)) := rfl

lemma requiredNames_formSchema (fields : List Parameter) :
    Schema.requiredNames (formSchema fields) = requiredOf fields := by
  have hstrings (names : List String) : (names.map Json.string).filterMap Json.string? = names := by
    rw [List.filterMap_map]
    exact List.filterMap_some
  rw [formSchema_eq, Schema.requiredNames, Schema.list?]
  by_cases h : requiredOf fields = []
  · simp [h, Json.get?, Keyed.lookup_cons]
  · simp [h, Json.get?, Keyed.lookup_cons, Json.array?, hstrings]

/-- The schema of a form tells the schemas of its fields and which of them are required. -/
lemma formSchema_eq_iff {fields others : List Parameter} : formSchema fields = formSchema others ↔
    fieldSchemas fields = fieldSchemas others ∧ requiredOf fields = requiredOf others := by
  constructor
  · intro h
    have hproperties := congrArg (Json.get? "properties") h
    rw [get?_properties_formSchema, get?_properties_formSchema, Option.some.injEq,
      Json.object.injEq] at hproperties
    exact ⟨hproperties, by rw [← requiredNames_formSchema, h, requiredNames_formSchema]⟩
  · rintro ⟨hschemas, hrequired⟩
    rw [formSchema_eq, formSchema_eq, hschemas, hrequired]

/-! ### Required fields -/

lemma any_required (parameters : List Parameter) :
    (parameters.any fun p => p.required) = !(requiredOf parameters).isEmpty := by
  rw [Bool.eq_iff_iff, List.any_eq_true]
  simp [requiredOf, List.isEmpty_eq_false_iff]

lemma mem_requiredOf_formFields {declared : List Parameter} {name : String} :
    name ∈ requiredOf (formFields declared) ↔
      ∃ p ∈ declared, p.key = (name, "formData") ∧ p.required = true := by
  simp only [requiredOf, formFields, List.mem_map, List.mem_filter, decide_eq_true_eq,
    Parameter.key, Prod.mk.injEq]
  constructor
  · rintro ⟨p, ⟨⟨hp, hlocation⟩, hrequired⟩, rfl⟩
    exact ⟨p, hp, ⟨rfl, hlocation⟩, hrequired⟩
  · rintro ⟨p, hp, ⟨rfl, hlocation⟩, hrequired⟩
    exact ⟨p, ⟨⟨hp, hlocation⟩, hrequired⟩, rfl⟩

/-- Of the parameters in effect, those are required whose last declaration says so. -/
lemma mem_requiredOf_effective {declared : List Parameter} {name : String} :
    name ∈ requiredOf (formFields (effective declared)) ↔
      ∃ p, last? declared (name, "formData") = some p ∧ p.required = true := by
  rw [mem_requiredOf_formFields]
  constructor
  · rintro ⟨p, hp, hkey, hrequired⟩
    rw [mem_effective_iff, hkey] at hp
    exact ⟨p, hp, hrequired⟩
  · rintro ⟨p, hlast, hrequired⟩
    have hkey : p.key = (name, "formData") := by simpa using List.find?_some hlast
    exact ⟨p, mem_effective_iff.mpr (hkey ▸ hlast), hkey, hrequired⟩

/-! ### The body of an operation -/

/-- Replacing parameters leaves the body as it is. -/
structure BodyKept (declared : List Parameter) : Prop where
  /-- The first parameter in the body says the same as the last one of its name. -/
  inBody : ∀ p q, inBody? declared = some p → last? declared p.key = some q →
    q.schema = p.schema ∧ (p.schema = none ∨ q.required = p.required)
  /-- Or the form fields in effect are required as all that are declared. -/
  form : inBody? declared = none →
    requiredOf (formFields (effective declared)) = requiredOf (formFields declared)

lemma body?_effective_eq_iff (declared : List Parameter) (consumes : Option String) :
    body? declared consumes = body? (effective declared) consumes ↔ BodyKept declared := by
  cases hbody : inBody? declared with
  | some p =>
    obtain ⟨q, hq⟩ := exists_last? (List.mem_of_find?_eq_some hbody)
    have hlast : inBody? (effective declared) = some q := by
      rw [inBody?_effective, hbody, Option.bind_some, hq]
    rw [body?_of_inBody hbody, body?_of_inBody hlast]
    constructor
    · intro h
      refine ⟨fun p' q' hp' hq' => ?_, fun hnone => by simp [hbody] at hnone⟩
      obtain rfl : p = p' := Option.some.inj (hbody.symm.trans hp')
      obtain rfl : q = q' := Option.some.inj (hq.symm.trans hq')
      cases hps : p.schema <;> cases hqs : q.schema <;> simp_all
    · intro h
      obtain ⟨hschema, hrequired⟩ := h.inBody p q hbody hq
      rcases hrequired with hnone | hrequired
      · rw [hschema, hnone, Option.map_none, Option.map_none]
      · rw [hschema, hrequired]
  | none =>
    have hnone := inBody?_effective_of_none hbody
    have hkept : BodyKept declared ↔
        requiredOf (formFields (effective declared)) = requiredOf (formFields declared) :=
      ⟨fun h => h.form hbody, fun h => ⟨fun p q hp => by simp [hbody] at hp, fun _ => h⟩⟩
    rw [hkept]
    by_cases hform : formFields declared = []
    · have hform' := formFields_effective_eq_nil_iff.mpr hform
      rw [body?_of_nothing hbody hform, body?_of_nothing hnone hform', hform, hform']
      simp
    · have hform' := mt formFields_effective_eq_nil_iff.mp hform
      rw [body?_of_form hbody hform, body?_of_form hnone hform', Option.some.injEq,
        Model.Body.mk.injEq, formSchema_eq_iff, fieldSchemas_effective, any_required, any_required]
      constructor
      · exact fun h => h.2.1.2.symm
      · exact fun h => ⟨rfl, ⟨rfl, h.symm⟩, by rw [h]⟩

/-- The body that the parameters in effect make. -/
def Operation.effectiveBody? (doc : Document) (shared : List (RefOr Parameter)) (op : Operation) :
    Option Model.Body :=
  body? (effective (op.declared shared)) (firstMediaType op.consumes doc.consumes)

/-- **Bodies are not overridden.** When parameters override each other, the parameters of an
endpoint are those in effect, but its body is the body of those in effect just if replacing them
leaves it as it is. A form has the media type and the schemas of the fields in effect; a field is
required if some declaration of it says so, while in effect it is the last one that counts. -/
theorem Operation.body_of_override (doc : Document) (shared : List (RefOr Parameter)) (m : Method)
    (op : Operation) :
    (op.model .override doc shared m).parameters =
      (effective (op.declared shared)).filterMap Parameter.model? ∧
    ((op.model .override doc shared m).body = op.effectiveBody? doc shared ↔
      BodyKept (op.declared shared)) ∧
    (inBody? (op.declared shared) = none →
      ∀ body, (op.model .override doc shared m).body = some body →
        ∃ intended, op.effectiveBody? doc shared = some intended ∧
          body.contentType = intended.contentType ∧
          body.schema.get? "properties" = intended.schema.get? "properties" ∧
          ∀ name,
            (name ∈ Schema.requiredNames body.schema ↔
              ∃ p ∈ op.declared shared, p.key = (name, "formData") ∧ p.required = true) ∧
            (name ∈ Schema.requiredNames intended.schema ↔
              ∃ p, last? (op.declared shared) (name, "formData") = some p ∧
                p.required = true)) := by
  refine ⟨mergeParameters_override _, body?_effective_eq_iff _ _, fun hbody body h => ?_⟩
  change body? (op.declared shared) (firstMediaType op.consumes doc.consumes) = some body at h
  have hform : formFields (op.declared shared) ≠ [] := by
    intro hnil
    rw [body?_of_nothing hbody hnil] at h
    cases h
  have hintended : op.effectiveBody? doc shared = _ := body?_of_form
    (inBody?_effective_of_none hbody) (mt formFields_effective_eq_nil_iff.mp hform) _
  rw [body?_of_form hbody hform, Option.some.injEq] at h
  subst h
  refine ⟨_, hintended, rfl, ?_, fun name => ⟨?_, ?_⟩⟩
  · rw [get?_properties_formSchema, get?_properties_formSchema, fieldSchemas_effective]
  · rw [requiredNames_formSchema, mem_requiredOf_formFields]
  · rw [requiredNames_formSchema, mem_requiredOf_effective]

/-! ### Replaced bodies -/

/-- A parameter in the body. -/
def bodyParameter (schema : Json) (required : Bool) : Parameter where
  name := "b"
  location := "body"
  required := required
  description := none
  schema := some schema
  type := none
  format := none
  items := none
  enumeration := none

def formField (type : String) (required : Bool) : Parameter where
  name := "f"
  location := "formData"
  required := required
  description := none
  schema := none
  type := some (.string type)
  format := none
  items := none
  enumeration := none

/-- An operation with one parameter of its own. -/
def Operation.taking (own : Parameter) : Operation where
  parameters := [.item own]

/-- A document with one such operation, on a path with a parameter. -/
def Document.overriding (shared own : Parameter) : Document where
  swagger := "2.0"
  info := ⟨"T", "1", none⟩
  consumes := []
  produces := []
  paths := [("/a", { parameters := [.item shared], operations := { post := some (.taking own) } })]
  definitions := []

def Document.bodies (doc : Document) : List (Option Model.Body) :=
  (doc.model .override).routes.flatMap fun route => route.endpoints.map Model.Endpoint.body

/-- The body of the operation that the parameters in effect make. -/
def Document.intendedBody? (shared own : Parameter) : Option Model.Body :=
  (Operation.taking own).effectiveBody? (.overriding shared own) [.item shared]

/-- A body that an operation replaces stays the body of the path, and a form field that it makes
optional stays required. -/
theorem overridden_bodies_stay :
    let text : Json := .object [("type", .string "string")]
    let number : Json := .object [("type", .string "number")]
    let form : Json := .object
      [("type", .string "object"), ("properties", .object [("f", number)])]
    let requiring : Json := .object
      [("type", .string "object"), ("properties", .object [("f", number)]),
        ("required", .array [.string "f"])]
    (Document.overriding (bodyParameter text false) (bodyParameter number true)).bodies =
        [some ⟨"application/json", text, false⟩] ∧
      Document.intendedBody? (bodyParameter text false) (bodyParameter number true) =
        some ⟨"application/json", number, true⟩ ∧
      (Document.overriding (formField "string" true) (formField "number" false)).bodies =
        [some ⟨"application/x-www-form-urlencoded", requiring, true⟩] ∧
      Document.intendedBody? (formField "string" true) (formField "number" false) =
        some ⟨"application/x-www-form-urlencoded", form, false⟩ :=
  ⟨rfl, rfl, rfl, rfl⟩

end Swagger

end ApiTypes
