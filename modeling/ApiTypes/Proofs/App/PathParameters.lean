import ApiTypes.Proofs.App.Elysia
import ApiTypes.Proofs.Description.Check
import ApiTypes.Proofs.Description.Template
import ApiTypes.Proofs.Model.Declared

/-!
The path parameters of an endpoint and the placeholders of its path.

A description that passes its checks declares every placeholder of a path, and no other path
parameter, unless a reference was left among the parameters. Its model keeps the names, whichever
way parameters are merged, and the object that a framework has for them has each name once. So its
keys are the placeholders, which are the names behind the colons of the route.
-/

namespace ApiTypes

open Model (Endpoint Route)

/-! ### Members by name -/

namespace TypeExpr

/-- The names of the members; a type that is no object has none. -/
def names : TypeExpr → List String
  | .object _ members => members.map Member.name
  | _ => []

def member? (name : String) : TypeExpr → Option TypeExpr
  | .object _ members => (members.find? fun m => m.name = name).map Member.type
  | _ => none

lemma names_objectOf (layout : ObjectLayout) (members : List (Member TypeExpr)) :
    (objectOf layout members).names = (members.map Member.name).eraseDups :=
  Keyed.map_gather members

lemma member?_objectOf (name : String) (layout : ObjectLayout) (members : List (Member TypeExpr)) :
    (objectOf layout members).member? name =
      (members.reverse.find? fun m => m.name = name).map Member.type := by
  rw [objectOf, member?, Keyed.find?_gather]

end TypeExpr

open TypeExpr (names member?)

/-! ### The object of the path parameters -/

/-- The object of the path parameters in what a framework has for an endpoint. -/
def Framework.pathObject? (framework : Framework) (endpoint : Endpoint) : Option TypeExpr :=
  match framework with
  | .hono => ((framework.methodType endpoint).member? "input").bind (member? "param")
  | .elysia => (framework.methodType endpoint).member? "params"

/-- What stands there for an endpoint without path parameters. -/
def Framework.withoutPath? : Framework → Option TypeExpr
  | .hono => none
  | .elysia => some .emptyObject

/-- The keys of the object of the path parameters. -/
def Framework.pathNames (framework : Framework) (endpoint : Endpoint) : List String :=
  ((framework.pathObject? endpoint).map names).getD []

section

variable {endpoint : Endpoint}

lemma names_parameterObject? (endpoint : Endpoint) (location : Location) (optional : Bool) :
    ((parameterObject? endpoint location optional).map names).getD [] =
      ((endpoint.parametersIn location).map Model.Parameter.name).eraseDups := by
  unfold parameterObject?
  cases h : endpoint.parametersIn location with
  | nil => rfl
  | cons p ps =>
    simp only [Option.map_some, Option.getD_some, TypeExpr.names_objectOf, List.map_map]
    rfl

lemma find?_field (type? : Option TypeExpr) (key name : String) :
    ((type?.map (Member.field key)).toList.reverse.find? fun m => m.name = name) =
      if key = name then type?.map (Member.field key) else none := by
  cases type? with
  | none => simp
  | some type => by_cases h : key = name <;> simp [Member.field, Member.name, h]

lemma Hono.member?_inputType (endpoint : Endpoint) (name : String) :
    (inputType endpoint).member? name =
      ((inputMembers endpoint).reverse.find? fun m => m.name = name).map Member.type := by
  unfold inputType
  split
  · next h => rw [h]; rfl
  · exact TypeExpr.member?_objectOf name .block _

lemma pathObject?_hono (endpoint : Endpoint) :
    Framework.hono.pathObject? endpoint = parameterObject? endpoint .path false := by
  have hinput : (Hono.methodType endpoint).member? "input" = some (Hono.inputType endpoint) := by
    rw [Hono.methodType, TypeExpr.member?_objectOf]
    rfl
  have hparam : (Hono.inputType endpoint).member? "param" =
      parameterObject? endpoint .path false := by
    have hjson : (endpoint.jsonBody?.map fun b => Member.field "json" (Schema.toType b.schema)) =
        (endpoint.jsonBody?.map fun b => Schema.toType b.schema).map (Member.field "json") := by
      rw [Option.map_map]
      rfl
    rw [Hono.member?_inputType, Hono.inputMembers, hjson]
    simp only [List.reverse_append, List.find?_append, find?_field]
    simp [Function.comp_def, Member.field]
  rw [Framework.pathObject?, Framework.methodType, hinput, Option.bind_some, hparam]

lemma pathObject?_elysia (endpoint : Endpoint) :
    Framework.elysia.pathObject? endpoint =
      some ((parameterObject? endpoint .path false).getD .emptyObject) := by
  rw [Framework.pathObject?, Framework.methodType, Elysia.methodType, TypeExpr.member?_objectOf]
  rfl

lemma pathNames_eq (framework : Framework) (endpoint : Endpoint) :
    framework.pathNames endpoint =
      ((endpoint.parametersIn .path).map Model.Parameter.name).eraseDups := by
  rw [← names_parameterObject? endpoint .path false, Framework.pathNames]
  cases framework with
  | hono => rw [pathObject?_hono]
  | elysia =>
    rw [pathObject?_elysia]
    cases parameterObject? endpoint .path false <;> rfl

/-- An object without keys is left out or is the empty object. -/
lemma pathObject?_of_pathNames {framework : Framework} (h : framework.pathNames endpoint = []) :
    framework.pathObject? endpoint = framework.withoutPath? := by
  have hnone : parameterObject? endpoint .path false = none := by
    have hempty : endpoint.parametersIn .path = [] := by
      refine List.eq_nil_iff_forall_not_mem.mpr fun p hp => ?_
      have hname := List.mem_eraseDups.mpr (List.mem_map_of_mem (f := Model.Parameter.name) hp)
      rw [← pathNames_eq framework, h] at hname
      cases hname
    rw [parameterObject?, hempty]
  cases framework with
  | hono => rw [pathObject?_hono, hnone, Framework.withoutPath?]
  | elysia => rw [pathObject?_elysia, hnone, Framework.withoutPath?]; rfl

end

/-! ### Names from the description to the endpoint -/

lemma Location.ofName?_eq_path {text : String} : ofName? text = some .path ↔ text = "path" := by
  unfold ofName?
  split <;> simp_all

lemma RefOr.filterMap_item?_map {α β : Type} (f : α → β) (xs : List (RefOr α)) :
    (xs.map (RefOr.map f)).filterMap item? = (xs.filterMap item?).map f := by
  induction xs with
  | nil => rfl
  | cons x xs ih => cases x <;> simp [RefOr.map, item?, List.filterMap_cons, ih]

/-- The path parameters that stand in the description are those of the endpoint, whatever else a
format has for a parameter. -/
lemma mem_parametersIn_iff {π : Type} {outline : π → Outline.Parameter}
    {model? : π → Option Model.Parameter}
    (hkeys : ∀ p, (model? p).map Model.Parameter.key =
      (Location.ofName? (outline p).location).map fun location => ((outline p).name, location))
    {merge : Merge} {all : List (RefOr π)} {endpoint : Endpoint} {path : Outline.Path}
    {op : Outline.Operation}
    (hendpoint : endpoint.parameters =
      Model.mergeParameters merge ((all.filterMap RefOr.item?).filterMap model?))
    (hall : Outline.allParameters path op = all.map (RefOr.map outline)) (name : String) :
    name ∈ (endpoint.parametersIn .path).map Model.Parameter.name ↔
      ∃ p ∈ Outline.pathParameters path op, p.name = name := by
  have hkey : name ∈ (endpoint.parametersIn .path).map Model.Parameter.name ↔
      (name, Location.path) ∈ endpoint.parameters.map Model.Parameter.key := by
    simp [Endpoint.parametersIn, Model.Parameter.key, and_assoc, and_comm]
  have hone : ∀ p, (model? p).map Model.Parameter.key = some (name, Location.path) ↔
      (outline p).location = "path" ∧ (outline p).name = name := by
    intro p
    simp [hkeys, ← Location.ofName?_eq_path, and_comm]
  rw [hkey, hendpoint, Model.mem_map_key_mergeParameters, List.map_filterMap, List.mem_filterMap,
    Outline.pathParameters, hall, RefOr.filterMap_item?_map]
  simp only [hone, List.mem_filter, List.mem_map, decide_eq_true_eq]
  constructor
  · rintro ⟨p, hp, hpath, hname⟩
    exact ⟨outline p, ⟨⟨p, hp, rfl⟩, hpath⟩, hname⟩
  · rintro ⟨_, ⟨⟨p, hp, rfl⟩, hpath⟩, hname⟩
    exact ⟨p, hp, hpath, hname⟩

lemma Description.Declares.mem_pathNames_iff {merge : Merge} {description : Description}
    {path : Outline.Path} {op : Outline.Operation} {endpoint : Endpoint}
    (h : description.Declares merge path op endpoint) (framework : Framework) (name : String) :
    name ∈ framework.pathNames endpoint ↔ ∃ p ∈ Outline.pathParameters path op, p.name = name := by
  rw [pathNames_eq, List.mem_eraseDups]
  cases h with
  | @openApi _ doc entry m op hentry hop =>
    have hkeys : ∀ p : OpenApi.Parameter, p.model?.map Model.Parameter.key =
        (Location.ofName? p.outline.location).map fun l => (p.outline.name, l) :=
      fun p => Option.map_map ..
    have hall : Outline.allParameters (OpenApi.pathOutline entry) (op.outline m) =
        (entry.2.parameters ++ op.parameters).map (RefOr.map OpenApi.Parameter.outline) :=
      List.map_append.symm
    exact mem_parametersIn_iff hkeys rfl hall name
  | @swagger _ doc entry m op hentry hop =>
    have hkeys : ∀ p : Swagger.Parameter, p.model?.map Model.Parameter.key =
        (Location.ofName? p.outline.location).map fun l => (p.outline.name, l) :=
      fun p => Option.map_map ..
    have hall : Outline.allParameters (Swagger.pathOutline entry) (op.outline m) =
        (entry.2.parameters ++ op.parameters).map (RefOr.map Swagger.Parameter.outline) :=
      List.map_append.symm
    exact mem_parametersIn_iff hkeys rfl hall name

/-! ### The theorem -/

lemma Hono.colonPath_mem_names {model : Model} {route : Route} (h : route ∈ model.routes) :
    Template.colonPath route.path ∈ (routesType model).names := by
  rw [routesType, TypeExpr.names_objectOf, List.mem_eraseDups, List.map_map]
  exact List.mem_map_of_mem h

/-- **Path parameters are placeholders.** In a description that is accepted every operation has an
endpoint on a route of its path, in whichever way parameters are merged. Both frameworks give the
endpoint an object whose keys are among the placeholders of the path; without references they are
all of them, and so they are the names that stand behind colons in the key of the route. -/
theorem pathNames_eq_placeholders {dereference : Bool} {root : Json} {description : Description}
    (h : Description.validate dereference root = .ok description) (merge : Merge) :
    (∀ path ∈ description.outline, ∀ op ∈ path.operations,
      ∃ endpoint, description.Declares merge path op endpoint) ∧
    ∀ path op endpoint, description.Declares merge path op endpoint →
      (∃ route ∈ (description.model merge).routes,
        route.path = path.path ∧ endpoint ∈ route.endpoints) ∧
      Template.colonPath path.path ∈ (Hono.routesType (description.model merge)).names ∧
      (∀ rewritten,
        Template.Rewrites path.path.toList (Template.colonPath path.path).toList rewritten ↔
          rewritten = Template.placeholders path.path) ∧
      ∀ framework : Framework,
        (framework.pathNames endpoint).Nodup ∧
        (framework.pathNames endpoint = [] →
          framework.pathObject? endpoint = framework.withoutPath?) ∧
        (∀ name ∈ framework.pathNames endpoint, name ∈ Template.placeholders path.path) ∧
        ((∀ p ∈ Outline.allParameters path op, p.isReference = false) →
          ∀ name, name ∈ framework.pathNames endpoint ↔
            name ∈ Template.placeholders path.path) := by
  refine ⟨fun path hpath op hop => Description.exists_declares merge hpath hop, ?_⟩
  intro path op endpoint hdeclares
  obtain ⟨hpath, hop⟩ := hdeclares.mem_outline
  obtain ⟨hparameters, hplaceholders, -⟩ := Outline.checkParts_eq_ok.mp
    (Description.checkParts_of_check (Description.check_of_validate h) path hpath op hop)
  obtain ⟨route, hroute, hsame, hendpoint⟩ := hdeclares.exists_route
  have hsubset : ∀ framework : Framework, ∀ name ∈ framework.pathNames endpoint,
      name ∈ Template.placeholders path.path := by
    intro framework name hname
    obtain ⟨p, hp, rfl⟩ := (hdeclares.mem_pathNames_iff framework name).mp hname
    exact (Outline.checkParameter_eq_ok.mp (hparameters p hp)).1
  refine ⟨⟨route, hroute, hsame, hendpoint⟩, hsame ▸ Hono.colonPath_mem_names hroute,
    Template.rewrites_colonPath_iff path.path, fun framework => ⟨?_, pathObject?_of_pathNames,
    hsubset framework, fun hinline name => ⟨hsubset framework name, fun hname => ?_⟩⟩⟩
  · rw [pathNames_eq]
    exact List.nodup_eraseDups _
  · rcases Outline.checkPlaceholder_eq_ok.mp (hplaceholders name hname) with ⟨p, hp, href⟩ | hp
    · rw [hinline p hp] at href
      cases href
    · exact (hdeclares.mem_pathNames_iff framework name).mpr hp

/-- A placeholder twice and an empty pair of braces. -/
def sampleTemplate : String := "/u/\x7bid\x7d/\x7b\x7d/\x7bv\x7d/\x7bid\x7d"

def samplePathParameter (name : String) : OpenApi.Parameter :=
  ⟨name, "path", true, none, none, none⟩

def sampleOperation : OpenApi.Operation where
  parameters := [.item (samplePathParameter "v"), .item (samplePathParameter "id")]

/-- The path and the operation both declare a parameter. -/
def samplePathItem : PathItem OpenApi.Operation OpenApi.Parameter where
  parameters := [.item (samplePathParameter "id")]
  operations := { get := some sampleOperation }

def sampleDocument : OpenApi.Document where
  openapi := "3.0.0"
  info := ⟨"Users", "1", none⟩
  paths := [(sampleTemplate, samplePathItem)]
  components := none

/-- The same document as a value. -/
def sampleRoot : Json :=
  let parameter (name : String) : Json :=
    .object [("name", .string name), ("in", .string "path"), ("required", .bool true)]
  .object [("openapi", .string "3.0.0"),
    ("info", .object [("title", .string "Users"), ("version", .string "1")]),
    ("paths", .object [(sampleTemplate, .object
      [("parameters", .array [parameter "id"]),
       ("get", .object [("parameters", .array [parameter "v", parameter "id"])])])])]

theorem sampleDocument_pathNames :
    Description.validate false sampleRoot = .ok (.openApi sampleDocument) ∧
      ∀ (framework : Framework) (name : String),
        name ∈ framework.pathNames
            (sampleOperation.model .override samplePathItem.parameters .get) ↔
          name = "id" ∨ name = "v" := by
  have hvalid : Description.validate false sampleRoot = .ok (.openApi sampleDocument) := rfl
  refine ⟨hvalid, fun framework name => ?_⟩
  have hentry : (sampleTemplate, samplePathItem) ∈ sampleDocument.paths :=
    List.mem_singleton.mpr rfl
  have hop : (Method.get, sampleOperation) ∈ samplePathItem.operations.list :=
    List.mem_singleton.mpr rfl
  obtain ⟨-, hall⟩ := pathNames_eq_placeholders hvalid .override
  obtain ⟨-, -, -, hframework⟩ := hall _ _ _ (.openApi hentry hop)
  obtain ⟨-, -, -, hnames⟩ := hframework framework
  have hplaceholders : Template.placeholders sampleTemplate = ["id", "v", "id"] := rfl
  rw [hnames (by decide)]
  change name ∈ Template.placeholders sampleTemplate ↔ _
  rw [hplaceholders]
  simp [or_comm]

end ApiTypes
