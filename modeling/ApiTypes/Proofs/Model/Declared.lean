import ApiTypes.Model.Reduce
import ApiTypes.Proofs.Description.Fields
import ApiTypes.Proofs.Keyed
import Mathlib.Data.List.Forall2

/-!
The endpoints of a model and the operations that declare them.

The outline of a description and its model are made from the same operations. One relation ties the
two, for both formats and both ways to merge parameters: every operation of the outline declares an
endpoint, the endpoint stands on a route with the path of the operation, and no other endpoints
stand on routes. The routes stand in the order of the paths, without those that have no operations,
and the endpoints in the order of the operations.

The body of an endpoint is declared among the parameters in the Swagger format: by the first one in
the body, or else by the form fields.
-/

namespace ApiTypes

open Model (Endpoint Route)

def OpenApi.pathOutline (entry : String × PathItem OpenApi.Operation OpenApi.Parameter) :
    Outline.Path where
  path := entry.1
  parameters := entry.2.parameters.map (RefOr.map OpenApi.Parameter.outline)
  operations := entry.2.operations.list.map fun (m, op) => op.outline m

def Swagger.pathOutline (entry : String × PathItem Swagger.Operation Swagger.Parameter) :
    Outline.Path where
  path := entry.1
  parameters := entry.2.parameters.map (RefOr.map Swagger.Parameter.outline)
  operations := entry.2.operations.list.map fun (m, op) => op.outline m

/-! ### Verbs -/

lemma Operations.mem_list {ω : Type} {ops : Operations ω} {m : Method} {op : ω} :
    (m, op) ∈ ops.list ↔ ops.at? m = some op := by
  simp [list, Method.mem_all]

/-- The verbs that have an operation, in the order of all verbs. -/
lemma Operations.map_fst_list {ω : Type} (ops : Operations ω) :
    ops.list.map Prod.fst = Method.all.filter fun m => (ops.at? m).isSome := by
  rw [list, List.map_filterMap, ← List.filterMap_eq_filter]
  refine congrArg (List.filterMap · Method.all) (funext fun m => ?_)
  cases h : ops.at? m <;> simp [Option.guard, h]

namespace Description

lemma sublist_methods {description : Description} {path : Outline.Path}
    (h : path ∈ description.outline) :
    (path.operations.map Outline.Operation.method).Sublist Method.all := by
  have hlist : ∀ {ω : Type} (ops : Operations ω), (ops.list.map Prod.fst).Sublist Method.all := by
    intro ω ops
    rw [ops.map_fst_list]
    exact List.filter_sublist
  cases description with
  | openApi doc =>
    obtain ⟨entry, -, rfl⟩ := List.mem_map.mp h
    rw [List.map_map]
    exact hlist entry.2.operations
  | swagger doc =>
    obtain ⟨entry, -, rfl⟩ := List.mem_map.mp h
    rw [List.map_map]
    exact hlist entry.2.operations

/-! ### Declared endpoints -/

/-- An operation on a path in outline, and the endpoint that stands for it in the model. -/
inductive Declares :
    Description → Merge → Outline.Path → Outline.Operation → Endpoint → Prop where
  | openApi {merge : Merge} {doc : OpenApi.Document}
      {entry : String × PathItem OpenApi.Operation OpenApi.Parameter} {m : Method}
      {op : OpenApi.Operation} : entry ∈ doc.paths → (m, op) ∈ entry.2.operations.list →
      Declares (.openApi doc) merge (OpenApi.pathOutline entry) (op.outline m)
        (op.model merge entry.2.parameters m)
  | swagger {merge : Merge} {doc : Swagger.Document}
      {entry : String × PathItem Swagger.Operation Swagger.Parameter} {m : Method}
      {op : Swagger.Operation} : entry ∈ doc.paths → (m, op) ∈ entry.2.operations.list →
      Declares (.swagger doc) merge (Swagger.pathOutline entry) (op.outline m)
        (op.model merge doc entry.2.parameters m)

variable {merge : Merge} {description : Description} {path : Outline.Path}
  {op : Outline.Operation} {endpoint : Endpoint}

lemma Declares.mem_outline (h : description.Declares merge path op endpoint) :
    path ∈ description.outline ∧ op ∈ path.operations := by
  cases h with
  | openApi hentry hop => exact ⟨List.mem_map_of_mem hentry, List.mem_map.mpr ⟨_, hop, rfl⟩⟩
  | swagger hentry hop => exact ⟨List.mem_map_of_mem hentry, List.mem_map.mpr ⟨_, hop, rfl⟩⟩

lemma exists_declares (merge : Merge) (hpath : path ∈ description.outline)
    (hop : op ∈ path.operations) : ∃ endpoint, description.Declares merge path op endpoint := by
  cases description with
  | openApi doc =>
    obtain ⟨entry, hentry, rfl⟩ := List.mem_map.mp hpath
    obtain ⟨⟨m, op⟩, hlisted, rfl⟩ := List.mem_map.mp hop
    exact ⟨_, .openApi hentry hlisted⟩
  | swagger doc =>
    obtain ⟨entry, hentry, rfl⟩ := List.mem_map.mp hpath
    obtain ⟨⟨m, op⟩, hlisted, rfl⟩ := List.mem_map.mp hop
    exact ⟨_, .swagger hentry hlisted⟩

lemma Declares.method (h : description.Declares merge path op endpoint) :
    endpoint.method = op.method := by
  cases h <;> rfl

/-- Where no path stands twice, an operation declares one endpoint only. -/
lemma Declares.unique {endpoint' : Endpoint}
    (hpaths : (description.outline.map Outline.Path.path).Nodup)
    (h : description.Declares merge path op endpoint)
    (h' : description.Declares merge path op endpoint') : endpoint' = endpoint := by
  cases h with
  | @openApi _ doc entry m op hentry hop =>
    rw [outline, OpenApi.Document.outline, List.map_map] at hpaths
    generalize hpath : OpenApi.pathOutline entry = path at h'
    generalize hoperation : op.outline m = operation at h'
    cases h' with
    | @openApi _ _ entry' m' op' hentry' hop' =>
      obtain rfl : entry = entry' := List.inj_on_of_nodup_map hpaths hentry hentry'
        (congrArg Outline.Path.path hpath)
      obtain rfl : m = m' := congrArg Outline.Operation.method hoperation
      rw [Operations.mem_list] at hop hop'
      rw [Option.some.inj (hop'.symm.trans hop)]
  | @swagger _ doc entry m op hentry hop =>
    rw [outline, Swagger.Document.outline, List.map_map] at hpaths
    generalize hpath : Swagger.pathOutline entry = path at h'
    generalize hoperation : op.outline m = operation at h'
    cases h' with
    | @swagger _ _ entry' m' op' hentry' hop' =>
      obtain rfl : entry = entry' := List.inj_on_of_nodup_map hpaths hentry hentry'
        (congrArg Outline.Path.path hpath)
      obtain rfl : m = m' := congrArg Outline.Operation.method hoperation
      rw [Operations.mem_list] at hop hop'
      rw [Option.some.inj (hop'.symm.trans hop)]

/-! ### Routes -/

lemma route?_eq_some_iff {path : String} {endpoints : List Endpoint} {route : Route} :
    Model.route? path endpoints = some route ↔ endpoints ≠ [] ∧ route = ⟨path, endpoints⟩ := by
  cases endpoints <;> simp [Model.route?, eq_comm]

lemma Declares.exists_route (h : description.Declares merge path op endpoint) :
    ∃ route ∈ (description.model merge).routes,
      route.path = path.path ∧ endpoint ∈ route.endpoints := by
  cases h with
  | @openApi _ doc entry m op hentry hop =>
    have hmem := List.mem_map_of_mem (f := fun o => o.2.model merge entry.2.parameters o.1) hop
    refine ⟨⟨entry.1, _⟩, List.mem_filterMap.mpr ⟨entry, hentry, ?_⟩, rfl, hmem⟩
    exact route?_eq_some_iff.mpr ⟨List.ne_nil_of_mem hmem, rfl⟩
  | @swagger _ doc entry m op hentry hop =>
    have hmem := List.mem_map_of_mem (f := fun o => o.2.model merge doc entry.2.parameters o.1) hop
    refine ⟨⟨entry.1, _⟩, List.mem_filterMap.mpr ⟨entry, hentry, ?_⟩, rfl, hmem⟩
    exact route?_eq_some_iff.mpr ⟨List.ne_nil_of_mem hmem, rfl⟩

/-- A route stands for a path: it has its text, and an endpoint for each operation. -/
structure StandsFor (description : Description) (merge : Merge) (path : Outline.Path)
    (route : Route) : Prop where
  text : route.path = path.path
  endpoints : List.Forall₂ (description.Declares merge path) path.operations route.endpoints

/-- Routes made path by path, whatever a format has for a path and an operation. -/
lemma forall₂_standsFor {ι ω : Type} (outline : ι → Outline.Path) {ops : ι → List ω}
    {operation : ω → Outline.Operation} {endpoint : ι → ω → Endpoint}
    (hops : ∀ i, (outline i).operations = (ops i).map operation) {paths : List ι}
    (hdeclares : ∀ i ∈ paths, ∀ op ∈ ops i,
      description.Declares merge (outline i) (operation op) (endpoint i op)) :
    List.Forall₂ (description.StandsFor merge)
      ((paths.map outline).filter fun path => path.operations ≠ [])
      (paths.filterMap fun i => Model.route? (outline i).path ((ops i).map (endpoint i))) := by
  induction paths with
  | nil => exact .nil
  | cons i rest ih =>
    rw [List.forall_mem_cons] at hdeclares
    have hrest := ih hdeclares.2
    rw [List.map_cons, List.filterMap_cons]
    by_cases hnone : ops i = []
    · -- a path without operations makes no route
      rw [List.filter_cons_of_neg (by simp [hops, hnone]), hnone]
      exact hrest
    · have hroute : Model.route? (outline i).path ((ops i).map (endpoint i)) =
          some ⟨(outline i).path, (ops i).map (endpoint i)⟩ :=
        route?_eq_some_iff.mpr ⟨by simpa using hnone, rfl⟩
      rw [List.filter_cons_of_pos (by simp [hops, hnone]), hroute]
      refine .cons ⟨rfl, ?_⟩ hrest
      rw [hops, List.forall₂_map_left_iff, List.forall₂_map_right_iff, List.forall₂_same]
      exact hdeclares.1

/-- The routes stand for the paths that have operations, in order. -/
lemma standsFor_routes (description : Description) (merge : Merge) :
    List.Forall₂ (description.StandsFor merge)
      (description.outline.filter fun path => path.operations ≠ [])
      (description.model merge).routes := by
  cases description with
  | openApi doc =>
    exact forall₂_standsFor OpenApi.pathOutline (fun _ => rfl)
      fun entry hentry op hop => .openApi hentry hop
  | swagger doc =>
    exact forall₂_standsFor Swagger.pathOutline (fun _ => rfl)
      fun entry hentry op hop => .swagger hentry hop

lemma exists_declares_of_mem_routes {route : Route}
    (hroute : route ∈ (description.model merge).routes) (hendpoint : endpoint ∈ route.endpoints) :
    ∃ path op, description.Declares merge path op endpoint := by
  cases description with
  | openApi doc =>
    obtain ⟨entry, hentry, hitem⟩ := List.mem_filterMap.mp hroute
    obtain ⟨-, rfl⟩ := route?_eq_some_iff.mp hitem
    obtain ⟨⟨m, op⟩, hop, rfl⟩ := List.mem_map.mp hendpoint
    exact ⟨_, _, .openApi hentry hop⟩
  | swagger doc =>
    obtain ⟨entry, hentry, hitem⟩ := List.mem_filterMap.mp hroute
    obtain ⟨-, rfl⟩ := route?_eq_some_iff.mp hitem
    obtain ⟨⟨m, op⟩, hop, rfl⟩ := List.mem_map.mp hendpoint
    exact ⟨_, _, .swagger hentry hop⟩

end Description

/-! ### Parameters and bodies -/

lemma Model.mem_of_mem_mergeParameters {merge : Merge} {ps : List Model.Parameter}
    {p : Model.Parameter} (h : p ∈ mergeParameters merge ps) : p ∈ ps := by
  cases merge with
  | concatenate => exact h
  | override => exact Keyed.mem_of_mem_gather h

/-- Merging neither adds nor drops a name or a location. -/
lemma Model.mem_map_key_mergeParameters {merge : Merge} {ps : List Model.Parameter}
    {key : String × Location} :
    key ∈ (mergeParameters merge ps).map Parameter.key ↔ key ∈ ps.map Parameter.key := by
  cases merge with
  | concatenate => rfl
  | override => exact Keyed.mem_map_gather

namespace Swagger

/-- The parameters that stand on an operation or on its path, those of the path first. -/
def Operation.declared (shared : List (RefOr Parameter)) (op : Operation) : List Parameter :=
  (shared ++ op.parameters).filterMap RefOr.item?

/-- The first parameter in the body. -/
def inBody? (parameters : List Parameter) : Option Parameter :=
  parameters.find? fun p => p.location = "body"

def formFields (parameters : List Parameter) : List Parameter :=
  parameters.filter fun p => p.location = "formData"

lemma body?_of_inBody {parameters : List Parameter} {p : Parameter}
    (h : inBody? parameters = some p) (consumes : Option String) :
    body? parameters consumes = p.schema.map fun schema =>
      { contentType := consumes.getD Model.jsonContent, schema, required := p.required } := by
  rw [inBody?] at h
  rw [body?, h]

lemma body?_of_form {parameters : List Parameter} (h : inBody? parameters = none)
    (hform : formFields parameters ≠ []) (consumes : Option String) :
    body? parameters consumes = some
      { contentType := consumes.getD Model.formContent
        schema := formSchema (formFields parameters)
        required := (formFields parameters).any fun p => p.required } := by
  rw [inBody?] at h
  rw [body?, h]
  simp only
  split
  · next hnil => exact absurd hnil hform
  · rfl

lemma body?_of_nothing {parameters : List Parameter} (h : inBody? parameters = none)
    (hform : formFields parameters = []) (consumes : Option String) :
    body? parameters consumes = none := by
  rw [inBody?] at h
  rw [formFields] at hform
  rw [body?, h, hform]

end Swagger

end ApiTypes
