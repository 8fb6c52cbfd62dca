import ApiTypes.App.Framework
import ApiTypes.Proofs.App.RouteTree
import ApiTypes.Proofs.App.SegmentLookup
import ApiTypes.Proofs.Model.Declared

/-!
The tree of an Elysia app type has an entry for every endpoint and no others.
-/

namespace ApiTypes

namespace Elysia

open Model

lemma methodType_eq (endpoint : Endpoint) :
    methodType endpoint =
      .object .block (inputMembers endpoint ++ [.field "response" (outputType endpoint)]) := by
  have hnames : (inputMembers endpoint ++ [Member.field "response" (outputType endpoint)]).map
      Member.name = ["body", "params", "query", "headers", "response"] := rfl
  rw [methodType, TypeExpr.objectOf, Keyed.gather_of_nodup]
  rw [hnames]
  decide

lemma quotedMember?_methodType (endpoint : Endpoint) (key : String) :
    (methodType endpoint).quotedMember? key = none := by
  rw [methodType_eq]
  simp [TypeExpr.quotedMember?, inputMembers, Member.field]

lemma isNode_methodType (endpoint : Endpoint) : (methodType endpoint).isNode = false := by
  rw [methodType_eq]
  simp [TypeExpr.isNode, inputMembers, Member.field]

/-- What a route puts into the tree. -/
def callOf (route : Route) : RouteCall :=
  (segments route.path, (routeMembers route).map fun m => (m.name, m.type))

@[simp] lemma callOf_fst (route : Route) : (callOf route).1 = segments route.path := by
  rw [callOf]

lemma routeTree_eq (model : Model) :
    routeTree model = RouteTree.ofCalls (model.routes.map callOf) := by
  simp only [routeTree, RouteTree.ofCalls, List.foldl_map, callOf]

lemma callOf_eq {route : Route} (h : (route.endpoints.map Endpoint.method).Nodup) :
    callOf route =
      (segments route.path, route.endpoints.map fun e => (e.method.name, methodType e)) := by
  have hnames : ((route.endpoints.map fun e =>
      Member.field e.method.name (methodType e)).map Member.name).Nodup := by
    have hmap := h.map Method.name_injective
    rw [List.map_map] at hmap ⊢
    exact hmap
  rw [callOf, routeMembers, Keyed.gather_of_nodup hnames, List.map_map]
  rfl

/-- The routes keep apart: no two have the same segments, none has a verb twice, and no segments run
on through a verb of a route. -/
structure Apart (model : Model) : Prop where
  paths : (model.routes.map fun route => segments route.path).Nodup
  verbs : ∀ route ∈ model.routes, (route.endpoints.map Endpoint.method).Nodup
  through : ∀ route ∈ model.routes, ∀ e ∈ route.endpoints, ∀ other ∈ model.routes,
    ¬segments route.path ++ [e.method.name] <+: segments other.path

lemma map_fst_leaves {route : Route} (h : (route.endpoints.map Endpoint.method).Nodup) :
    (callOf route).2.map Prod.fst = (route.endpoints.map Endpoint.method).map Method.name := by
  rw [callOf_eq h, List.map_map, List.map_map]
  rfl

lemma Apart.calls {model : Model} (h : Apart model) :
    SegmentTree.Apart (model.routes.map callOf) := by
  refine ⟨?_, fun call hcall => ?_, fun call hcall leaf hleaf other hother => ?_⟩
  · simp only [List.map_map, Function.comp_def, callOf_fst]
    exact h.paths
  · obtain ⟨route, hroute, rfl⟩ := List.mem_map.mp hcall
    have hverbs := h.verbs route hroute
    rw [map_fst_leaves hverbs]
    exact hverbs.map Method.name_injective
  · obtain ⟨route, hroute, rfl⟩ := List.mem_map.mp hcall
    obtain ⟨route', hroute', rfl⟩ := List.mem_map.mp hother
    have hverbs := h.verbs route hroute
    rw [callOf_eq hverbs] at hleaf
    obtain ⟨e, he, rfl⟩ := List.mem_map.mp hleaf
    simp only [callOf_fst]
    exact h.through route hroute e he route' hroute'

lemma Apart.leafOf_iff {model : Model} (h : Apart model) {path : List String} {type : TypeExpr} :
    SegmentTree.LeafOf (model.routes.map callOf) path type ↔
      ∃ route ∈ model.routes, ∃ e ∈ route.endpoints,
        path = segments route.path ++ [e.method.name] ∧ type = methodType e := by
  constructor
  · rintro ⟨call, hcall, leaf, hleaf, rfl, rfl⟩
    obtain ⟨route, hroute, rfl⟩ := List.mem_map.mp hcall
    rw [callOf_eq (h.verbs route hroute)] at hleaf
    obtain ⟨e, he, rfl⟩ := List.mem_map.mp hleaf
    exact ⟨route, hroute, e, he, by rw [callOf_fst], rfl⟩
  · rintro ⟨route, hroute, e, he, hpath, htype⟩
    refine ⟨callOf route, List.mem_map_of_mem hroute, (e.method.name, methodType e), ?_,
      by rw [callOf_fst, hpath], htype⟩
    rw [callOf_eq (h.verbs route hroute)]
    exact List.mem_map_of_mem he

/-- The app type around the tree of its routes. -/
def appOf (tree : TypeExpr) : TypeExpr :=
  .generic "Elysia"
    [.stringLiteral "", .literal "SingletonBase", .literal "DefinitionBase",
     .literal "MetadataBase", tree]

lemma appType_eq (model : Model) :
    appType model =
      appOf (SegmentTree.node (SegmentTree.ofCalls (model.routes.map callOf))).toType := by
  rw [appType, routeTree_eq, RouteTree.toType_ofCalls]
  rfl

/-- An entry of the tree that is no node. -/
def IsEntry (tree : TypeExpr) (path : List String) (type : TypeExpr) : Prop :=
  tree.quoted? path = some type ∧ type.isNode = false

lemma isEntry_iff {model : Model} (h : Apart model) (path : List String) (type : TypeExpr) :
    IsEntry (SegmentTree.node (SegmentTree.ofCalls (model.routes.map callOf))).toType path type ↔
      ∃ route ∈ model.routes, ∃ e ∈ route.endpoints,
        path = segments route.path ++ [e.method.name] ∧ type = methodType e := by
  have hleaf : ∀ path type, (SegmentTree.node (SegmentTree.ofCalls
      (model.routes.map callOf))).at? path = some (.leaf type) → ∃ e, type = methodType e := by
    intro path type hpath
    obtain ⟨_, -, e, -, -, rfl⟩ := h.leafOf_iff.mp ((h.calls.leaf_iff path type).mp hpath)
    exact ⟨e, rfl⟩
  have hquoted := SegmentTree.quoted?_toType_eq (fun path type hpath key => by
    obtain ⟨e, rfl⟩ := hleaf path type hpath
    exact quotedMember?_methodType e key) path
  rw [← h.leafOf_iff, ← h.calls.leaf_iff, IsEntry, hquoted, Option.map_eq_some_iff]
  constructor
  · rintro ⟨⟨found, hfound, rfl⟩, hnode⟩
    cases found with
    | leaf type => exact hfound
    | node entries => simp [SegmentTree.isNode_toType] at hnode
  · intro hfound
    obtain ⟨e, rfl⟩ := hleaf path type hfound
    exact ⟨⟨_, hfound, SegmentTree.toType.eq_1 _⟩, isNode_methodType e⟩

/-- **No operation is lost or invented.** The segments of a route and a verb of it lead to the type
of that endpoint, and every entry is found that way; the order of the routes decides nothing but the
order of keys. -/
theorem appType_entries (model : Model) (h : Apart model) :
    ∃ tree, appType model = appOf tree ∧
      (∀ path type, IsEntry tree path type ↔
        ∃ route ∈ model.routes, ∃ e ∈ route.endpoints,
          path = segments route.path ++ [e.method.name] ∧ type = methodType e) ∧
      ∀ other : Model, other.routes.Perm model.routes →
        ∃ tree', appType other = appOf tree' ∧ TypeExpr.Reordered tree tree' := by
  refine ⟨_, appType_eq model, isEntry_iff h, fun other hperm => ⟨_, appType_eq other, ?_⟩⟩
  exact SegmentTree.reordered_of_spotAt? (SegmentTree.distinct_ofCalls _)
    (SegmentTree.distinct_ofCalls _) (h.calls.spotAt?_perm (hperm.map callOf))

def plainEndpoint (method : Method) : Endpoint := ⟨method, [], none, [], none, none, none⟩

/-- Routes that share segments, a verb among the segments, and the bare root. -/
def sampleModel : Model where
  info := ⟨"Todos", "1", none⟩
  routes := [⟨"/todos/{id}", [plainEndpoint .get, plainEndpoint .delete]⟩,
    ⟨"/", [plainEndpoint .get]⟩, ⟨"/todos", [plainEndpoint .post]⟩,
    ⟨"/todos/get", [plainEndpoint .get]⟩]
  schemas := none

lemma apart_sampleModel : Apart sampleModel where
  paths := by decide +kernel
  verbs := by decide +kernel
  through := by decide +kernel

theorem sampleModel_entries :
    Apart sampleModel ∧ ∃ tree, appType sampleModel = appOf tree ∧
      IsEntry tree ["todos", ":id", "delete"] (methodType (plainEndpoint .delete)) ∧
      IsEntry tree ["todos", "get", "get"] (methodType (plainEndpoint .get)) := by
  obtain ⟨tree, happ, hentries, -⟩ := appType_entries sampleModel apart_sampleModel
  refine ⟨apart_sampleModel, tree, happ, (hentries _ _).mpr ?_, (hentries _ _).mpr ?_⟩
  · exact ⟨⟨"/todos/{id}", [plainEndpoint .get, plainEndpoint .delete]⟩, by simp [sampleModel],
      plainEndpoint .delete, by simp, by decide +kernel, rfl⟩
  · exact ⟨⟨"/todos/get", [plainEndpoint .get]⟩, by simp [sampleModel], plainEndpoint .get, by simp,
      by decide +kernel, rfl⟩

end Elysia

end ApiTypes
