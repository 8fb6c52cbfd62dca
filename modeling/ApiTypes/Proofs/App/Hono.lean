import ApiTypes.App.Framework
import ApiTypes.Proofs.Description.Paths
import ApiTypes.Proofs.Description.Template
import ApiTypes.Proofs.Model.Declared

/-!
The routes of a Hono app type: one member for each path that has operations.

A member is added under the rewritten path, and one that is there already would be replaced. Paths
of a description are distinct, plain templates are rewritten to different paths, and a path has no
verb twice. So nothing is replaced, and the members stand in the order of the description.
-/

namespace ApiTypes.Hono

open Model (Endpoint Route)

/-- The app type around its routes. -/
def appOf (routes : TypeExpr) : TypeExpr :=
  .generic "Hono"
    [.literal "BlankEnv", .intersection [routes, .emptyObject], .stringLiteral "/"]

lemma routeType_eq {route : Route} (h : (route.endpoints.map Endpoint.method).Nodup) :
    routeType route = .object .block
      (route.endpoints.map fun e => .field ("$" ++ e.method.name) (methodType e)) := by
  have hinjective : Function.Injective fun m : Method => "$" ++ m.name := by
    intro a b hab
    refine Method.name_injective (String.toList_injective ?_)
    simpa using congrArg String.toList hab
  have hnames : ((route.endpoints.map fun e =>
      Member.field ("$" ++ e.method.name) (methodType e)).map Member.name).Nodup := by
    have hmap := h.map hinjective
    rw [List.map_map] at hmap ⊢
    exact hmap
  rw [routeType, TypeExpr.objectOf, Keyed.gather_of_nodup hnames]

lemma routesType_eq {model : Model}
    (h : (model.routes.map fun route => Template.colonPath route.path).Nodup) :
    routesType model = .object .block (model.routes.map fun route =>
      .quotedField (Template.colonPath route.path) (routeType route)) := by
  have hnames : ((model.routes.map fun route =>
      Member.quotedField (Template.colonPath route.path) (routeType route)).map
      Member.name).Nodup := by
    rw [List.map_map]
    exact h
  rw [routesType, TypeExpr.objectOf, Keyed.gather_of_nodup hnames]

/-! ### Members for paths and operations -/

/-- A member for an operation on a path: a dollar sign and the verb, with the type of the one
endpoint that the operation declares. -/
structure VerbMember (description : Description) (merge : Merge) (path : Outline.Path)
    (op : Outline.Operation) (member : Member TypeExpr) : Prop where
  key : member.key = ⟨"$" ++ op.method.name, false⟩
  required : member.optional = false
  type : ∃ endpoint, member.type = methodType endpoint ∧
    ∀ e, description.Declares merge path op e ↔ e = endpoint

/-- A member for a path: the rewritten path in quotes, with a member for each operation. -/
structure RouteMember (description : Description) (merge : Merge) (path : Outline.Path)
    (member : Member TypeExpr) : Prop where
  key : member.key = ⟨Template.colonPath path.path, true⟩
  required : member.optional = false
  verbs : ∃ members, member.type = .object .block members ∧
    List.Forall₂ (VerbMember description merge path) path.operations members

variable {description : Description} {merge : Merge}

lemma map_path_routes (description : Description) (merge : Merge) :
    (description.outline.filter fun path => path.operations ≠ []).map Outline.Path.path =
      (description.model merge).routes.map Route.path := by
  rw [← List.forall₂_eq_eq_eq, List.forall₂_map_left_iff, List.forall₂_map_right_iff]
  exact (description.standsFor_routes merge).imp fun path route h => h.text.symm

lemma routeMember_of_standsFor {path : Outline.Path} {route : Route}
    (hpaths : (description.outline.map Outline.Path.path).Nodup)
    (hpath : path ∈ description.outline) (h : description.StandsFor merge path route) :
    RouteMember description merge path
      (.quotedField (Template.colonPath route.path) (routeType route)) := by
  have hmethods : path.operations.map Outline.Operation.method =
      route.endpoints.map Endpoint.method := by
    rw [← List.forall₂_eq_eq_eq, List.forall₂_map_left_iff, List.forall₂_map_right_iff]
    exact h.endpoints.imp fun op e hdeclares => hdeclares.method.symm
  have hnodup : (route.endpoints.map Endpoint.method).Nodup := by
    rw [← hmethods]
    exact (Description.sublist_methods hpath).nodup (by decide)
  refine ⟨by rw [h.text]; rfl, rfl, _, routeType_eq hnodup, ?_⟩
  rw [List.forall₂_map_right_iff]
  refine h.endpoints.imp fun op e hdeclares => ⟨by rw [← hdeclares.method]; rfl, rfl, e, rfl, ?_⟩
  exact fun other => ⟨fun hother => hdeclares.unique hpaths hother, fun hsame => hsame ▸ hdeclares⟩

/-- **No operation is lost on plain templates.** They are rewritten to different paths. The routes
object of a description that is accepted has one member for each path with operations, in the order
of the description, and that one has a member for each of its operations, in the order of the
verbs. -/
theorem appType_members {dereference : Bool} {root : Json} (hd : root.Distinct)
    (h : Description.validate dereference root = .ok description)
    (hplain : ∀ path ∈ description.outline, Template.Plain path.path) (merge : Merge) :
    Set.InjOn Template.colonPath {path | Template.Plain path} ∧
    (∀ path ∈ description.outline,
      (path.operations.map Outline.Operation.method).Sublist Method.all) ∧
    ∃ members, appType (description.model merge) = appOf (.object .block members) ∧
      (members.map Member.name).Nodup ∧
      List.Forall₂ (RouteMember description merge)
        (description.outline.filter fun path => path.operations ≠ []) members := by
  have hpaths := Description.nodup_outline_of_validate hd h
  -- only the paths with operations have a route, and the rewriting keeps them apart
  have hkeys : ((description.model merge).routes.map fun route =>
      Template.colonPath route.path).Nodup := by
    have hnodup : ((description.outline.filter fun path => path.operations ≠ []).map
        Outline.Path.path).Nodup :=
      hpaths.sublist (List.filter_sublist.map _)
    have hmapped := hnodup.map_on (f := Template.colonPath) ?_
    · rw [map_path_routes description merge, List.map_map] at hmapped
      exact hmapped
    · intro p hp q hq hpq
      obtain ⟨path, hpath, rfl⟩ := List.mem_map.mp hp
      obtain ⟨path', hpath', rfl⟩ := List.mem_map.mp hq
      exact Template.colonPath_injOn (hplain _ (List.mem_of_mem_filter hpath))
        (hplain _ (List.mem_of_mem_filter hpath')) hpq
  refine ⟨Template.colonPath_injOn, fun path hpath => Description.sublist_methods hpath, _,
    by rw [appType, routesType_eq hkeys]; rfl, ?_, ?_⟩
  · rw [List.map_map]
    exact hkeys
  · rw [List.forall₂_map_right_iff]
    have hroutes := (List.forall₂_and_left _ _).mpr
      ⟨fun path hpath => List.mem_of_mem_filter hpath, description.standsFor_routes merge⟩
    exact hroutes.imp fun path route hroute => routeMember_of_standsFor hpaths hroute.1 hroute.2

/-- Two paths that differ in braces only, and one without operations. -/
def todosRoot : Json :=
  let id : Json :=
    .object [("name", .string "id"), ("in", .string "path"), ("required", .bool true)]
  .object [("openapi", .string "3.0.0"),
    ("info", .object [("title", .string "Todos"), ("version", .string "1")]),
    ("paths", .object
      [("/todos/{id}", .object [("delete", .object []), ("get", .object []),
        ("parameters", .array [id])]),
       ("/todos", .object []),
       ("/todos/id", .object [("get", .object [])])])]

theorem todosRoot_members :
    todosRoot.Distinct ∧ ∃ description, Description.validate true todosRoot = .ok description ∧
      (∀ path ∈ description.outline, Template.Plain path.path) ∧
      ∃ item id, appType (description.model .override) = appOf (.object .block [item, id]) ∧
        item.key = ⟨"/todos/:id", true⟩ ∧ id.key = ⟨"/todos/id", true⟩ ∧
        ∃ get delete, item.type = .object .block [get, delete] ∧
          get.key = ⟨"$get", false⟩ ∧ delete.key = ⟨"$delete", false⟩ := by
  have hd : todosRoot.Distinct := by
    simp [todosRoot, Json.Distinct, Json.EveryObject, Json.EveryObjectOfItems,
      Json.EveryObjectOfEntries]
  obtain ⟨description, hvalid, item, list, id, houtline, hpaths, get, delete, hitem, hlist,
      hid, hmethods⟩ :
      ∃ description, Description.validate true todosRoot = .ok description ∧
        ∃ item list id, description.outline = [item, list, id] ∧
          [item, list, id].map Outline.Path.path = ["/todos/{id}", "/todos", "/todos/id"] ∧
          ∃ get delete, item.operations = [get, delete] ∧ list.operations = [] ∧
            id.operations.length = 1 ∧ [get.method, delete.method] = [.get, .delete] :=
    ⟨_, rfl, _, _, _, rfl, rfl, _, _, rfl, rfl, rfl, rfl⟩
  have hplain : ∀ path ∈ description.outline, Template.Plain path.path := by
    rw [← List.forall_mem_map (P := Template.Plain), houtline, hpaths]
    decide
  obtain ⟨-, -, members, happ, -, hmembers⟩ := appType_members hd hvalid hplain .override
  have hwith : description.outline.filter (fun path => path.operations ≠ []) = [item, id] := by
    have hne : id.operations ≠ [] := List.ne_nil_of_length_eq_add_one hid
    simp [houtline, hitem, hlist, hne]
  rw [hwith] at hmembers
  cases hmembers with
  | cons hitemMember hrest =>
  cases hrest with
  | cons hidMember hnil =>
  cases hnil
  obtain ⟨verbs, htype, hverbs⟩ := hitemMember.verbs
  rw [hitem] at hverbs
  cases hverbs with
  | cons hget hrest =>
  cases hrest with
  | cons hdelete hnil =>
  cases hnil
  simp only [List.map_cons, List.cons.injEq] at hpaths hmethods
  refine ⟨hd, description, hvalid, hplain, _, _, happ, ?_, ?_, _, _, htype, ?_, ?_⟩
  · rw [hitemMember.key, hpaths.1]
    decide +kernel
  · rw [hidMember.key, hpaths.2.2.1]
    decide +kernel
  · rw [hget.key, hmethods.1]
    rfl
  · rw [hdelete.key, hmethods.2.1]
    rfl

end ApiTypes.Hono
