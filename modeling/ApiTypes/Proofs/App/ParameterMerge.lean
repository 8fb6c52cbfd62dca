import ApiTypes.App.Framework
import ApiTypes.Model.Reduce
import ApiTypes.Proofs.Keyed

/-!
App types do not tell how parameters were merged.

A model may keep every parameter that is declared, or one for each name and location. An app type
has its parameters in objects, one for each location, and an object has one member for each name. So
it drops the same parameters as the merge does: at one location the names tell the parameters apart
just as their keys do, and both put the last of them where the first one stood.
-/

namespace ApiTypes

open Model (Endpoint Route)

namespace Model

/-- The endpoint with one parameter for each name and location. -/
def Endpoint.merged (endpoint : Endpoint) : Endpoint :=
  { endpoint with parameters := mergeParameters .override endpoint.parameters }

def Route.merged (route : Route) : Route := ⟨route.path, route.endpoints.map Endpoint.merged⟩

def merged (model : Model) : Model := { model with routes := model.routes.map Route.merged }

lemma route?_map_merged (path : String) (endpoints : List Endpoint) :
    route? path (endpoints.map Endpoint.merged) = (route? path endpoints).map Route.merged := by
  cases endpoints <;> rfl

/-- Routes are made path by path, and each endpoint by itself. -/
lemma map_merged_routes {ι ω : Type} (paths : List ι) (path : ι → String) (ops : ι → List ω)
    (endpoint : ι → ω → Endpoint) :
    (paths.filterMap fun i => route? (path i) ((ops i).map (endpoint i))).map Route.merged =
      paths.filterMap fun i =>
        route? (path i) ((ops i).map fun op => (endpoint i op).merged) := by
  rw [List.map_filterMap]
  refine congrArg (List.filterMap · paths) (funext fun i => ?_)
  rw [← route?_map_merged, List.map_map]
  rfl

end Model

/-- Merging while the model is made or afterwards. -/
lemma Description.model_override (description : Description) :
    description.model .override = (description.model .concatenate).merged := by
  cases description with
  | openApi doc =>
    have hroutes := Model.map_merged_routes doc.paths Prod.fst
      (fun entry => entry.2.operations.list)
      fun entry op => op.2.model .concatenate entry.2.parameters op.1
    exact congrArg (Model.mk _ · _) hroutes.symm
  | swagger doc =>
    have hroutes := Model.map_merged_routes doc.paths Prod.fst
      (fun entry => entry.2.operations.list)
      fun entry op => op.2.model .concatenate doc entry.2.parameters op.1
    exact congrArg (Model.mk _ · _) hroutes.symm

/-! ### Endpoints -/

lemma parametersIn_merged (endpoint : Endpoint) (location : Location) :
    endpoint.merged.parametersIn location =
      Keyed.gather Model.Parameter.key (endpoint.parametersIn location) := by
  refine Keyed.filter_gather (fun a b hkey => ?_) endpoint.parameters
  have hlocation : a.location = b.location := congrArg Prod.snd hkey
  rw [hlocation]

/-- At one location names and keys tell the same parameters apart. -/
lemma name_eq_iff_key_eq {endpoint : Endpoint} {location : Location} {a b : Model.Parameter}
    (ha : a ∈ endpoint.parametersIn location) (hb : b ∈ endpoint.parametersIn location) :
    a.name = b.name ↔ a.key = b.key := by
  have hat : a.location = location := of_decide_eq_true (List.mem_filter.mp ha).2
  have hbt : b.location = location := of_decide_eq_true (List.mem_filter.mp hb).2
  simp [Model.Parameter.key, hat, hbt]

lemma parameterObject?_eq (endpoint : Endpoint) (location : Location) (optional : Bool) :
    parameterObject? endpoint location optional =
      if endpoint.parametersIn location = [] then none
      else some (.objectOf .block ((endpoint.parametersIn location).map fun p =>
        ⟨⟨p.name, false⟩, optional, p.type⟩)) := by
  unfold parameterObject?
  split
  · next h => rw [if_pos h]
  · next h => rw [if_neg h]

lemma parameterObject?_merged (endpoint : Endpoint) (location : Location) (optional : Bool) :
    parameterObject? endpoint.merged location optional =
      parameterObject? endpoint location optional := by
  have hmembers : Keyed.gather Member.name
      ((Keyed.gather Model.Parameter.key (endpoint.parametersIn location)).map fun p =>
        (⟨⟨p.name, false⟩, optional, p.type⟩ : Member TypeExpr)) =
      Keyed.gather Member.name ((endpoint.parametersIn location).map fun p =>
        ⟨⟨p.name, false⟩, optional, p.type⟩) :=
    Keyed.gather_map_gather fun a ha b hb => name_eq_iff_key_eq ha hb
  rw [parameterObject?_eq, parameterObject?_eq, parametersIn_merged, TypeExpr.objectOf, hmembers]
  simp only [Keyed.gather_eq_nil_iff]
  rfl

lemma methodType_merged (framework : Framework) (endpoint : Endpoint) :
    framework.methodType endpoint.merged = framework.methodType endpoint := by
  cases framework with
  | hono =>
    have hinput : Hono.inputMembers endpoint.merged = Hono.inputMembers endpoint := by
      simp only [Hono.inputMembers, parameterObject?_merged]
      rfl
    simp only [Framework.methodType, Hono.methodType, Hono.inputType, hinput]
    rfl
  | elysia =>
    have hinput : Elysia.inputMembers endpoint.merged = Elysia.inputMembers endpoint := by
      simp only [Elysia.inputMembers, parameterObject?_merged]
      rfl
    simp only [Framework.methodType, Elysia.methodType, hinput]
    rfl

/-! ### Apps -/

lemma Hono.routeType_merged (route : Route) : routeType route.merged = routeType route := by
  have hmethod : ∀ e : Endpoint, methodType e.merged = methodType e := methodType_merged .hono
  simp only [routeType, Route.merged, List.map_map, Function.comp_def, hmethod]
  rfl

lemma Elysia.routeMembers_merged (route : Route) :
    routeMembers route.merged = routeMembers route := by
  have hmethod : ∀ e : Endpoint, methodType e.merged = methodType e := methodType_merged .elysia
  simp only [routeMembers, Route.merged, List.map_map, Function.comp_def, hmethod]
  rfl

lemma appType_merged (framework : Framework) (model : Model) :
    framework.appType model.merged = framework.appType model := by
  cases framework with
  | hono =>
    have hroutes : Hono.routesType model.merged = Hono.routesType model := by
      simp only [Hono.routesType, Model.merged, List.map_map, Function.comp_def,
        Hono.routeType_merged]
      rfl
    simp only [Framework.appType, Hono.appType, hroutes]
  | elysia =>
    have htree : Elysia.routeTree model.merged = Elysia.routeTree model := by
      simp only [Elysia.routeTree, Model.merged, List.foldl_map, Elysia.routeMembers_merged]
      rfl
    simp only [Framework.appType, Elysia.appType, htree]

/-- **The merge does not show.** Both frameworks have the same app type whether the model keeps all
parameters or the last one for each name and location. -/
theorem appType_concatenate_eq_override (framework : Framework) (description : Description) :
    framework.appType (description.model .concatenate) =
      framework.appType (description.model .override) := by
  rw [description.model_override, appType_merged]

end ApiTypes
