import ApiTypes.Module.App
import ApiTypes.Proofs.App.Elysia
import ApiTypes.Proofs.Model.Declared
import ApiTypes.Proofs.Schema.Soundness
import ApiTypes.Proofs.TypeExpr.Contained

/-!
What a description says stays inside its token.

References become names, values of enumerations are written as JSON, and every other text that a
description brings along is a key or a string. So the types of schemas are contained, and with them
those of endpoints, routes and apps; the statement that exports an app type has matched brackets and
ends at its only semicolon outside them.
-/

namespace ApiTypes

open Brackets
open TypeExpr (Contained)
open Model (Endpoint Route Parameter)

namespace TypeExpr

lemma contained_known {text : String} (h : text.toList.all (fun c => Text.IsPlain c) = true) :
    Contained (.literal text) :=
  .literal (nests_closed.known h)

lemma contained_emptyObject : Contained .emptyObject := .literal (Inner.braces keeps_empty)

lemma contained_stringLiteral (text : String) : Contained (.stringLiteral text) :=
  .literal (closed_quote text)

lemma contained_objectOf {layout : ObjectLayout} {members : List (Member TypeExpr)}
    (h : ∀ m ∈ members, Contained m.type) : Contained (.objectOf layout members) :=
  .object fun m hm => h m (Keyed.mem_of_mem_gather hm)

end TypeExpr

open TypeExpr

/-! ### Schemas -/

namespace Schema

lemma contained_toType (schema : Json) : Contained (toType schema) :=
  nests_closed.texts_toType schema

lemma contained_toType? (schema : Option Json) : Contained (toType? schema) := by
  cases schema with
  | none => exact contained_known (by decide)
  | some schema => exact contained_toType schema

end Schema

/-! ### Endpoints -/

/-- The types that an endpoint has for its parameters are contained. -/
def ContainedParameters (endpoint : Endpoint) : Prop :=
  ∀ p ∈ endpoint.parameters, Contained p.type

section

variable {endpoint : Endpoint}

lemma contained_parameterObject? {location : Location} {optional : Bool} {type : TypeExpr}
    (h : ContainedParameters endpoint)
    (htype : parameterObject? endpoint location optional = some type) : Contained type := by
  unfold parameterObject? at htype
  split at htype
  · cases htype
  · cases htype
    exact contained_objectOf (List.forall_mem_map.mpr fun p hp => h p (List.mem_of_mem_filter hp))

lemma contained_jsonBody? {type : TypeExpr}
    (htype : endpoint.jsonBody?.map (fun body => Schema.toType body.schema) = some type) :
    Contained type := by
  obtain ⟨body, -, rfl⟩ := Option.map_eq_some_iff.mp htype
  exact Schema.contained_toType body.schema

lemma contained_getD {type? : Option TypeExpr} {other : TypeExpr}
    (h : ∀ type, type? = some type → Contained type) (hother : Contained other) :
    Contained (type?.getD other) := by
  cases type? with
  | none => exact hother
  | some type => exact h type rfl

namespace Hono

lemma contained_inputType (h : ContainedParameters endpoint) : Contained (inputType endpoint) := by
  have hmembers : ∀ m ∈ inputMembers endpoint, Contained m.type := by
    intro m hm
    simp only [inputMembers, List.mem_append, Option.mem_toList, Option.map_eq_some_iff] at hm
    rcases hm with ((⟨type, htype, rfl⟩ | ⟨type, htype, rfl⟩) | ⟨body, -, rfl⟩) | ⟨type, htype, rfl⟩
    · exact contained_parameterObject? h htype
    · exact contained_parameterObject? h htype
    · exact Schema.contained_toType body.schema
    · exact contained_parameterObject? h htype
  unfold inputType
  split
  · exact contained_emptyObject
  · exact contained_objectOf hmembers

lemma contained_outputType (endpoint : Endpoint) : Contained (outputType endpoint) := by
  unfold outputType
  split
  · exact Schema.contained_toType _
  · exact contained_emptyObject

lemma contained_methodType (h : ContainedParameters endpoint) :
    Contained (methodType endpoint) := by
  refine contained_objectOf ?_
  simp only [List.forall_mem_cons]
  exact ⟨contained_inputType h, contained_outputType endpoint, contained_stringLiteral "json",
    contained_known (by decide), List.forall_mem_nil _⟩

end Hono

namespace Elysia

lemma contained_inputMembers (h : ContainedParameters endpoint) :
    ∀ m ∈ inputMembers endpoint, Contained m.type := by
  have hunknown : Contained .unknown := contained_known (by decide)
  simp only [inputMembers, List.forall_mem_cons]
  refine ⟨?_, ?_, ?_, ?_, List.forall_mem_nil _⟩
  · exact contained_getD (fun _ => contained_jsonBody?) hunknown
  · exact contained_getD (fun _ => contained_parameterObject? h) contained_emptyObject
  · exact contained_getD (fun _ => contained_parameterObject? h) hunknown
  · exact contained_getD (fun _ => contained_parameterObject? h) hunknown

lemma contained_outputType (endpoint : Endpoint) : Contained (outputType endpoint) :=
  contained_objectOf
    (List.forall_mem_map.mpr fun response _ => Schema.contained_toType? response.schema)

lemma contained_methodType (h : ContainedParameters endpoint) :
    Contained (methodType endpoint) := by
  refine contained_objectOf fun m hm => ?_
  rcases List.mem_append.mp hm with hm | hm
  · exact contained_inputMembers h m hm
  · rw [List.mem_singleton.mp hm]
    exact contained_outputType endpoint

end Elysia

end

/-! ### Apps -/

/-- The parameters of all endpoints have contained types. -/
def ContainedModel (model : Model) : Prop :=
  ∀ route ∈ model.routes, ∀ endpoint ∈ route.endpoints, ContainedParameters endpoint

namespace Hono

lemma contained_appType {model : Model} (h : ContainedModel model) :
    Contained (appType model) := by
  have hroutes : Contained (routesType model) := by
    refine contained_objectOf (List.forall_mem_map.mpr fun route hroute => ?_)
    refine contained_objectOf (List.forall_mem_map.mpr fun endpoint hendpoint => ?_)
    exact contained_methodType (h route hroute endpoint hendpoint)
  have hschema : Contained (.intersection [routesType model, .emptyObject]) := by
    refine .intersection ?_
    simp only [List.forall_mem_cons]
    exact ⟨hroutes, contained_emptyObject, List.forall_mem_nil _⟩
  refine .generic (nests_closed.known (by decide)) ?_
  simp only [List.forall_mem_cons]
  exact ⟨contained_known (by decide), hschema, contained_stringLiteral "/",
    List.forall_mem_nil _⟩

end Hono

namespace SegmentTree

/-- Every leaf of the tree has a contained type. -/
inductive ContainedLeaves : SegmentTree → Prop where
  | leaf {type : TypeExpr} : Contained type → ContainedLeaves (.leaf type)
  | node {entries : Entries} :
      (∀ e ∈ entries, ContainedLeaves e.2) → ContainedLeaves (.node entries)

variable {entries : Entries} {calls : List RouteCall}

lemma ContainedLeaves.put {entry : String × SegmentTree} (hentry : ContainedLeaves entry.2)
    (h : ∀ e ∈ entries, ContainedLeaves e.2) :
    ∀ e ∈ Keyed.put Prod.fst entry entries, ContainedLeaves e.2 := by
  intro e he
  rcases Keyed.mem_of_mem_put he with rfl | he
  · exact hentry
  · exact h e he

lemma containedLeaves_under {segment : String} (h : ∀ e ∈ entries, ContainedLeaves e.2) :
    ∀ e ∈ under segment entries, ContainedLeaves e.2 := by
  unfold under
  split
  · next inner hinner =>
    cases h _ (Keyed.mem_of_lookup hinner) with
    | node hinner => exact hinner
  · nofun

lemma containedLeaves_insert {path : List String} {leaves : List (String × TypeExpr)}
    (hleaves : ∀ leaf ∈ leaves, Contained leaf.2) (h : ∀ e ∈ entries, ContainedLeaves e.2) :
    ∀ e ∈ insert path leaves entries, ContainedLeaves e.2 := by
  induction path generalizing entries with
  | nil =>
    rw [insert]
    induction leaves generalizing entries with
    | nil => exact h
    | cons leaf rest ih =>
      refine ih (fun l hl => hleaves l (List.mem_cons_of_mem leaf hl)) ?_
      exact ContainedLeaves.put (.leaf (hleaves leaf (by simp))) h
  | cons segment rest ih =>
    rw [insert]
    exact ContainedLeaves.put (.node (ih (containedLeaves_under h))) h

lemma containedLeaves_ofCalls (h : ∀ call ∈ calls, ∀ leaf ∈ call.2, Contained leaf.2) :
    ∀ e ∈ ofCalls calls, ContainedLeaves e.2 := by
  induction calls using List.reverseRecOn with
  | nil => nofun
  | append_singleton calls call ih =>
    rw [ofCalls_concat]
    refine containedLeaves_insert (h call (by simp)) (ih fun c hc => h c ?_)
    exact List.mem_append_left [call] hc

lemma ContainedLeaves.toType {tree : SegmentTree} (h : ContainedLeaves tree) :
    Contained tree.toType := by
  induction h with
  | leaf h =>
    rw [SegmentTree.toType]
    exact h
  | node _ ih =>
    rw [SegmentTree.toType, members_eq_map]
    exact .object (List.forall_mem_map.mpr ih)

end SegmentTree

namespace Elysia

lemma contained_callOf {route : Route} (h : ∀ e ∈ route.endpoints, ContainedParameters e) :
    ∀ leaf ∈ (callOf route).2, Contained leaf.2 := by
  intro leaf hleaf
  rw [callOf] at hleaf
  obtain ⟨m, hm, rfl⟩ := List.mem_map.mp hleaf
  obtain ⟨e, he, rfl⟩ := List.mem_map.mp (Keyed.mem_of_mem_gather hm)
  exact contained_methodType (h e he)

lemma contained_appType {model : Model} (h : ContainedModel model) :
    Contained (appType model) := by
  have hcalls : ∀ call ∈ model.routes.map callOf, ∀ leaf ∈ call.2, Contained leaf.2 :=
    List.forall_mem_map.mpr fun route hroute => contained_callOf (h route hroute)
  have htree := (SegmentTree.ContainedLeaves.node
    (SegmentTree.containedLeaves_ofCalls hcalls)).toType
  rw [appType_eq]
  refine .generic (nests_closed.known (by decide)) ?_
  simp only [List.forall_mem_cons]
  exact ⟨contained_stringLiteral "", contained_known (by decide),
    contained_known (by decide), contained_known (by decide), htree,
    List.forall_mem_nil _⟩

end Elysia

lemma Framework.contained_appType (framework : Framework) {model : Model}
    (h : ContainedModel model) : Contained (framework.appType model) := by
  cases framework with
  | hono => exact Hono.contained_appType h
  | elysia => exact Elysia.contained_appType h

/-! ### Models of descriptions -/

lemma Description.Declares.containedParameters {merge : Merge} {description : Description}
    {path : Outline.Path} {op : Outline.Operation} {endpoint : Endpoint}
    (h : description.Declares merge path op endpoint) : ContainedParameters endpoint := by
  intro p hp
  cases h with
  | openApi _ _ =>
    obtain ⟨q, -, hq⟩ := List.mem_filterMap.mp (Model.mem_of_mem_mergeParameters hp)
    obtain ⟨_, -, rfl⟩ := Option.map_eq_some_iff.mp hq
    exact Schema.contained_toType? q.typeSchema
  | swagger _ _ =>
    obtain ⟨q, -, hq⟩ := List.mem_filterMap.mp (Model.mem_of_mem_mergeParameters hp)
    obtain ⟨_, -, rfl⟩ := Option.map_eq_some_iff.mp hq
    exact Schema.contained_toType q.inlineSchema

lemma Description.containedModel (description : Description) (merge : Merge) :
    ContainedModel (description.model merge) := by
  intro route hroute endpoint hendpoint
  obtain ⟨path, op, h⟩ := exists_declares_of_mem_routes hroute hendpoint
  exact h.containedParameters

/-! ### Modules -/

lemma closed_exportType (width : Nat) (name : String) {type : TypeExpr} (h : Contained type) :
    Closed ("export type " ++ TypeName.sanitize name ++ " = " ++ type.render width) := by
  have hname : Closed (TypeName.sanitize name) :=
    nests_closed.typeName (TypeName.isTypeName_sanitize name)
  have hexport : Closed "export type " := nests_closed.known (by decide)
  have hequals : Closed " = " := nests_closed.known (by decide)
  rw [TypeExpr.render_eq]
  exact ((hexport.append hname).append hequals).append (closed_renderAt h width 0)

/-- **Containment.** Whatever a description says, what stands behind the imports of its module is
one statement: it is scanned up to its last semicolon with no string open, no bracket open and no
semicolon outside brackets, and only a line break follows. -/
theorem appModule_single_statement (description : Description) (merge : Merge)
    (framework : Framework) (width : Nat) (name : String) :
    ∃ statement : String,
      appModule framework width name (description.model merge) =
        importBlock framework.imports ++ (statement ++ ";\n") ∧
      scan start statement.toList = some start ∧
      scan start (statement ++ ";\n").toList = some { start with ends := 1 } := by
  have htype := framework.contained_appType (description.containedModel merge)
  have hstart : scan start _ = some start := closed_exportType width name htype [] 0 trivial
  refine ⟨_, rfl, hstart, ?_⟩
  rw [String.toList_append, scan_append_of hstart]
  rfl

end ApiTypes
