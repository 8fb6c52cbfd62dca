import ApiTypes.Description.OpenApi
import ApiTypes.Description.Swagger
import ApiTypes.Proofs.Json.Record

/-!
The fields of the two description formats.

What storing a value does to a draft is said once for each record. All that is known about the
paths, the operations, the responses and the named schemas of a description follows from it.
-/

namespace ApiTypes

open Json Json.Reader

/-! ### Path items -/

lemma Method.name_of_ofName? {name : String} {m : Method} (h : ofName? name = some m) :
    m.name = name := by
  simpa using List.find?_some h

lemma Method.ofName?_name (m : Method) : ofName? m.name = some m := by
  cases m <;> rfl

lemma Method.name_injective : Function.Injective Method.name := by
  intro m n h
  exact Option.some.inj (by rw [← ofName?_name m, h, ofName?_name])

lemma Operations.at?_set {ω : Type} (ops : Operations ω) (m : Method) (op : Option ω) :
    (ops.set m op).at? m = op := by
  cases m <;> rfl

lemma Operations.at?_set_of_ne {ω : Type} (ops : Operations ω) {m n : Method} (h : m ≠ n)
    (op : Option ω) : (ops.set m op).at? n = ops.at? n := by
  cases m <;> cases n <;> first | rfl | exact absurd rfl h

lemma PathItem.isField_operation {ω π : Type} (operation : Reader ω) (parameter : Reader π)
    (m : Method) :
    (PathItem.shape operation parameter).IsField m.name (optional operation)
      (fun item => item.operations.at? m) (fun item => item.operations.at? m) where
  set_cases := by
    intro other value draft draft' h
    simp only [PathItem.shape] at h
    split at h
    · next n hn =>
      obtain ⟨op, hop, rfl⟩ := map_eq_ok.mp h
      rw [← Method.name_of_ofName? hn]
      by_cases hm : n = m
      · subst hm
        exact .inl ⟨rfl, by rw [Operations.at?_set, hop]⟩
      · exact .inr ⟨Method.name_injective.ne hm, Operations.at?_set_of_ne _ hm _⟩
    · next hnone =>
      refine .inr ⟨?_, ?_⟩
      · rintro rfl
        rw [Method.ofName?_name] at hnone
        cases hnone
      · split at h
        · obtain ⟨_, -, rfl⟩ := map_eq_ok.mp h
          rfl
        · cases h
          rfl
  part_eq := by
    rintro draft item ⟨⟩
    rfl

/-! ### OpenAPI 3 -/

namespace OpenApi

lemma Operation.isField_responses :
    Operation.shape.IsField "responses" (readCore (RefOr.read Response.shape.read))
      Operation.responses Operation.responses where
  set_cases := by
    intro other value draft draft' h
    by_cases hother : other = "responses"
    · subst hother
      obtain ⟨responses, hresponses, rfl⟩ := map_eq_ok.mp h
      exact .inl ⟨rfl, hresponses⟩
    · refine .inr ⟨hother, ?_⟩
      simp only [Operation.shape] at h
      split at h
      all_goals first
        | exact absurd rfl hother
        | obtain ⟨_, -, rfl⟩ := map_eq_ok.mp h
          rfl
        | cases h
          rfl
  part_eq := by
    rintro draft op ⟨⟩
    rfl

lemma Components.isField_schemas :
    Components.shape.IsField "schemas" (table raw) Components.schemas Components.schemas where
  set_cases := by
    intro other value draft draft' h
    simp only [Components.shape] at h
    split at h
    · obtain ⟨schemas, hschemas, rfl⟩ := map_eq_ok.mp h
      exact .inl ⟨rfl, hschemas⟩
    · next hother =>
      cases h
      exact .inr ⟨hother, rfl⟩
  part_eq := by
    rintro draft components ⟨⟩
    rfl

namespace Document

lemma set_cases {key : String} {value : Json} {draft draft' : Draft}
    (h : shape.set key value draft = .ok draft') :
    (key = "paths" ∧ draft'.components = draft.components ∧
      readCore (PathItem.shape Operation.shape.read Parameter.shape.read).read value =
        .ok draft'.paths) ∨
    (key = "components" ∧ draft'.paths = draft.paths ∧
      optional Components.shape.read value = .ok draft'.components) ∨
    (key ≠ "paths" ∧ key ≠ "components" ∧ draft'.paths = draft.paths ∧
      draft'.components = draft.components) := by
  by_cases hpaths : key = "paths"
  · subst hpaths
    obtain ⟨paths, hread, rfl⟩ := map_eq_ok.mp h
    exact .inl ⟨rfl, rfl, hread⟩
  by_cases hcomponents : key = "components"
  · subst hcomponents
    obtain ⟨components, hread, rfl⟩ := map_eq_ok.mp h
    exact .inr (.inl ⟨rfl, rfl, hread⟩)
  refine .inr (.inr ⟨hpaths, hcomponents, ?_⟩)
  simp only [shape] at h
  split at h
  all_goals first
    | exact absurd rfl hpaths
    | exact absurd rfl hcomponents
    | obtain ⟨_, -, rfl⟩ := map_eq_ok.mp h
      exact ⟨rfl, rfl⟩
    | cases h
      exact ⟨rfl, rfl⟩

lemma eq_of_finish {draft : Draft} {doc : Document} (h : shape.finish draft = .ok doc) :
    doc.paths = draft.paths ∧ doc.components = draft.components := by
  obtain ⟨openapi, -, h⟩ := bind_eq_ok.mp h
  obtain ⟨info, -, h⟩ := bind_eq_ok.mp h
  cases h
  exact ⟨rfl, rfl⟩

lemma isField_paths :
    shape.IsField "paths"
      (readCore (PathItem.shape Operation.shape.read Parameter.shape.read).read)
      Draft.paths Document.paths where
  set_cases := by
    intro other value draft draft' h
    rcases set_cases h with ⟨hkey, -, hread⟩ | ⟨rfl, hsame, -⟩ | ⟨hkey, -, hsame, -⟩
    · exact .inl ⟨hkey, hread⟩
    · exact .inr ⟨by decide, hsame⟩
    · exact .inr ⟨hkey, hsame⟩
  part_eq h := (eq_of_finish h).1

lemma isField_components :
    shape.IsField "components" (optional Components.shape.read) Draft.components
      Document.components where
  set_cases := by
    intro other value draft draft' h
    rcases set_cases h with ⟨rfl, hsame, -⟩ | ⟨hkey, -, hread⟩ | ⟨-, hkey, -, hsame⟩
    · exact .inr ⟨by decide, hsame⟩
    · exact .inl ⟨hkey, hread⟩
    · exact .inr ⟨hkey, hsame⟩
  part_eq h := (eq_of_finish h).2

end Document

end OpenApi

/-! ### Swagger 2 -/

namespace Swagger

lemma Operation.isField_responses :
    Operation.shape.IsField "responses" (readCore (RefOr.read Response.shape.read))
      Operation.responses Operation.responses where
  set_cases := by
    intro other value draft draft' h
    by_cases hother : other = "responses"
    · subst hother
      obtain ⟨responses, hresponses, rfl⟩ := map_eq_ok.mp h
      exact .inl ⟨rfl, hresponses⟩
    · refine .inr ⟨hother, ?_⟩
      simp only [Operation.shape] at h
      split at h
      all_goals first
        | exact absurd rfl hother
        | obtain ⟨_, -, rfl⟩ := map_eq_ok.mp h
          rfl
        | cases h
          rfl
  part_eq := by
    rintro draft op ⟨⟩
    rfl

lemma Document.isField_paths :
    Document.shape.IsField "paths"
      (readCore (PathItem.shape Operation.shape.read Parameter.shape.read).read)
      Document.Draft.paths Document.paths where
  set_cases := by
    intro other value draft draft' h
    by_cases hother : other = "paths"
    · subst hother
      obtain ⟨paths, hpaths, rfl⟩ := map_eq_ok.mp h
      exact .inl ⟨rfl, hpaths⟩
    · refine .inr ⟨hother, ?_⟩
      simp only [Document.shape] at h
      split at h
      all_goals first
        | exact absurd rfl hother
        | obtain ⟨_, -, rfl⟩ := map_eq_ok.mp h
          rfl
        | cases h
          rfl
  part_eq := by
    intro draft doc h
    obtain ⟨swagger, -, h⟩ := bind_eq_ok.mp h
    obtain ⟨info, -, h⟩ := bind_eq_ok.mp h
    cases h
    rfl

end Swagger

end ApiTypes
