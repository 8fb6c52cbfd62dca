import ApiTypes.Proofs.Description.Check
import ApiTypes.Proofs.Description.Fields
import ApiTypes.Proofs.Reference.Kept

/-!
The paths of a description are distinct.

They are the keys of one object of the value that the description was read from. References may have
put another object in its place, but unfolding leaves no object with a key twice where there was
none before.
-/

namespace ApiTypes

open Json

lemma nodup_of_readCore {α : Type} {read : Reader α} {value : Json} {xs : List (String × α)}
    (hv : value.Distinct) (h : readCore read value = .ok xs) : (xs.map Prod.fst).Nodup := by
  cases value with
  | object entries =>
    have hkeys : xs.map Prod.fst = (entries.filter fun e => !isExtension e.1).map Prod.fst :=
      Reader.map_fst_readEntries h
    have hnodup : (entries.map Prod.fst).Nodup := (everyObject_object_iff.mp hv).1
    rw [hkeys]
    exact (List.filter_sublist.map Prod.fst).nodup hnodup
  | _ => cases h

lemma Json.Shape.IsField.nodup_keys {δ α β : Type} {shape : Shape δ α} {key : String}
    {read : Reader β} {get : δ → List (String × β)} {part : α → List (String × β)}
    (hf : shape.IsField key (readCore read) get part) (hstart : get shape.start = []) {json : Json}
    {x : α} (hd : json.Distinct) (h : shape.read json = .ok x) :
    ((part x).map Prod.fst).Nodup := by
  refine hf.of_read (Q := fun entries => (entries.map Prod.fst).Nodup) ?_ nodup_of_readCore hd h
  rw [hstart]
  exact List.nodup_nil

namespace Description

lemma nodup_outline_of_read {format : Format} {value : Json} {description : Description}
    (hv : value.Distinct) (h : read format value = .ok description) :
    (description.outline.map Outline.Path.path).Nodup := by
  cases format with
  | openApi3 =>
    obtain ⟨doc, hdoc, rfl⟩ := map_eq_ok.mp (mapError_eq_ok.mp h)
    have hpaths := OpenApi.Document.isField_paths.nodup_keys rfl hv hdoc
    rwa [outline, OpenApi.Document.outline, List.map_map]
  | swagger2 =>
    obtain ⟨doc, hdoc, rfl⟩ := map_eq_ok.mp (mapError_eq_ok.mp h)
    have hpaths := Swagger.Document.isField_paths.nodup_keys rfl hv hdoc
    rwa [outline, Swagger.Document.outline, List.map_map]

lemma distinct_of_unfold {dereference : Bool} {root value : Json} (hd : root.Distinct)
    (h : unfold dereference root = .ok value) : value.Distinct := by
  unfold unfold at h
  split at h
  · exact Reference.distinct_of_unfold hd (mapError_eq_ok.mp h)
  · cases h
    exact hd

lemma nodup_outline_of_validate {dereference : Bool} {root : Json} {description : Description}
    (hd : root.Distinct) (h : validate dereference root = .ok description) :
    (description.outline.map Outline.Path.path).Nodup := by
  obtain ⟨format, unfolded, hunfolded, hread, -⟩ := exists_of_validate h
  exact nodup_outline_of_read (distinct_of_unfold hd hunfolded) hread

end Description

end ApiTypes
