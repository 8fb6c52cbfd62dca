import ApiTypes.Description.Reference
import ApiTypes.Proofs.Json.Pointer
import ApiTypes.Proofs.Json.Tree

/-!
Locations as pointers, and references inside parts of a description.

The location of an entry or an item is a pointer to it. A pointer encloses a location when the
location goes on from it at a slash, or ends there; then the keys of the pointer are the first keys
of the location.
-/

namespace ApiTypes.Reference

open Json

/-! ### Enclosing -/

lemma rest?_eq_some_iff {p cs rest : List Char} : rest? p cs = some rest ↔ cs = p ++ rest := by
  induction p generalizing cs with
  | nil => simp [rest?, eq_comm]
  | cons a p ih =>
    cases cs with
    | nil => simp [rest?]
    | cons c cs =>
      by_cases h : a = c
      · simp [rest?, h, ih]
      · simp [rest?, h, Ne.symm h]

lemma encloses_iff {pointer location : String} :
    encloses pointer location = true ↔
      ∃ rest, location.toList = pointer.toList ++ rest ∧ (rest = [] ∨ rest.head? = some '/') := by
  unfold encloses
  constructor
  · intro h
    split at h
    · next hr => exact ⟨[], rest?_eq_some_iff.mp hr, Or.inl rfl⟩
    · next c rest hr =>
      rw [beq_iff_eq] at h
      exact ⟨c :: rest, rest?_eq_some_iff.mp hr, Or.inr (by simp [h])⟩
    · cases h
  · rintro ⟨rest, hl, hrest⟩
    rw [rest?_eq_some_iff.mpr hl]
    rcases rest with _ | ⟨c, rest⟩
    · rfl
    · simpa using hrest

lemma encloses_self (pointer : String) : encloses pointer pointer = true :=
  encloses_iff.mpr ⟨[], by simp, Or.inl rfl⟩

lemma encloses_push {pointer location : String} (token : String)
    (h : encloses pointer location = true) :
    encloses pointer (location ++ "/" ++ token) = true := by
  obtain ⟨rest, hl, hrest⟩ := encloses_iff.mp h
  refine encloses_iff.mpr ⟨rest ++ '/' :: token.toList, by simp [hl], Or.inr ?_⟩
  rcases rest with _ | ⟨c, rest⟩
  · rfl
  · simpa using hrest

/-- What encloses a location is a pointer to something around it. -/
lemma pointerKeys?_of_encloses {pointer location : String} {keys : List String}
    (hk : pointerKeys? location = some keys) (h : encloses pointer location = true) :
    ∃ around below, pointerKeys? pointer = some around ∧ keys = around ++ below := by
  obtain ⟨rest, hl, hrest⟩ := encloses_iff.mp h
  unfold pointerKeys? at hk ⊢
  rw [hl] at hk
  rcases hp : pointer.toList with _ | ⟨c, cs⟩
  · exact ⟨[], keys, rfl, rfl⟩
  · rw [hp, List.cons_append] at hk
    split at hk
    · next heq => cases heq
    · next heq =>
      cases heq
      cases hk
      rcases hrest with rfl | hslash
      · exact ⟨_, [], rfl, by simp⟩
      · obtain ⟨tail, rfl⟩ := List.head?_eq_some_iff.mp hslash
        exact ⟨_, _, rfl, by rw [Text.split_append_cons, List.map_append]⟩
    · cases hk

/-! ### Locations of parts -/

lemma pointerKeys?_entryLocation {location : String} {keys : List String}
    (h : pointerKeys? location = some keys) (key : String) :
    pointerKeys? (entryLocation location key) = some (keys ++ [key]) := by
  rw [entryLocation, pointerKeys?_push h (slash_notMem_escapeToken key),
    unescapeToken_escapeToken]

lemma pointerKeys?_itemLocation {location : String} {keys : List String}
    (h : pointerKeys? location = some keys) (index : Nat) :
    pointerKeys? (itemLocation location index) = some (keys ++ [index.repr]) := by
  rw [itemLocation, pointerKeys?_push h (slash_notMem_repr index), unescapeToken_repr]

lemma child?_item {items : List Json} {index : Nat} {item : Json}
    (h : items[index]? = some item) : child? index.repr (.array items) = some item := by
  simp [child?, h]

/-! ### References inside parts -/

lemma mem_textsOfItems {items : List Json} {text : String} :
    text ∈ textsOfItems items ↔ ∃ x ∈ items, text ∈ texts x := by
  induction items with
  | nil => simp [textsOfItems]
  | cons item rest ih => simp [textsOfItems, ih]

lemma mem_textsOfEntries {entries : List (String × Json)} {text : String} :
    text ∈ textsOfEntries entries ↔ ∃ e ∈ entries, text ∈ texts e.2 := by
  induction entries with
  | nil => simp [textsOfEntries]
  | cons entry rest ih => simp [textsOfEntries, ih]

lemma texts_subset_of_item {items : List Json} {item : Json} (h : item ∈ items) :
    texts item ⊆ texts (.array items) :=
  fun _ ht => mem_textsOfItems.mpr ⟨item, h, ht⟩

lemma texts_subset_of_entry {entries : List (String × Json)} {entry : String × Json}
    (h : entry ∈ entries) : texts entry.2 ⊆ texts (.object entries) :=
  fun _ ht => List.mem_append_right _ (mem_textsOfEntries.mpr ⟨entry, h, ht⟩)

lemma texts_subset_of_child {json child : Json} {key : String}
    (h : child? key json = some child) : texts child ⊆ texts json := by
  cases json with
  | array items =>
    obtain ⟨i, -, hi⟩ := Option.bind_eq_some_iff.mp h
    exact texts_subset_of_item (List.mem_of_getElem? hi)
  | object entries => exact texts_subset_of_entry (Keyed.mem_of_lookup h)
  | _ => simp [child?] at h

lemma texts_subset_of_descend {keys : List String} {json node : Json}
    (h : descend? keys json = some node) : texts node ⊆ texts json := by
  induction keys generalizing json with
  | nil =>
    cases h
    exact List.Subset.refl _
  | cons key rest ih =>
    obtain ⟨child, hchild, hrest⟩ := Option.bind_eq_some_iff.mp h
    exact List.Subset.trans (ih hrest) (texts_subset_of_child hchild)

lemma texts_subset_of_lookup? {root node : Json} {pointer : String}
    (h : root.lookup? pointer = some node) : texts node ⊆ texts root := by
  obtain ⟨keys, -, hd⟩ := Option.bind_eq_some_iff.mp h
  exact texts_subset_of_descend hd

lemma mem_pointers {root : Json} {entries : List (String × Json)} {text pointer : String}
    (hsub : texts (.object entries) ⊆ texts root) (ht : textOf? entries = some text)
    (hp : pointer? text = some pointer) : pointer ∈ pointers root := by
  have hmem : text ∈ texts root := hsub (by simp [texts, ht])
  rw [pointers, List.mem_eraseDups]
  exact List.mem_filterMap.mpr ⟨text, hmem, hp⟩

end ApiTypes.Reference
