import ApiTypes.Proofs.Reference.Unfolding
import Mathlib.Data.Option.Basic

/-!
What unfolding keeps.

Keys that were distinct stay distinct, entries are found under the keys they had, and a value
without internal references stays as it is. And where every internal reference names a node,
unfolding does not fail.
-/

namespace ApiTypes.Reference

open Json

variable {root : Json} {keys : List String}

/-! ### Distinct keys -/

lemma Unfolds.distinct {value result : Json} (h : Unfolds root keys value result)
    (hroot : root.Distinct) (hv : value.Distinct) : result.Distinct := by
  induction h with
  | null => exact hv
  | bool => exact hv
  | number => exact hv
  | string => exact hv
  | @array keys items results hlen _ ih =>
    have hitems := everyObject_array_iff.mp hv
    refine everyObject_array_iff.mpr fun y hy => ?_
    obtain ⟨i, hi⟩ := List.mem_iff_getElem?.mp hy
    obtain ⟨x, hx⟩ := List.exists_getElem?_of_length_eq hlen hi
    exact ih i x y hx hi (hitems x (List.mem_of_getElem? hx))
  | @object keys entries results _ hkeys _ ih =>
    obtain ⟨hnodup, hentries⟩ := everyObject_object_iff.mp hv
    refine everyObject_object_iff.mpr ⟨hkeys ▸ hnodup, fun e he => ?_⟩
    obtain ⟨i, hi⟩ := List.mem_iff_getElem?.mp he
    obtain ⟨x, hx⟩ := exists_entry_of_keys_eq hkeys hi
    exact ih i e.1 x e.2 hx hi (hentries _ (List.mem_of_getElem? hx))
  | external => exact hv
  | circular => exact hv
  | replaced _ _ _ hnode _ ih => exact ih (hroot.descend hnode)

lemma distinct_of_unfold {result : Json} (hd : root.Distinct) (h : unfold root = .ok result) :
    result.Distinct := by
  have hu : Unfolds root [] root result := Nested.start.unfolds hd [] result (.start root) h
  exact hu.distinct hd hd

/-! ### Parts outside references -/

/-- Nothing around the node at these keys is a reference. -/
def Outside (json : Json) (keys : List String) : Prop :=
  ∀ outer key inner, keys = outer ++ key :: inner →
    ∀ entries, descend? outer json = some (.object entries) → textOf? entries = none

lemma outside_nil (json : Json) : Outside json [] := by
  rintro outer key inner h
  simp at h

lemma outside_cons {json : Json} {key : String} {rest : List String} :
    Outside json (key :: rest) ↔ (∀ entries, json = .object entries → textOf? entries = none) ∧
      ∀ child, child? key json = some child → Outside child rest := by
  constructor
  · intro h
    refine ⟨fun entries hjson => h [] key rest rfl entries (by rw [hjson]; rfl), ?_⟩
    rintro child hc outer k inner rfl entries hentries
    refine h (key :: outer) k inner rfl entries ?_
    rw [descend?, hc]
    exact hentries
  · rintro ⟨hhere, hbelow⟩ outer k inner hkeys entries hentries
    cases outer with
    | nil =>
      cases hentries
      exact hhere entries rfl
    | cons first outer =>
      cases hkeys
      obtain ⟨child, hchild, hrest⟩ := Option.bind_eq_some_iff.mp hentries
      exact hbelow child hchild outer k inner rfl entries hrest

lemma outside_singleton {json : Json} {key : String} :
    Outside json [key] ↔ ∀ entries, json = .object entries → textOf? entries = none := by
  rw [outside_cons, and_iff_left fun child _ => outside_nil child]

lemma outside_entry {entries : List (String × Json)} (h : textOf? entries = none) (key : String) :
    Outside (.object entries) [key] := by
  rw [outside_singleton]
  rintro _ ⟨⟩
  exact h

lemma Outside.tail {json child : Json} {key : String} {rest : List String}
    (h : Outside json (key :: rest)) (hc : child? key json = some child) : Outside child rest :=
  (outside_cons.mp h).2 child hc

lemma Outside.append {json part : Json} {path rest : List String} (h : Outside json path)
    (hp : descend? path json = some part) (hrest : Outside part rest) :
    Outside json (path ++ rest) := by
  induction path generalizing json with
  | nil =>
    cases hp
    exact hrest
  | cons key path ih =>
    obtain ⟨child, hchild, hpart⟩ := Option.bind_eq_some_iff.mp hp
    refine outside_cons.mpr ⟨(outside_cons.mp h).1, fun child' hchild' => ?_⟩
    obtain rfl : child = child' := Option.some.inj (hchild.symm.trans hchild')
    exact ih (h.tail hchild) hpart

lemma rel_lookup {entries results : List (String × Json)} {P : Json → Json → Prop}
    (hk : results.map Prod.fst = entries.map Prod.fst)
    (hall : ∀ (i : Nat) key x y, entries[i]? = some (key, x) → results[i]? = some (key, y) → P x y)
    (key : String) : Option.Rel P (entries.lookup key) (results.lookup key) := by
  cases hy : results.lookup key with
  | none =>
    have hx : entries.lookup key = none := by
      rw [Keyed.lookup_eq_none_iff, ← hk, ← Keyed.lookup_eq_none_iff, hy]
    rw [hx]
    exact .none
  | some y =>
    obtain ⟨i, x, hx, hyi, hfound⟩ := lookup_of_keys_eq hk hy
    rw [hfound]
    exact .some (hall i key x y hx hyi)

/-- A value without internal references stays as it is. -/
lemma Unfolds.eq_self {value result : Json} (h : Unfolds root keys value result)
    (hv : ∀ text ∈ texts value, pointer? text = none) : result = value := by
  induction h with
  | null => rfl
  | bool => rfl
  | number => rfl
  | string => rfl
  | @array keys items results hlen _ ih =>
    refine congrArg Json.array (List.ext_getElem hlen fun i hi hi' => ?_)
    refine ih i _ _ (List.getElem?_eq_getElem hi') (List.getElem?_eq_getElem hi) fun text ht => ?_
    exact hv text (texts_subset_of_item (List.getElem_mem hi') ht)
  | @object keys entries results _ hkeys _ ih =>
    have hlen : results.length = entries.length := by
      simpa using congrArg List.length hkeys
    refine congrArg Json.object (List.ext_getElem hlen fun i hi hi' => ?_)
    have hresult : results[i]? = some results[i] := List.getElem?_eq_getElem hi
    obtain ⟨x, hx⟩ := exists_entry_of_keys_eq hkeys hresult
    have hsame : results[i].2 = x := by
      refine ih i _ x _ hx hresult fun text ht => ?_
      exact hv text (texts_subset_of_entry (List.mem_of_getElem? hx) ht)
    rw [List.getElem?_eq_getElem hi', Option.some.injEq] at hx
    rw [hx, ← hsame]
  | external => rfl
  | circular => rfl
  | replaced ht hp _ _ _ _ =>
    rw [hv _ (by simp [texts, ht])] at hp
    cases hp

/-! ### Unfolding succeeds -/

/-- Every internal reference names a node. -/
def Resolvable (root : Json) : Prop :=
  ∀ text ∈ texts root, ∀ pointer ∈ pointer? text, (root.lookup? pointer).isSome = true

instance (root : Json) : Decidable (Resolvable root) :=
  inferInstanceAs (Decidable (∀ text ∈ texts root, _))

variable {f : Json → String → String → Except Dangling Json} {location : String}

lemma exists_rebuildItems {items : List Json} {index : Nat}
    (h : ∀ (i : Nat) x, items[i]? = some x →
      ∃ y, rebuild f (itemLocation location (index + i)) x = .ok y) :
    ∃ results, rebuildItems f location index items = .ok results := by
  induction items generalizing index with
  | nil => exact ⟨[], rfl⟩
  | cons item rest ih =>
    obtain ⟨y, hy⟩ := h 0 item rfl
    rw [Nat.add_zero] at hy
    obtain ⟨results, hresults⟩ : ∃ results,
        rebuildItems f location (index + 1) rest = .ok results := by
      refine ih fun i x hx => ?_
      rw [Nat.add_assoc, Nat.add_comm 1 i]
      exact h (i + 1) x hx
    exact ⟨y :: results, by simp [rebuildItems, hy, hresults, Except.map]⟩

lemma exists_rebuildEntries {entries : List (String × Json)}
    (h : ∀ e ∈ entries, ∃ y, rebuild f (entryLocation location e.1) e.2 = .ok y) :
    ∃ results, rebuildEntries f location entries = .ok results := by
  induction entries with
  | nil => exact ⟨[], rfl⟩
  | cons entry rest ih =>
    obtain ⟨y, hy⟩ := h entry (by simp)
    obtain ⟨results, hresults⟩ := ih fun e he => h e (List.mem_cons_of_mem _ he)
    exact ⟨(entry.1, y) :: results, by simp [rebuildEntries, hy, hresults, Except.map]⟩

lemma Nested.exists_answer {trace : List String} {c : Call} (hr : Resolvable root)
    (h : Nested root trace c) : ∃ result, answer root c = .ok result := by
  refine h.induction (motive := fun c => ∃ result, answer root c = .ok result) ?_
  rintro trace ⟨value, location, opened⟩ h ih
  cases value with
  | array items =>
    obtain ⟨results, hresults⟩ : ∃ results,
        rebuildItems (expand root (pointers root).length opened) location 0 items =
          .ok results := by
      refine exists_rebuildItems fun i x hx => ?_
      rw [Nat.zero_add]
      exact ih _ (Or.inl (.item hx))
    exact ⟨.array results, by rw [answer, bounded, rebuild, hresults]; rfl⟩
  | object entries =>
    cases ht : textOf? entries with
    | none =>
      obtain ⟨results, hresults⟩ : ∃ results,
          rebuildEntries (expand root (pointers root).length opened) location entries =
            .ok results :=
        exists_rebuildEntries fun e he => ih _ (Or.inl (.entry ht he))
      refine ⟨.object results, ?_⟩
      rw [answer, bounded, rebuild, ht]
      simp only [hresults, Except.map]
    | some text =>
      rw [h.answer_reference ht]
      unfold follow
      split
      · exact ⟨_, rfl⟩
      · next pointer hp =>
        split
        · exact ⟨_, rfl⟩
        · next hfree =>
          have hmem : text ∈ texts root := h.texts_subset (by simp [texts, ht])
          obtain ⟨node, hnode⟩ := Option.isSome_iff_exists.mp (hr text hmem pointer hp)
          rw [Bool.not_eq_true] at hfree
          simp only [hnode]
          exact ih _ (Or.inr ⟨pointer, .mk ht hp hfree hnode⟩)
  | _ => exact ⟨_, rfl⟩

lemma exists_unfold (hr : Resolvable root) : ∃ result, unfold root = .ok result :=
  Nested.start.exists_answer hr

end ApiTypes.Reference
