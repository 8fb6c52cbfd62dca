import Mathlib.Data.List.Forall2
import Mathlib.Data.List.Induction
import Mathlib.Data.List.Nodup

/-!
Lists that are related place by place, and lists without their repetitions.
-/

namespace List

variable {α β γ : Type}

lemma exists_getElem?_of_length_eq {xs : List α} {ys : List β} (h : ys.length = xs.length)
    {i : Nat} {y : β} (hy : ys[i]? = some y) : ∃ x, xs[i]? = some x := by
  obtain ⟨hi, -⟩ := List.getElem?_eq_some_iff.mp hy
  exact ⟨xs[i], List.getElem?_eq_getElem (by omega)⟩

section Forall₂

variable {R : α → β → Prop} {as : List α} {bs : List β}

lemma forall₂_iff_getElem? :
    Forall₂ R as bs ↔ as.length = bs.length ∧
      ∀ (i : Nat) a b, as[i]? = some a → bs[i]? = some b → R a b := by
  rw [forall₂_iff_get]
  refine and_congr_right fun hlength => ⟨fun h i a b ha hb => ?_, fun h i hi hi' => ?_⟩
  · obtain ⟨hi, rfl⟩ := getElem?_eq_some_iff.mp ha
    obtain ⟨hi', rfl⟩ := getElem?_eq_some_iff.mp hb
    exact h i hi hi'
  · exact h i _ _ (getElem?_eq_getElem hi) (getElem?_eq_getElem hi')

lemma exists_forall₂_iff : (∃ bs, Forall₂ R as bs) ↔ ∀ a ∈ as, ∃ b, R a b := by
  induction as with
  | nil => simp
  | cons a as ih =>
    rw [forall_mem_cons, ← ih]
    constructor
    · rintro ⟨_, _ | ⟨hb, hbs⟩⟩
      exact ⟨⟨_, hb⟩, _, hbs⟩
    · rintro ⟨⟨b, hb⟩, bs, hbs⟩
      exact ⟨b :: bs, .cons hb hbs⟩

lemma forall₂_concat_iff {a : α} :
    Forall₂ R (as ++ [a]) bs ↔ ∃ bs' b, bs = bs' ++ [b] ∧ Forall₂ R as bs' ∧ R a b := by
  constructor
  · intro h
    rw [← forall₂_reverse_iff, reverse_concat, forall₂_cons_left_iff] at h
    obtain ⟨b, rest, hlast, hinit, hbs⟩ := h
    rw [reverse_eq_cons_iff] at hbs
    refine ⟨rest.reverse, b, hbs, ?_, hlast⟩
    rwa [← forall₂_reverse_iff, reverse_reverse]
  · rintro ⟨bs', b, rfl, hinit, hlast⟩
    exact rel_append hinit (.cons hlast .nil)

lemma Forall₂.map_eq {f : α → β} (h : Forall₂ (f · = ·) as bs) : as.map f = bs := by
  rwa [← forall₂_eq_eq_eq, forall₂_map_left_iff]

/-- A function that needs to know something of the elements, where it does what another one does
with the elements that they are related to. -/
lemma Forall₂.pmap_eq_map {P : α → Prop} {f : (a : α) → P a → γ} {g : β → γ} {hP : ∀ a ∈ as, P a}
    (h : Forall₂ R as bs) (hf : ∀ a ha b, R a b → f a ha = g b) : as.pmap f hP = bs.map g := by
  induction h with
  | nil => rfl
  | cons hab _ ih => rw [pmap_cons, map_cons, hf _ _ _ hab, ih]

end Forall₂

lemma mapM_eq_some_map {f : α → Option β} {g : α → β} {xs : List α}
    (h : ∀ x ∈ xs, f x = some (g x)) : xs.mapM f = some (xs.map g) := by
  induction xs with
  | nil => rfl
  | cons x xs ih =>
    rw [forall_mem_cons] at h
    rw [mapM_cons, h.1, ih h.2]
    rfl

section eraseDups

variable [BEq α] [LawfulBEq α]

lemma eraseDups_concat (as : List α) (b : α) :
    (as ++ [b]).eraseDups = if b ∈ as then as.eraseDups else as.eraseDups ++ [b] := by
  rw [eraseDups_append]
  split
  · next h => simp [removeAll, h]
  · next h => simp [removeAll, h, eraseDups_cons]

lemma eraseDups_append_of_subset {as bs : List α} (h : bs ⊆ as) :
    (as ++ bs).eraseDups = as.eraseDups := by
  have hnone : bs.removeAll as = [] :=
    filter_eq_nil_iff.mpr fun b hb => by simpa using h hb
  rw [eraseDups_append, hnone, eraseDups_nil, append_nil]

lemma eraseDups_append_congr {as as' : List α} (h : as.eraseDups = as'.eraseDups) (bs : List α) :
    (as ++ bs).eraseDups = (as' ++ bs).eraseDups := by
  induction bs using reverseRecOn with
  | nil => rwa [append_nil, append_nil]
  | append_singleton bs b ih =>
    have hmem : b ∈ as ++ bs ↔ b ∈ as' ++ bs := by
      rw [← mem_eraseDups, ih, mem_eraseDups]
    rw [← append_assoc, ← append_assoc, eraseDups_concat, eraseDups_concat, ih]
    simp only [hmem]

lemma eraseDups_append_eraseDups (as bs : List α) :
    (as ++ bs.eraseDups).eraseDups = (as ++ bs).eraseDups := by
  induction bs using reverseRecOn with
  | nil => rfl
  | append_singleton bs b ih =>
    rw [eraseDups_concat, ← append_assoc]
    split
    · next hmem =>
      have hsub : [b] ⊆ as ++ bs := by simp [hmem]
      rw [ih, eraseDups_append_of_subset hsub]
    · rw [← append_assoc]
      exact eraseDups_append_congr ih [b]

/-- Items that come in groups may have their repetitions left out in each group first. -/
lemma eraseDups_flatMap_eraseDups (f : β → List α) (xs : List β) :
    (xs.flatMap fun x => (f x).eraseDups).eraseDups = (xs.flatMap f).eraseDups := by
  induction xs using reverseRecOn with
  | nil => rfl
  | append_singleton xs x ih =>
    rw [flatMap_append, flatMap_append, flatMap_singleton, flatMap_singleton,
      eraseDups_append_eraseDups]
    exact eraseDups_append_congr ih (f x)

lemma nodup_eraseDups (as : List α) : as.eraseDups.Nodup := by
  induction as using reverseRecOn with
  | nil => exact nodup_nil
  | append_singleton as b ih =>
    rw [eraseDups_concat]
    split
    · exact ih
    · next h =>
      have hb : b ∉ as.eraseDups := by rwa [mem_eraseDups]
      exact nodup_append_comm.mp (nodup_cons.mpr ⟨hb, ih⟩)

end eraseDups

end List
