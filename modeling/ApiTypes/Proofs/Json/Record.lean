import ApiTypes.Json.Record
import ApiTypes.Proofs.Json.Tree

/-!
What a record takes over from the value it is read from.

The fields of a record are stored one after another in a draft, from an object as from an array. So
what the first draft has and every store keeps, the draft that is finished has too. The entries of a
table are read one by one and keep their keys.
-/

namespace ApiTypes.Json

section

variable {ε ε' α β : Type} {x : Except ε α} {b : β}

lemma bind_eq_ok {f : α → Except ε β} :
    (x >>= f) = .ok b ↔ ∃ a, x = .ok a ∧ f a = .ok b := by
  cases x <;> simp [bind, Except.bind]

lemma bind_eq_error {f : α → Except ε β} {e : ε} :
    (x >>= f) = .error e ↔ x = .error e ∨ ∃ a, x = .ok a ∧ f a = .error e := by
  cases x <;> simp [bind, Except.bind]

lemma map_eq_ok {f : α → β} : x.map f = .ok b ↔ ∃ a, x = .ok a ∧ f a = b := by
  cases x <;> simp [Except.map]

lemma map_eq_error {f : α → β} {e : ε} : x.map f = .error e ↔ x = .error e := by
  cases x <;> simp [Except.map]

lemma mapError_eq_ok {f : ε → ε'} {a : α} : x.mapError f = .ok a ↔ x = .ok a := by
  cases x <;> simp [Except.mapError]

lemma mapError_eq_error {f : ε → ε'} {e : ε'} :
    x.mapError f = .error e ↔ ∃ e', x = .error e' ∧ f e' = e := by
  cases x <;> simp [Except.mapError]

end

lemma Reader.map_fst_readEntries {α : Type} {read : Reader α} {entries : List (String × Json)}
    {xs : List (String × α)} (h : readEntries read entries = .ok xs) :
    xs.map Prod.fst = entries.map Prod.fst := by
  induction entries generalizing xs with
  | nil =>
    cases h
    rfl
  | cons entry rest ih =>
    rw [readEntries] at h
    split at h
    · cases h
    · next x hx =>
      obtain ⟨more, hmore, rfl⟩ := map_eq_ok.mp h
      rw [List.map_cons, List.map_cons, ih hmore]

lemma Reader.exists_of_mem_readEntries {α : Type} {read : Reader α}
    {entries : List (String × Json)} {xs : List (String × α)} {key : String} {x : α}
    (h : readEntries read entries = .ok xs) (hx : (key, x) ∈ xs) :
    ∃ value, (key, value) ∈ entries ∧ read value = .ok x := by
  induction entries generalizing xs with
  | nil =>
    cases h
    cases hx
  | cons entry rest ih =>
    rw [readEntries] at h
    split at h
    · cases h
    · next y hy =>
      obtain ⟨more, hmore, rfl⟩ := map_eq_ok.mp h
      rcases List.mem_cons.mp hx with heq | hx
      · cases heq
        exact ⟨entry.2, List.mem_cons_self, hy⟩
      · obtain ⟨value, hvalue, hread⟩ := ih hmore hx
        exact ⟨value, List.mem_cons_of_mem _ hvalue, hread⟩

lemma Reader.optional_cases {α : Type} {read : Reader α} {value : Json} {x : Option α}
    (h : optional read value = .ok x) :
    (value = .null ∧ x = none) ∨ ∃ y, read value = .ok y ∧ x = some y := by
  unfold optional at h
  split at h
  · cases h
    exact Or.inl ⟨rfl, rfl⟩
  · obtain ⟨y, hy, rfl⟩ := map_eq_ok.mp h
    exact Or.inr ⟨y, hy, rfl⟩

namespace Shape

variable {δ α : Type} {shape : Shape δ α} {P : δ → Prop} {R : List (String × Json) → Prop}

/-- Storing a value keeps a property of drafts, if all objects in the value are fit for it. -/
def Keeps (shape : Shape δ α) (R : List (String × Json) → Prop) (P : δ → Prop) : Prop :=
  ∀ key value draft draft', value.EveryObject R → P draft →
    shape.set key value draft = .ok draft' → P draft'

lemma Keeps.setEntries (hk : shape.Keeps R P) {entries : List (String × Json)} {draft draft' : δ}
    (hR : ∀ e ∈ entries, e.2.EveryObject R) (hP : P draft)
    (h : shape.setEntries entries draft = .ok draft') : P draft' := by
  induction entries generalizing draft with
  | nil =>
    cases h
    exact hP
  | cons entry rest ih =>
    rw [List.forall_mem_cons] at hR
    rw [Shape.setEntries] at h
    split at h
    · cases h
    · next next hnext => exact ih hR.2 (hk _ _ _ _ hR.1 hP hnext) h

lemma Keeps.setItems (hk : shape.Keeps R P) {length index : Nat} {fields : List (String × Bool)}
    {items : List Json} {draft draft' : δ} (hR : ∀ x ∈ items, x.EveryObject R) (hP : P draft)
    (h : shape.setItems length index fields items draft = .ok draft') : P draft' := by
  induction fields generalizing index items draft with
  | nil =>
    cases items with
    | nil =>
      cases h
      exact hP
    | cons item rest => cases h
  | cons field fields ih =>
    cases items with
    | nil =>
      rw [Shape.setItems] at h
      split at h
      · exact ih hR hP h
      · cases h
    | cons item rest =>
      rw [List.forall_mem_cons] at hR
      rw [Shape.setItems] at h
      split at h
      · cases h
      · next next hnext => exact ih hR.2 (hk _ _ _ _ hR.1 hP hnext) h

/-- What is read comes from a draft with the property. -/
lemma Keeps.exists_draft (hk : shape.Keeps R P) (hstart : P shape.start) {value : Json} {x : α}
    (hR : value.EveryObject R) (h : shape.read value = .ok x) :
    ∃ draft, P draft ∧ shape.finish draft = .ok x := by
  cases value with
  | object entries =>
    obtain ⟨draft, hdraft, hfinish⟩ := bind_eq_ok.mp h
    exact ⟨draft, hk.setEntries (everyObject_object_iff.mp hR).2 hstart hdraft, hfinish⟩
  | array items =>
    obtain ⟨draft, hdraft, hfinish⟩ := bind_eq_ok.mp h
    exact ⟨draft, hk.setItems (everyObject_array_iff.mp hR) hstart hdraft, hfinish⟩
  | _ => cases h

/-! ### The value under a key -/

section

variable {β : Type} {key : String} {read : Reader β} {get : δ → β} {part : α → β}

/-- The value under the key, and under no other, is read into one part of the draft, and that part
is taken over into the record. -/
structure IsField (shape : Shape δ α) (key : String) (read : Reader β) (get : δ → β)
    (part : α → β) : Prop where
  set_cases : ∀ {other value draft draft'}, shape.set other value draft = .ok draft' →
    (other = key ∧ read value = .ok (get draft')) ∨ (other ≠ key ∧ get draft' = get draft)
  part_eq : ∀ {draft x}, shape.finish draft = .ok x → part x = get draft

namespace IsField

lemma of_notMem (hf : shape.IsField key read get part) {entries : List (String × Json)}
    {draft draft' : δ} (hkey : key ∉ entries.map Prod.fst)
    (h : shape.setEntries entries draft = .ok draft') : get draft' = get draft := by
  induction entries generalizing draft with
  | nil =>
    cases h
    rfl
  | cons entry rest ih =>
    rw [List.map_cons, List.mem_cons, not_or] at hkey
    rw [Shape.setEntries] at h
    split at h
    · cases h
    · next next hnext =>
      rcases hf.set_cases hnext with ⟨hthis, -⟩ | ⟨-, hsame⟩
      · exact absurd hthis.symm hkey.1
      · rw [ih hkey.2 h, hsame]

/-- Where no key stands twice, the value under the key is read, and what is read stays. -/
lemma of_lookup (hf : shape.IsField key read get part) {entries : List (String × Json)}
    {draft draft' : δ} {value : Json} (hn : (entries.map Prod.fst).Nodup)
    (hl : entries.lookup key = some value) (h : shape.setEntries entries draft = .ok draft') :
    read value = .ok (get draft') := by
  induction entries generalizing draft with
  | nil => cases hl
  | cons entry rest ih =>
    rw [List.map_cons, List.nodup_cons] at hn
    rw [Shape.setEntries] at h
    split at h
    · cases h
    · next next hnext =>
      rw [Keyed.lookup_cons] at hl
      split at hl
      · next heq =>
        cases hl
        subst heq
        rcases hf.set_cases hnext with ⟨-, hread⟩ | ⟨hother, -⟩
        · rw [hread, hf.of_notMem hn.1 h]
        · exact absurd rfl hother
      · exact ih hn.2 hl h

/-- The part of a record is what is read from the value under the key. -/
lemma read_eq (hf : shape.IsField key read get part) {json value : Json} {x : α}
    (hd : json.Distinct) (h : shape.read json = .ok x) (hget : json.get? key = some value) :
    read value = .ok (part x) := by
  cases json with
  | object entries =>
    obtain ⟨draft, hdraft, hfinish⟩ := bind_eq_ok.mp h
    rw [hf.part_eq hfinish]
    exact hf.of_lookup (everyObject_object_iff.mp hd).1 hget hdraft
  | _ => cases hget

/-- A part that is not as it is at the start was read from the value under the key. -/
lemma exists_lookup (hf : shape.IsField key read get part) {entries : List (String × Json)}
    {x : α} (hd : (Json.object entries).Distinct) (h : shape.read (.object entries) = .ok x)
    (hne : part x ≠ get shape.start) :
    ∃ value, entries.lookup key = some value ∧ read value = .ok (part x) := by
  cases hl : entries.lookup key with
  | some value => exact ⟨value, rfl, hf.read_eq hd h hl⟩
  | none =>
    obtain ⟨draft, hdraft, hfinish⟩ := bind_eq_ok.mp h
    rw [hf.part_eq hfinish] at hne
    exact absurd (hf.of_notMem (Keyed.lookup_eq_none_iff.mp hl) hdraft) hne

/-- What the part has at the start and gets from every fit value, it has in the record, also if the
record is written as an array. -/
lemma of_read (hf : shape.IsField key read get part) {Q : β → Prop} (hstart : Q (get shape.start))
    (hQ : ∀ {value y}, value.EveryObject R → read value = .ok y → Q y) {json : Json} {x : α}
    (hR : json.EveryObject R) (h : shape.read json = .ok x) : Q (part x) := by
  have hkeeps : shape.Keeps R fun draft => Q (get draft) := by
    intro other value draft draft' hvalue hdraft hset
    rcases hf.set_cases hset with ⟨-, hread⟩ | ⟨-, hsame⟩
    · exact hQ hvalue hread
    · rwa [hsame]
  obtain ⟨draft, hdraft, hfinish⟩ := hkeeps.exists_draft hstart hR h
  rwa [hf.part_eq hfinish]

end IsField

end

end Shape

end ApiTypes.Json
