import ApiTypes.Json.Pointer
import ApiTypes.Proofs.Keyed

/-!
JSON values as trees.

One induction over values with the items of an array and the entries of an object at hand, and
properties that all objects in a value have. The one that matters most is that no key stands twice:
in a value that was read from text each entry is the one that its key finds.
-/

namespace ApiTypes.Json

theorem induction {motive : Json → Prop}
    (null : motive .null) (bool : ∀ b, motive (.bool b)) (number : ∀ n, motive (.number n))
    (string : ∀ s, motive (.string s))
    (array : ∀ items, (∀ x ∈ items, motive x) → motive (.array items))
    (object : ∀ entries, (∀ e ∈ entries, motive e.2) → motive (.object entries))
    (json : Json) : motive json := by
  match json with
  | .null => exact null
  | .bool b => exact bool b
  | .number n => exact number n
  | .string s => exact string s
  | .array items =>
    refine array items fun x hx => ?_
    have := List.sizeOf_lt_of_mem hx
    exact induction null bool number string array object x
  | .object entries =>
    refine object entries fun e he => ?_
    have := List.sizeOf_lt_of_mem he
    obtain ⟨key, value⟩ := e
    exact induction null bool number string array object value
termination_by sizeOf json
decreasing_by all_goals simp_wf; (try simp only [Prod.mk.sizeOf_spec] at *); omega

/-! ### Equality -/

mutual

/-- Whether two values are the same. -/
def same : Json → Json → Bool
  | .null, .null => true
  | .bool a, .bool b => a == b
  | .number a, .number b => a == b
  | .string a, .string b => a == b
  | .array a, .array b => sameItems a b
  | .object a, .object b => sameEntries a b
  | _, _ => false

def sameItems : List Json → List Json → Bool
  | [], [] => true
  | a :: rest, b :: rest' => a.same b && sameItems rest rest'
  | _, _ => false

def sameEntries : List (String × Json) → List (String × Json) → Bool
  | [], [] => true
  | (key, a) :: rest, (key', b) :: rest' => key == key' && a.same b && sameEntries rest rest'
  | _, _ => false

end

lemma sameItems_iff {items : List Json} (h : ∀ x ∈ items, ∀ y, x.same y = true ↔ x = y) :
    ∀ items', sameItems items items' = true ↔ items = items' := by
  induction items with
  | nil => intro items'; cases items' <;> simp [sameItems]
  | cons x rest ih =>
    rw [List.forall_mem_cons] at h
    intro items'
    cases items' <;> simp [sameItems, h.1, ih h.2]

lemma sameEntries_iff {entries : List (String × Json)}
    (h : ∀ e ∈ entries, ∀ y, e.2.same y = true ↔ e.2 = y) :
    ∀ entries', sameEntries entries entries' = true ↔ entries = entries' := by
  induction entries with
  | nil => intro entries'; cases entries' <;> simp [sameEntries]
  | cons e rest ih =>
    rw [List.forall_mem_cons] at h
    intro entries'
    cases entries' with
    | nil => simp [sameEntries]
    | cons e' rest' => simp [sameEntries, h.1, ih h.2, Prod.ext_iff]

lemma same_iff (a : Json) : ∀ b, a.same b = true ↔ a = b := by
  induction a using Json.induction with
  | array items ih => intro b; cases b <;> simp [same, sameItems_iff ih]
  | object entries ih => intro b; cases b <;> simp [same, sameEntries_iff ih]
  | _ => intro b; cases b <;> simp [same]

instance : DecidableEq Json := fun a b => decidable_of_iff _ (same_iff a b)

/-! ### Properties of all objects -/

mutual

/-- Every object in the value, at any depth, has the property. -/
def EveryObject (P : List (String × Json) → Prop) : Json → Prop
  | .array items => EveryObjectOfItems P items
  | .object entries => P entries ∧ EveryObjectOfEntries P entries
  | _ => True

def EveryObjectOfItems (P : List (String × Json) → Prop) : List Json → Prop
  | [] => True
  | item :: rest => item.EveryObject P ∧ EveryObjectOfItems P rest

def EveryObjectOfEntries (P : List (String × Json) → Prop) : List (String × Json) → Prop
  | [] => True
  | (_, value) :: rest => value.EveryObject P ∧ EveryObjectOfEntries P rest

end

/-- No object of the value has a key twice. -/
def Distinct : Json → Prop := EveryObject fun entries => (entries.map Prod.fst).Nodup

variable {P : List (String × Json) → Prop}

lemma everyObject_array_iff {items : List Json} :
    (Json.array items).EveryObject P ↔ ∀ x ∈ items, x.EveryObject P := by
  rw [EveryObject]
  induction items with
  | nil => simp [EveryObjectOfItems]
  | cons item rest ih => simp [EveryObjectOfItems, ih]

lemma everyObject_object_iff {entries : List (String × Json)} :
    (Json.object entries).EveryObject P ↔ P entries ∧ ∀ e ∈ entries, e.2.EveryObject P := by
  have h : EveryObjectOfEntries P entries ↔ ∀ e ∈ entries, e.2.EveryObject P := by
    induction entries with
    | nil => simp [EveryObjectOfEntries]
    | cons entry rest ih => simp [EveryObjectOfEntries, ih]
  rw [EveryObject, h]

lemma EveryObject.child {json child : Json} {key : String} (hP : json.EveryObject P)
    (h : child? key json = some child) : child.EveryObject P := by
  cases json with
  | array items =>
    obtain ⟨i, -, hi⟩ := Option.bind_eq_some_iff.mp h
    exact everyObject_array_iff.mp hP _ (List.mem_of_getElem? hi)
  | object entries => exact (everyObject_object_iff.mp hP).2 _ (Keyed.mem_of_lookup h)
  | _ => simp [child?] at h

lemma EveryObject.descend {keys : List String} {json node : Json} (hP : json.EveryObject P)
    (h : descend? keys json = some node) : node.EveryObject P := by
  induction keys generalizing json with
  | nil =>
    cases h
    exact hP
  | cons key rest ih =>
    obtain ⟨child, hchild, hrest⟩ := Option.bind_eq_some_iff.mp h
    exact ih (hP.child hchild) hrest

/-- The property at the object that some keys lead to. -/
lemma EveryObject.at_keys {keys : List String} {json : Json} {entries : List (String × Json)}
    (hP : json.EveryObject P) (h : descend? keys json = some (.object entries)) : P entries :=
  (everyObject_object_iff.mp (hP.descend h)).1

end ApiTypes.Json
