import ApiTypes.Proofs.Reference.Location
import Mathlib.Data.List.Perm.Subperm
import Mathlib.Logic.Relation

/-!
Unfolding as nested calls.

Unfolding a value at a location calls itself on the items and entries of the value, and, where the
value is a reference that may be opened, on the target of the reference at the location its pointer
gives. A chain of nested calls has opened some pointers on the way. Right after a pointer is opened
the location is that pointer, and from then on the location, or a location among the opened ones,
goes on from it: so the pointer is not opened again. Hence a chain opens no more pointers than the
description has, the calls end, and the bound on their depth in the definition of unfolding is never
felt: unfolding is the one solution of the recursion without the bound.
-/

namespace ApiTypes.Reference

open Json

/-! ### Rebuilding from its parts -/

variable {f g : Json → String → String → Except Dangling Json} {location : String}

lemma rebuildItems_congr {items : List Json} {index : Nat}
    (h : ∀ i x, items[i]? = some x →
      rebuild f (itemLocation location (index + i)) x =
        rebuild g (itemLocation location (index + i)) x) :
    rebuildItems f location index items = rebuildItems g location index items := by
  induction items generalizing index with
  | nil => rfl
  | cons item rest ih =>
    have h0 := h 0 item rfl
    rw [Nat.add_zero] at h0
    have hrest : rebuildItems f location (index + 1) rest =
        rebuildItems g location (index + 1) rest := by
      refine ih fun i x hx => ?_
      rw [Nat.add_assoc, Nat.add_comm 1 i]
      exact h (i + 1) x hx
    simp only [rebuildItems, h0, hrest]

lemma rebuildEntries_congr {entries : List (String × Json)}
    (h : ∀ e ∈ entries, rebuild f (entryLocation location e.1) e.2 =
      rebuild g (entryLocation location e.1) e.2) :
    rebuildEntries f location entries = rebuildEntries g location entries := by
  induction entries with
  | nil => rfl
  | cons entry rest ih =>
    obtain ⟨key, value⟩ := entry
    have h0 := h (key, value) (by simp)
    have hrest := ih fun e he => h e (List.mem_cons_of_mem _ he)
    simp only [rebuildEntries, h0, hrest]

/-! ### Calls -/

/-- A value to unfold, where it stands, and the locations of the references being unfolded around
it, innermost first. -/
structure Call where
  value : Json
  location : String
  opened : List String

/-- The call that unfolds a whole description. -/
def Call.start (root : Json) : Call := ⟨root, "", []⟩

/-- A call on a part of a value that is no reference. -/
inductive Enters : Call → Call → Prop where
  | item {items : List Json} {location : String} {opened : List String} {index : Nat} {x : Json} :
      items[index]? = some x →
      Enters ⟨.array items, location, opened⟩ ⟨x, itemLocation location index, opened⟩
  | entry {entries : List (String × Json)} {location : String} {opened : List String}
      {key : String} {x : Json} :
      textOf? entries = none → (key, x) ∈ entries →
      Enters ⟨.object entries, location, opened⟩ ⟨x, entryLocation location key, opened⟩

/-- The call on the target of a reference whose pointer encloses no open location. -/
inductive Opens (root : Json) (pointer : String) : Call → Call → Prop where
  | mk {entries : List (String × Json)} {location text : String} {opened : List String}
      {target : Json} :
      textOf? entries = some text → pointer? text = some pointer →
      (location :: opened).any (encloses pointer) = false →
      root.lookup? pointer = some target →
      Opens root pointer ⟨.object entries, location, opened⟩ ⟨target, pointer, location :: opened⟩

/-- One call made by another. -/
def Calls (root : Json) (c d : Call) : Prop := Enters c d ∨ ∃ pointer, Opens root pointer c d

/-- The calls nested in the first one, each with the pointers opened on the way, last first. -/
inductive Nested (root : Json) : List String → Call → Prop where
  | start : Nested root [] (.start root)
  | enters {trace : List String} {c d : Call} :
      Nested root trace c → Enters c d → Nested root trace d
  | opens {trace : List String} {pointer : String} {c d : Call} :
      Nested root trace c → Opens root pointer c d → Nested root (pointer :: trace) d

variable {root : Json} {trace : List String} {c d : Call} {pointer : String}

lemma Enters.sizeOf_lt (h : Enters c d) : sizeOf d.value < sizeOf c.value := by
  cases h with
  | item hx =>
    have := List.sizeOf_lt_of_mem (List.mem_of_getElem? hx)
    simp only [Json.array.sizeOf_spec]
    omega
  | entry _ hx =>
    have := List.sizeOf_lt_of_mem hx
    simp only [Json.object.sizeOf_spec, Prod.mk.sizeOf_spec] at this ⊢
    omega

lemma Enters.texts_subset (h : Enters c d) : texts d.value ⊆ texts c.value := by
  cases h with
  | item hx => exact texts_subset_of_item (List.mem_of_getElem? hx)
  | entry _ hx => exact texts_subset_of_entry hx

lemma Enters.encloses (h : Enters c d)
    (hc : (c.location :: c.opened).any (encloses pointer) = true) :
    (d.location :: d.opened).any (Reference.encloses pointer) = true := by
  cases h <;>
  · rw [List.any_cons, Bool.or_eq_true] at hc ⊢
    exact hc.imp_left (encloses_push _)

/-! ### No pointer is opened twice -/

lemma Nested.texts_subset (h : Nested root trace c) : texts c.value ⊆ texts root := by
  induction h with
  | start => exact List.Subset.refl _
  | enters _ he ih => exact List.Subset.trans he.texts_subset ih
  | opens _ ho _ =>
    cases ho with
    | mk _ _ _ hl => exact texts_subset_of_lookup? hl

/-- A pointer that has been opened encloses an open location. -/
lemma Nested.encloses (h : Nested root trace c) :
    ∀ p ∈ trace, (c.location :: c.opened).any (encloses p) = true := by
  induction h with
  | start => simp
  | enters _ he ih => exact fun p hp => he.encloses (ih p hp)
  | opens _ ho ih =>
    cases ho with
    | mk _ _ _ _ =>
      intro p hp
      rcases List.mem_cons.mp hp with rfl | hp
      · simp [encloses_self]
      · rw [List.any_cons, ih p hp, Bool.or_true]

lemma Nested.notMem_of_opens (h : Nested root trace c) (ho : Opens root pointer c d) :
    pointer ∉ trace := by
  intro hp
  have henc := h.encloses pointer hp
  cases ho with
  | mk _ _ hfree _ =>
    rw [hfree] at henc
    cases henc

lemma Nested.mem_pointers_of_opens (h : Nested root trace c) (ho : Opens root pointer c d) :
    pointer ∈ pointers root := by
  have hsub := h.texts_subset
  cases ho with
  | mk ht hp _ _ => exact mem_pointers hsub ht hp

lemma Nested.nodup (h : Nested root trace c) : trace.Nodup := by
  induction h with
  | start => exact List.nodup_nil
  | enters _ _ ih => exact ih
  | opens hn ho ih => exact List.nodup_cons.mpr ⟨hn.notMem_of_opens ho, ih⟩

lemma Nested.subset_pointers (h : Nested root trace c) : trace ⊆ pointers root := by
  induction h with
  | start => exact List.nil_subset _
  | enters _ _ ih => exact ih
  | opens hn ho ih => exact List.cons_subset.mpr ⟨hn.mem_pointers_of_opens ho, ih⟩

lemma Nested.length_opened (h : Nested root trace c) : c.opened.length = trace.length := by
  induction h with
  | start => rfl
  | enters _ he ih => cases he <;> exact ih
  | opens _ ho ih =>
    cases ho with
    | mk _ _ _ _ => rw [List.length_cons, List.length_cons, ih]

lemma Nested.length_le (h : Nested root trace c) : trace.length ≤ (pointers root).length :=
  (List.subperm_of_subset h.nodup h.subset_pointers).length_le

/-- When all pointers have been opened there is no reference left to open. -/
lemma Nested.not_opens (h : Nested root trace c) (hn : (pointers root).length ≤ trace.length) :
    ¬ Opens root pointer c d := by
  intro ho
  have := (h.opens ho).length_le
  rw [List.length_cons] at this
  omega

/-! ### The calls end -/

lemma Nested.acc {n : Nat} (h : Nested root trace c)
    (hn : (pointers root).length < n + trace.length) :
    Acc (fun d c => Calls root c d) c := by
  -- The pointers left to open come first, the size of the value second.
  induction n generalizing trace c with
  | zero =>
    have := h.length_le
    omega
  | succ n ih =>
    obtain ⟨size, hsize⟩ : ∃ size, sizeOf c.value < size := ⟨_, Nat.lt_succ_self _⟩
    induction size generalizing c with
    | zero => omega
    | succ size ihsize =>
      refine Acc.intro c fun d hd => ?_
      rcases hd with henters | ⟨pointer, hopens⟩
      · have := henters.sizeOf_lt
        exact ihsize (h.enters henters) (by omega)
      · exact ih (h.opens hopens) (by rw [List.length_cons]; omega)

lemma acc_start (root : Json) : Acc (fun d c => Calls root c d) (.start root) :=
  Nested.start.acc (n := (pointers root).length + 1) (by simp)

/-! ### The recursion without a bound -/

/-- What becomes of a reference object when `resolve` answers the call on its target. -/
def follow (root : Json) (resolve : Call → Except Dangling Json) (opened : List String)
    (node : Json) (text location : String) : Except Dangling Json :=
  match pointer? text with
  | none => .ok node
  | some pointer =>
    if (location :: opened).any (encloses pointer) then .ok node
    else
      match root.lookup? pointer with
      | none => .error ⟨text⟩
      | some target => resolve ⟨target, pointer, location :: opened⟩

/-- A solution of the recursion on all nested calls. -/
def Resolves (root : Json) (resolve : Call → Except Dangling Json) : Prop :=
  ∀ trace c, Nested root trace c →
    resolve c = rebuild (follow root resolve c.opened) c.location c.value

/-- The answer to a call when at most `depth` references may be opened inside it. -/
def bounded (root : Json) (depth : Nat) (c : Call) : Except Dangling Json :=
  rebuild (expand root depth c.opened) c.location c.value

lemma expand_zero (opened : List String) (node : Json) (text location : String) :
    expand root 0 opened node text location =
      follow root (fun _ => .ok node) opened node text location := by
  rw [expand]
  rfl

lemma expand_succ (depth : Nat) (opened : List String) (node : Json) (text location : String) :
    expand root (depth + 1) opened node text location =
      follow root (bounded root depth) opened node text location := by
  rw [expand]
  rfl

variable {resolve resolve' : Call → Except Dangling Json} {opened : List String}

/-- A reference that is followed is external, or encloses an open location, or opens its target. -/
lemma follow_ok {entries : List (String × Json)} {text : String} {result : Json}
    (ht : textOf? entries = some text)
    (h : follow root resolve opened (.object entries) text location = .ok result) :
    (pointer? text = none ∧ result = .object entries) ∨
    ∃ pointer, pointer? text = some pointer ∧
      (((location :: opened).any (encloses pointer) = true ∧ result = .object entries) ∨
        ∃ d, Opens root pointer ⟨.object entries, location, opened⟩ d ∧
          resolve d = .ok result) := by
  unfold follow at h
  split at h
  · next hp =>
    cases h
    exact Or.inl ⟨hp, rfl⟩
  · next pointer hp =>
    refine Or.inr ⟨pointer, hp, ?_⟩
    split at h
    · next henc =>
      cases h
      exact Or.inl ⟨henc, rfl⟩
    · next hfree =>
      rw [Bool.not_eq_true] at hfree
      split at h
      · cases h
      · next target hl => exact Or.inr ⟨_, .mk ht hp hfree hl, h⟩

lemma follow_congr {entries : List (String × Json)} {text : String}
    (ht : textOf? entries = some text)
    (h : ∀ pointer d, Opens root pointer ⟨.object entries, location, opened⟩ d →
      resolve d = resolve' d) :
    follow root resolve opened (.object entries) text location =
      follow root resolve' opened (.object entries) text location := by
  unfold follow
  split
  · rfl
  · next pointer hp =>
    split
    · rfl
    · next hfree =>
      rw [Bool.not_eq_true] at hfree
      split
      · rfl
      · next target hl => exact h pointer _ (.mk ht hp hfree hl)

lemma Nested.rebuild_congr {value : Json} (h : Nested root trace ⟨value, location, opened⟩)
    (hfg : ∀ entries text location, Nested root trace ⟨.object entries, location, opened⟩ →
      textOf? entries = some text →
      f (.object entries) text location = g (.object entries) text location) :
    rebuild f location value = rebuild g location value := by
  induction value using Json.induction generalizing location with
  | null => rfl
  | bool b => rfl
  | number n => rfl
  | string s => rfl
  | array items ih =>
    rw [rebuild, rebuild, rebuildItems_congr fun i x hx => ?_]
    rw [Nat.zero_add]
    exact ih x (List.mem_of_getElem? hx) (h.enters (.item hx))
  | object entries ih =>
    rw [rebuild, rebuild]
    cases ht : textOf? entries with
    | some text => exact hfg entries text location h ht
    | none =>
      simp only
      rw [rebuildEntries_congr fun e he => ih e he (h.enters (.entry ht he))]

/-- Where the bound leaves room for the pointers not yet opened, it gives what any solution
gives. -/
lemma Nested.bounded_eq (hr : Resolves root resolve) {depth : Nat} (h : Nested root trace c)
    (hd : (pointers root).length ≤ depth + trace.length) : bounded root depth c = resolve c := by
  induction depth generalizing trace c with
  | zero =>
    rw [hr trace c h]
    refine h.rebuild_congr fun entries text location hn ht => ?_
    rw [expand_zero]
    exact follow_congr ht fun pointer d ho => absurd ho (hn.not_opens (by omega))
  | succ depth ih =>
    rw [hr trace c h]
    refine h.rebuild_congr fun entries text location hn ht => ?_
    rw [expand_succ]
    refine follow_congr ht fun pointer d ho => ih (hn.opens ho) ?_
    rw [List.length_cons]
    omega

lemma Nested.bounded_succ {depth : Nat} (h : Nested root trace c)
    (hd : (pointers root).length ≤ depth + trace.length) :
    bounded root (depth + 1) c = bounded root depth c := by
  induction depth generalizing trace c with
  | zero =>
    refine h.rebuild_congr fun entries text location hn ht => ?_
    rw [expand_zero, expand_succ]
    exact follow_congr ht fun pointer d ho => absurd ho (hn.not_opens (by omega))
  | succ depth ih =>
    refine h.rebuild_congr fun entries text location hn ht => ?_
    rw [expand_succ, expand_succ]
    refine follow_congr ht fun pointer d ho => ih (hn.opens ho) ?_
    rw [List.length_cons]
    omega

/-- The answer to a nested call. -/
def answer (root : Json) (c : Call) : Except Dangling Json :=
  bounded root (pointers root).length c

lemma resolves_answer (root : Json) : Resolves root (answer root) := by
  intro trace c h
  rw [answer, ← h.bounded_succ (by omega)]
  refine h.rebuild_congr fun entries text location hn ht => ?_
  rw [expand_succ]
  rfl

/-- **Unfolding ends.** Nested calls cannot go on for ever. No chain of them opens a pointer twice,
each opened pointer belongs to an internal reference of the description, and the stack of open
locations has one entry for each, so never more than there are such pointers. The recursion that is
not bounded has a solution on all nested calls, and unfolding is what any solution gives. -/
theorem unfold_ends (root : Json) :
    Acc (fun d c => Calls root c d) (.start root) ∧
    (∀ trace c, Nested root trace c →
      trace.Nodup ∧ trace ⊆ pointers root ∧ c.opened.length = trace.length ∧
        c.opened.length ≤ (pointers root).length) ∧
    (∃ resolve, Resolves root resolve) ∧
    ∀ resolve, Resolves root resolve → unfold root = resolve (.start root) := by
  refine ⟨acc_start root, fun trace c h => ?_, ⟨answer root, resolves_answer root⟩, ?_⟩
  · have hlen := h.length_opened
    exact ⟨h.nodup, h.subset_pointers, hlen, hlen ▸ h.length_le⟩
  · intro resolve hr
    exact Nested.start.bounded_eq hr (by simp)

/-! ### Answers, case by case -/

lemma Nested.induction {motive : Call → Prop}
    (step : ∀ trace c, Nested root trace c → (∀ d, Calls root c d → motive d) → motive c)
    (h : Nested root trace c) : motive c := by
  have hacc : Acc (fun d c => Calls root c d) c :=
    h.acc (n := (pointers root).length + 1) (by omega)
  induction hacc generalizing trace with
  | intro c _ ih =>
    refine step trace c h fun d hd => ?_
    rcases hd with he | ⟨pointer, ho⟩
    · exact ih d (Or.inl he) (h.enters he)
    · exact ih d (Or.inr ⟨pointer, ho⟩) (h.opens ho)

lemma rebuildItems_ok {items results : List Json} {index : Nat}
    (h : rebuildItems f location index items = .ok results) :
    results.length = items.length ∧ ∀ i x y, items[i]? = some x → results[i]? = some y →
      rebuild f (itemLocation location (index + i)) x = .ok y := by
  induction items generalizing index results with
  | nil =>
    cases h
    simp
  | cons item rest ih =>
    rw [rebuildItems] at h
    split at h
    · cases h
    · next z hz =>
      cases hrest : rebuildItems f location (index + 1) rest with
      | error e => rw [hrest] at h; cases h
      | ok more =>
        rw [hrest] at h
        cases h
        obtain ⟨hlen, hall⟩ := ih hrest
        refine ⟨by simp [hlen], fun i x y hx hy => ?_⟩
        cases i with
        | zero =>
          cases hx
          cases hy
          exact hz
        | succ i =>
          rw [Nat.add_comm i 1, ← Nat.add_assoc]
          exact hall i x y hx hy

lemma rebuildEntries_ok {entries results : List (String × Json)}
    (h : rebuildEntries f location entries = .ok results) :
    results.map Prod.fst = entries.map Prod.fst ∧
      ∀ (i : Nat) key x y, entries[i]? = some (key, x) → results[i]? = some (key, y) →
        rebuild f (entryLocation location key) x = .ok y := by
  induction entries generalizing results with
  | nil =>
    cases h
    simp
  | cons entry rest ih =>
    obtain ⟨k, v⟩ := entry
    rw [rebuildEntries] at h
    split at h
    · cases h
    · next z hz =>
      cases hrest : rebuildEntries f location rest with
      | error e => rw [hrest] at h; cases h
      | ok more =>
        rw [hrest] at h
        cases h
        obtain ⟨hkeys, hall⟩ := ih hrest
        refine ⟨by simp [hkeys], fun i key x y hx hy => ?_⟩
        cases i with
        | zero =>
          cases hx
          cases hy
          exact hz
        | succ i => exact hall i key x y hx hy

lemma answer_array {items : List Json} {result : Json}
    (h : answer root ⟨.array items, location, opened⟩ = .ok result) :
    ∃ results, result = .array results ∧ results.length = items.length ∧
      ∀ i x y, items[i]? = some x → results[i]? = some y →
        answer root ⟨x, itemLocation location i, opened⟩ = .ok y := by
  simp only [answer, bounded, rebuild] at h
  cases hr : rebuildItems (expand root (pointers root).length opened) location 0 items with
  | error e => rw [hr] at h; cases h
  | ok results =>
    rw [hr] at h
    cases h
    obtain ⟨hlen, hall⟩ := rebuildItems_ok hr
    refine ⟨results, rfl, hlen, fun i x y hx hy => ?_⟩
    have := hall i x y hx hy
    rwa [Nat.zero_add] at this

lemma answer_object {entries : List (String × Json)} {result : Json}
    (ht : textOf? entries = none)
    (h : answer root ⟨.object entries, location, opened⟩ = .ok result) :
    ∃ results, result = .object results ∧ results.map Prod.fst = entries.map Prod.fst ∧
      ∀ (i : Nat) key x y, entries[i]? = some (key, x) → results[i]? = some (key, y) →
        answer root ⟨x, entryLocation location key, opened⟩ = .ok y := by
  simp only [answer, bounded, rebuild, ht] at h
  cases hr : rebuildEntries (expand root (pointers root).length opened) location entries with
  | error e => rw [hr] at h; cases h
  | ok results =>
    rw [hr] at h
    cases h
    exact ⟨results, rfl, rebuildEntries_ok hr⟩

lemma Nested.answer_reference {entries : List (String × Json)} {text : String}
    (h : Nested root trace ⟨.object entries, location, opened⟩)
    (ht : textOf? entries = some text) :
    answer root ⟨.object entries, location, opened⟩ =
      follow root (answer root) opened (.object entries) text location := by
  rw [resolves_answer root trace _ h]
  simp only [rebuild, ht]

end ApiTypes.Reference
