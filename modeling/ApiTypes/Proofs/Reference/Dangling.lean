import ApiTypes.Description.Fault
import ApiTypes.Proofs.Reference.Shared

/-!
When unfolding fails.

An internal reference dangles if its pointer names nothing. Unfolding asks first whether the pointer
encloses an open location, and looks the pointer up only then. Every open location is a pointer to a
node, whatever references led there, and what encloses such a location names a node, too. So a
dangling reference passes the first question and fails at the second: a call on one fails, the
failure of a call is the failure of the whole, and nothing else fails.
-/

namespace ApiTypes.Reference

open Json

/-- The object is an internal reference with this text, and its pointer names nothing. -/
def Dangles (root : Json) (entries : List (String × Json)) (text : String) : Prop :=
  textOf? entries = some text ∧
    ∃ pointer, pointer? text = some pointer ∧ root.lookup? pointer = none

variable {root : Json} {trace keys : List String} {c : Call} {location text pointer : String}
  {opened : List String} {entries : List (String × Json)}

/-! ### A dangling reference is not taken for a circular one -/

lemma Nested.exists_placed (hd : root.Distinct) (h : Nested root trace c) :
    ∃ keys, Placed root c keys := by
  induction h with
  | start => exact ⟨[], .start root⟩
  | enters _ he ih =>
    obtain ⟨keys, hp⟩ := ih
    cases he with
    | item hx => exact ⟨_, hp.item hx⟩
    | entry _ hx => exact ⟨_, hp.entry hd hx⟩
  | opens _ ho ih =>
    obtain ⟨keys, hp⟩ := ih
    obtain ⟨target, -, htarget⟩ := hp.opens ho
    exact ⟨target, htarget⟩

/-- The pointer of a dangling reference encloses no open location. -/
lemma Placed.encloses_eq_false (h : Placed root ⟨.object entries, location, opened⟩ keys)
    (ht : textOf? entries = some text) (hp : pointer? text = some pointer)
    (hl : root.lookup? pointer = none) : (location :: opened).any (encloses pointer) = false := by
  rw [← Bool.not_eq_true]
  intro henc
  -- otherwise the reference would be on a cycle, and so have a target
  obtain ⟨target, ⟨entries', text', pointer', node, hat, ht', hp', hkeys, hnode⟩, -⟩ :=
    h.onCycle ht hp henc
  obtain rfl : entries = entries' := by
    have := h.value.symm.trans hat
    cases this
    rfl
  obtain rfl : text = text' := Option.some.inj (ht.symm.trans ht')
  obtain rfl : pointer = pointer' := Option.some.inj (hp.symm.trans hp')
  rw [lookup?, hkeys, Option.bind_some, hnode] at hl
  cases hl

lemma Nested.answer_of_dangles (hd : root.Distinct)
    (h : Nested root trace ⟨.object entries, location, opened⟩)
    (hdangles : Dangles root entries text) :
    answer root ⟨.object entries, location, opened⟩ = .error ⟨text⟩ := by
  obtain ⟨ht, pointer, hp, hl⟩ := hdangles
  obtain ⟨keys, hplaced⟩ := h.exists_placed hd
  have hfree := hplaced.encloses_eq_false ht hp hl
  rw [h.answer_reference ht]
  simp only [follow, hp, hfree, hl]
  rfl

/-! ### The failure of a call is the failure of the whole -/

/-- Where unfolding succeeds, every nested call does. -/
lemma Nested.exists_ok {result : Json} (h : Nested root trace c) (hok : unfold root = .ok result) :
    ∃ y, answer root c = .ok y := by
  induction h with
  | start => exact ⟨result, hok⟩
  | enters hn he ih =>
    obtain ⟨y, hy⟩ := ih
    cases he with
    | item hx =>
      obtain ⟨results, -, hlen, hall⟩ := answer_array hy
      obtain ⟨z, hz⟩ := List.exists_getElem?_of_length_eq hlen.symm hx
      exact ⟨z, hall _ _ z hx hz⟩
    | @entry entries location opened key x ht hx =>
      obtain ⟨results, -, hkeys, hall⟩ := answer_object ht hy
      obtain ⟨i, hi⟩ := List.mem_iff_getElem?.mp hx
      obtain ⟨z, hz⟩ := exists_entry_of_keys_eq hkeys.symm hi
      exact ⟨z, hall i key x z hi hz⟩
  | opens hn ho ih =>
    obtain ⟨y, hy⟩ := ih
    cases ho with
    | @mk entries location text opened target ht hp hfree hl =>
      rw [hn.answer_reference ht] at hy
      simp only [follow, hp, hfree, hl] at hy
      exact ⟨y, hy⟩

/-! ### Nothing else fails -/

section

variable {f : Json → String → String → Except Dangling Json} {e : Dangling}

lemma rebuildItems_error {items : List Json} {index : Nat}
    (h : rebuildItems f location index items = .error e) :
    ∃ (i : Nat) (x : Json), items[i]? = some x ∧
      rebuild f (itemLocation location (index + i)) x = .error e := by
  induction items generalizing index with
  | nil => cases h
  | cons item rest ih =>
    rw [rebuildItems] at h
    split at h
    · next e' he =>
      cases h
      exact ⟨0, item, rfl, he⟩
    · cases hrest : rebuildItems f location (index + 1) rest with
      | ok more =>
        rw [hrest] at h
        cases h
      | error e' =>
        rw [hrest] at h
        cases h
        obtain ⟨i, x, hx, hfail⟩ := ih hrest
        rw [Nat.add_assoc, Nat.add_comm 1 i] at hfail
        exact ⟨i + 1, x, hx, hfail⟩

lemma rebuildEntries_error (h : rebuildEntries f location entries = .error e) :
    ∃ entry ∈ entries, rebuild f (entryLocation location entry.1) entry.2 = .error e := by
  induction entries with
  | nil => cases h
  | cons entry rest ih =>
    rw [rebuildEntries] at h
    split at h
    · next e' he =>
      cases h
      exact ⟨entry, List.mem_cons_self, he⟩
    · cases hrest : rebuildEntries f location rest with
      | ok more =>
        rw [hrest] at h
        cases h
      | error e' =>
        rw [hrest] at h
        cases h
        obtain ⟨entry', hentry, hfail⟩ := ih hrest
        exact ⟨entry', List.mem_cons_of_mem _ hentry, hfail⟩

end

/-- A call that fails has come upon a dangling reference, which the failure names. -/
lemma Nested.exists_dangles (h : Nested root trace c) :
    ∀ e, answer root c = .error e → ∃ trace location opened entries,
      Nested root trace ⟨.object entries, location, opened⟩ ∧ Dangles root entries e.text := by
  refine h.induction (motive := fun c => ∀ e, answer root c = .error e →
    ∃ trace location opened entries, Nested root trace ⟨.object entries, location, opened⟩ ∧
      Dangles root entries e.text) ?_
  rintro trace ⟨value, location, opened⟩ h ih e he
  cases value with
  | array items =>
    simp only [answer, bounded, rebuild] at he
    cases hitems : rebuildItems (expand root (pointers root).length opened) location 0 items with
    | ok results => rw [hitems] at he; cases he
    | error e' =>
      rw [hitems] at he
      cases he
      obtain ⟨i, x, hx, hfail⟩ := rebuildItems_error hitems
      rw [Nat.zero_add] at hfail
      exact ih _ (Or.inl (.item hx)) e hfail
  | object entries =>
    cases ht : textOf? entries with
    | none =>
      simp only [answer, bounded, rebuild, ht] at he
      cases hentries : rebuildEntries (expand root (pointers root).length opened) location
          entries with
      | ok results => rw [hentries] at he; cases he
      | error e' =>
        rw [hentries] at he
        cases he
        obtain ⟨entry, hentry, hfail⟩ := rebuildEntries_error hentries
        exact ih _ (Or.inl (.entry ht hentry)) e hfail
    | some text =>
      rw [h.answer_reference ht] at he
      unfold follow at he
      split at he
      · cases he
      · next pointer hp =>
        split at he
        · cases he
        · next hfree =>
          rw [Bool.not_eq_true] at hfree
          split at he
          · next hl =>
            cases he
            exact ⟨trace, location, opened, entries, h, ht, pointer, hp, hl⟩
          · next target hl => exact ih _ (Or.inr ⟨pointer, .mk ht hp hfree hl⟩) e he
  | _ => cases he

/-- **Unfolding fails on dangling references only, and on all that it comes upon.** A failure quotes
an internal reference of the description whose pointer names nothing. Where such a reference stands
beneath no other, unfolding fails. And wherever unfolding comes upon one, whatever references led
there, its pointer encloses no open location, so it is not kept as a circular one: the call on it
fails and so does the whole. -/
theorem unfold_fails_on_dangling (root : Json) (hd : root.Distinct) :
    (∀ e, unfold root = .error e →
      (∃ keys entries, descend? keys root = some (.object entries) ∧ Dangles root entries e.text) ∧
      (Fault.dangling e).message = "Error resolving $ref pointer \"" ++ e.text ++ "\"") ∧
    (∀ keys entries text, descend? keys root = some (.object entries) → Outside root keys →
      Dangles root entries text → ∃ e, unfold root = .error e) ∧
    ∀ trace location opened entries text,
      Nested root trace ⟨.object entries, location, opened⟩ → Dangles root entries text →
      (∀ pointer ∈ pointer? text, (location :: opened).any (encloses pointer) = false) ∧
      answer root ⟨.object entries, location, opened⟩ = .error ⟨text⟩ ∧
      ∃ e, unfold root = .error e := by
  -- the third part first: the second is its special case for calls on nodes of the description
  have hcalls : ∀ trace location opened entries text,
      Nested root trace ⟨.object entries, location, opened⟩ → Dangles root entries text →
      answer root ⟨.object entries, location, opened⟩ = .error ⟨text⟩ ∧
      ∃ e, unfold root = .error e := by
    intro trace location opened entries text h hdangles
    have hfail := h.answer_of_dangles hd hdangles
    refine ⟨hfail, ?_⟩
    cases hunfold : unfold root with
    | error e => exact ⟨e, rfl⟩
    | ok result =>
      obtain ⟨y, hy⟩ := h.exists_ok hunfold
      rw [hfail] at hy
      cases hy
  refine ⟨fun e he => ⟨?_, rfl⟩, fun keys entries text hat hout hdangles => ?_,
    fun trace location opened entries text h hdangles => ⟨fun pointer hp => ?_,
      hcalls trace location opened entries text h hdangles⟩⟩
  · obtain ⟨trace, location, opened, entries, hn, hdangles⟩ := Nested.start.exists_dangles e he
    obtain ⟨keys, hplaced⟩ := hn.exists_placed hd
    exact ⟨keys, entries, hplaced.value, hdangles⟩
  · cases hunfold : unfold root with
    | error e => exact ⟨e, rfl⟩
    | ok result =>
      obtain ⟨-, -, hnested, -⟩ := answer_of_outside hunfold hout hat
      rw [← hunfold]
      exact (hcalls _ _ _ entries text hnested hdangles).2
  · obtain ⟨ht, pointer', hp', hl⟩ := hdangles
    obtain rfl : pointer' = pointer := Option.some.inj (hp'.symm.trans hp)
    obtain ⟨keys, hplaced⟩ := h.exists_placed hd
    exact hplaced.encloses_eq_false ht hp' hl

/-- A reference to a list with a reference in it that goes one step too far. -/
def danglingRoot : Json :=
  .object [("a", .object [("$ref", .string "#/b")]),
    ("b", .array [.object [("$ref", .string "#/b/0/x")]])]

theorem danglingRoot_fails :
    danglingRoot.Distinct ∧ unfold danglingRoot = .error ⟨"#/b/0/x"⟩ ∧
    (∃ keys entries, descend? keys danglingRoot = some (.object entries) ∧
      Dangles danglingRoot entries "#/b/0/x") ∧
    (descend? ["b", "0"] danglingRoot = some (.object [("$ref", .string "#/b/0/x")]) ∧
      Outside danglingRoot ["b", "0"] ∧ ∃ e, unfold danglingRoot = .error e) ∧
    Nested danglingRoot ["/b"] ⟨.object [("$ref", .string "#/b/0/x")], "/b/0", ["/a"]⟩ ∧
    answer danglingRoot ⟨.object [("$ref", .string "#/b/0/x")], "/b/0", ["/a"]⟩ =
      .error ⟨"#/b/0/x"⟩ := by
  have hd : danglingRoot.Distinct := by
    simp [danglingRoot, Distinct, EveryObject, EveryObjectOfItems, EveryObjectOfEntries]
  have hfails : unfold danglingRoot = .error ⟨"#/b/0/x"⟩ := by decide +kernel
  have hdangles : Dangles danglingRoot [("$ref", .string "#/b/0/x")] "#/b/0/x" :=
    ⟨rfl, "/b/0/x", rfl, rfl⟩
  have hout : Outside danglingRoot ["b", "0"] := by
    refine outside_cons.mpr ⟨?_, ?_⟩
    · rintro _ ⟨⟩
      rfl
    · rintro _ ⟨⟩
      refine outside_singleton.mpr ?_
      rintro _ ⟨⟩
  have hnested : Nested danglingRoot ["/b"]
      ⟨.object [("$ref", .string "#/b/0/x")], "/b/0", ["/a"]⟩ := by
    have hplace : entryLocation "" "a" = "/a" := by decide
    have hitem : itemLocation "/b" 0 = "/b/0" := by decide
    have hreference : Nested danglingRoot []
        ⟨.object [("$ref", .string "#/b")], entryLocation "" "a", []⟩ :=
      Nested.start.enters (.entry rfl List.mem_cons_self)
    rw [hplace] at hreference
    have hlist := hreference.opens (.mk rfl rfl (by decide) rfl)
    rw [← hitem]
    exact hlist.enters (.item rfl)
  obtain ⟨herror, houtside, hcalls⟩ := unfold_fails_on_dangling danglingRoot hd
  exact ⟨hd, hfails, (herror _ hfails).1, ⟨rfl, hout, houtside _ _ _ rfl hout hdangles⟩, hnested,
    (hcalls _ _ _ _ _ hnested hdangles).2.1⟩

end ApiTypes.Reference
