import ApiTypes.Proofs.Reference.Kept

/-!
Every use of a shared definition unfolds in the same way.

A definition is unfolded once where it stands, with nothing open, and once for every reference to
it, with the location of the reference open. An open location only matters to the references that
enclose it. So if nothing that unfolding passes on its way from the definition refers back to the
use or to something around it, the extra location changes nothing: the two runs take the same
decision at every reference, also at those that close a cycle inside the definition.
-/

namespace ApiTypes.Reference

open Json Relation

/-! ### Pointers with every key written as one token -/

/-- The pointer to the node at these keys, as locations are written. -/
def pointerTo (keys : List String) : String := keys.foldl entryLocation ""

lemma pointerKeys?_foldl {location : String} {keys : List String}
    (h : pointerKeys? location = some keys) (more : List String) :
    pointerKeys? (more.foldl entryLocation location) = some (keys ++ more) := by
  induction more generalizing location keys with
  | nil => rw [List.append_nil]; exact h
  | cons key rest ih =>
    rw [List.foldl_cons, ih (pointerKeys?_entryLocation h key), List.append_assoc]
    rfl

@[simp] lemma pointerKeys?_pointerTo (keys : List String) :
    pointerKeys? (pointerTo keys) = some keys := by
  have hroot : pointerKeys? "" = some [] := rfl
  exact pointerKeys?_foldl hroot keys

lemma lookup?_pointerTo (json : Json) (keys : List String) :
    json.lookup? (pointerTo keys) = descend? keys json := by
  rw [lookup?, pointerKeys?_pointerTo, Option.bind_some]

lemma escapeToken_of_notMem {key : String} (htilde : '~' ∉ key.toList) (hslash : '/' ∉ key.toList) :
    escapeToken key = key := by
  have h : key.toList.flatMap escapeChar = key.toList := by
    generalize key.toList = cs at htilde hslash
    induction cs with
    | nil => rfl
    | cons c rest ih =>
      simp only [List.mem_cons, not_or] at htilde hslash
      rw [List.flatMap_cons, ih htilde.2 hslash.2]
      simp [escapeChar, Ne.symm htilde.1, Ne.symm hslash.1]
  rw [escapeToken, h, String.ofList_toList]

lemma itemLocation_eq (location : String) (index : Nat) :
    itemLocation location index = entryLocation location index.repr := by
  have htilde : '~' ∉ index.repr.toList := fun hm => absurd (isDigit_of_mem_repr hm) (by decide)
  rw [entryLocation, escapeToken_of_notMem htilde (slash_notMem_repr index)]
  rfl

variable {root : Json} {trace : List String} {location : String} {opened : List String}

/-! ### What stands at a place outside references -/

/-- The call on a part that no reference stands around is nested in the call on the whole, and its
answer stands where the part stood. -/
lemma Nested.answer_part {keys : List String} {value part result : Json}
    (h : Nested root trace ⟨value, location, opened⟩)
    (hr : answer root ⟨value, location, opened⟩ = .ok result)
    (hout : Outside value keys) (hpart : descend? keys value = some part) :
    ∃ partResult, descend? keys result = some partResult ∧
      Nested root trace ⟨part, keys.foldl entryLocation location, opened⟩ ∧
      answer root ⟨part, keys.foldl entryLocation location, opened⟩ = .ok partResult := by
  induction keys generalizing value location result with
  | nil =>
    cases hpart
    exact ⟨result, rfl, h, hr⟩
  | cons key rest ih =>
    obtain ⟨child, hchild, hrest⟩ := Option.bind_eq_some_iff.mp hpart
    -- one key further: the child of the result is the answer to the call on the child
    obtain ⟨childResult, hfound, hnested, hanswer⟩ : ∃ y, child? key result = some y ∧
        Nested root trace ⟨child, entryLocation location key, opened⟩ ∧
        answer root ⟨child, entryLocation location key, opened⟩ = .ok y := by
      cases value with
      | array items =>
        obtain ⟨i, hi, hx⟩ := Option.bind_eq_some_iff.mp hchild
        obtain ⟨results, rfl, hlen, hall⟩ := answer_array hr
        obtain ⟨y, hy⟩ := List.exists_getElem?_of_length_eq hlen.symm hx
        obtain rfl := eq_repr_of_tokenIndex? hi
        rw [← itemLocation_eq]
        exact ⟨y, child?_item hy, h.enters (.item hx), hall i child y hx hy⟩
      | object entries =>
        have ht : textOf? entries = none := (outside_cons.mp hout).1 entries rfl
        obtain ⟨results, rfl, hkeys, hall⟩ := answer_object ht hr
        obtain ⟨i, y, hyi, hx, hy⟩ := lookup_of_keys_eq hkeys.symm hchild
        exact ⟨y, hy, h.enters (.entry ht (List.mem_of_getElem? hx)), hall i key child y hx hyi⟩
      | _ => cases hchild
    obtain ⟨partResult, hat, hn, ha⟩ := ih hnested hanswer (hout.tail hchild) hrest
    exact ⟨partResult, by rw [descend?, hfound]; exact hat, hn, ha⟩

/-- Unfolding puts the answer for a part that no reference stands around where the part stood. -/
lemma answer_of_outside {keys : List String} {part result : Json} (h : unfold root = .ok result)
    (hout : Outside root keys) (hpart : descend? keys root = some part) :
    ∃ partResult, descend? keys result = some partResult ∧
      Nested root [] ⟨part, pointerTo keys, []⟩ ∧
      answer root ⟨part, pointerTo keys, []⟩ = .ok partResult :=
  Nested.start.answer_part h hout hpart

/-! ### What unfolding passes -/

/-- On the way from the target there is a reference to the use or to something around it. -/
def LeadsBack (root : Json) (target use : List String) : Prop :=
  ∃ keys again, ReflTransGen (Passes root) target keys ∧ RefersTo root keys again ∧ again <+: use

lemma passes_append {keys below : List String} {node : Json} (hout : Outside root (keys ++ below))
    (h : descend? (keys ++ below) root = some node) :
    ReflTransGen (Passes root) keys (keys ++ below) := by
  induction below using List.reverseRecOn generalizing node with
  | nil => rw [List.append_nil]
  | append_singleton below key ih =>
    rw [← List.append_assoc, descend?_append] at h
    obtain ⟨above, habove, hchild⟩ := Option.bind_eq_some_iff.mp h
    obtain ⟨part, hpart, -⟩ := Option.bind_eq_some_iff.mp hchild
    have houter : Outside root (keys ++ below) := by
      rintro outer k inner heq
      exact hout outer k (inner ++ [key]) (by rw [← List.append_assoc, heq]; simp)
    rw [← List.append_assoc]
    refine (ih houter habove).tail (.inside habove (fun entries hentries => ?_) hpart)
    exact hout (keys ++ below) key [] (by simp) entries (hentries ▸ habove)

/-- A reference whose pointer encloses a use leads back to it. -/
lemma leadsBack_of_encloses {keys target use : List String} {entries : List (String × Json)}
    {text pointer : String} {used : Json} (huse : descend? use root = some used)
    (hpass : ReflTransGen (Passes root) target keys)
    (hat : descend? keys root = some (.object entries)) (ht : textOf? entries = some text)
    (hp : pointer? text = some pointer) (henc : encloses pointer (pointerTo use) = true) :
    LeadsBack root target use := by
  obtain ⟨around, below, haround, rfl⟩ :=
    pointerKeys?_of_encloses (pointerKeys?_pointerTo use) henc
  rw [descend?_append] at huse
  obtain ⟨node, hnode, -⟩ := Option.bind_eq_some_iff.mp huse
  exact ⟨keys, around, hpass, ⟨entries, text, pointer, node, hat, ht, hp, haround, hnode⟩,
    List.prefix_append around below⟩

/-! ### One more open location -/

/-- The call stands at these keys, which unfolding passes on the way from the target. -/
structure PassedAt (root : Json) (target : List String) (c : Call) (keys : List String) : Prop where
  location : pointerKeys? c.location = some keys
  value : descend? keys root = some c.value
  passed : ReflTransGen (Passes root) target keys

lemma PassedAt.item {target keys : List String} {items : List Json} {i : Nat} {x : Json}
    (h : PassedAt root target ⟨.array items, location, opened⟩ keys) (hx : items[i]? = some x) :
    PassedAt root target ⟨x, itemLocation location i, opened⟩ (keys ++ [i.repr]) where
  location := pointerKeys?_itemLocation h.location i
  value := descend?_push h.value (child?_item hx)
  passed := by
    refine h.passed.tail (.inside h.value ?_ (child?_item hx))
    rintro _ ⟨⟩

lemma PassedAt.entry {target keys : List String} {entries : List (String × Json)} {key : String}
    {x : Json} (hd : root.Distinct) (ht : textOf? entries = none)
    (h : PassedAt root target ⟨.object entries, location, opened⟩ keys) (hx : (key, x) ∈ entries) :
    PassedAt root target ⟨x, entryLocation location key, opened⟩ (keys ++ [key]) := by
  have hchild : child? key (.object entries) = some x :=
    Keyed.lookup_of_mem (hd.at_keys h.value) hx
  refine ⟨pointerKeys?_entryLocation h.location key, descend?_push h.value hchild, ?_⟩
  refine h.passed.tail (.inside h.value (fun es heq => ?_) hchild)
  cases heq
  exact ht

lemma PassedAt.opens {target keys : List String} {c d : Call} {pointer : String}
    (h : PassedAt root target c keys) (ho : Opens root pointer c d) :
    ∃ next, PassedAt root target d next := by
  obtain ⟨ht, hp, -, hl⟩ := ho
  obtain ⟨next, hnext, hnode⟩ := Option.bind_eq_some_iff.mp hl
  exact ⟨next, hnext, hnode,
    h.passed.tail (.follows ⟨_, _, pointer, _, h.value, ht, hp, hnext, hnode⟩)⟩

/-- The location of a use at the far end of the stack does not matter to calls on the way from a
target that does not lead back to the use. -/
lemma answer_concat {target use : List String} {used : Json} {c : Call}
    (hd : root.Distinct) (huse : descend? use root = some used)
    (hback : ¬ LeadsBack root target use) (h : Nested root trace c) :
    ∀ opened trace' keys, c.opened = opened ++ [pointerTo use] →
      Nested root trace' ⟨c.value, c.location, opened⟩ → PassedAt root target c keys →
      answer root c = answer root ⟨c.value, c.location, opened⟩ := by
  -- the two runs go in step, so the induction is on the calls of the first
  refine h.induction (motive := fun c => ∀ opened trace' keys,
    c.opened = opened ++ [pointerTo use] → Nested root trace' ⟨c.value, c.location, opened⟩ →
    PassedAt root target c keys → answer root c = answer root ⟨c.value, c.location, opened⟩) ?_
  rintro trace ⟨value, location, stack⟩ h ih opened trace' keys rfl h' hat
  simp only at h'
  cases value with
  | array items =>
    simp only [answer, bounded, rebuild]
    refine congrArg (Except.map Json.array) (rebuildItems_congr fun i x hx => ?_)
    rw [Nat.zero_add]
    exact ih _ (Or.inl (.item hx)) opened trace' _ rfl (h'.enters (.item hx)) (hat.item hx)
  | object entries =>
    cases ht : textOf? entries with
    | none =>
      simp only [answer, bounded, rebuild, ht]
      refine congrArg (Except.map Json.object) (rebuildEntries_congr fun e he => ?_)
      exact ih _ (Or.inl (.entry ht he)) opened trace' _ rfl (h'.enters (.entry ht he))
        (hat.entry hd ht he)
    | some text =>
      rw [h.answer_reference ht, h'.answer_reference ht]
      unfold follow
      split
      · rfl
      · next pointer hp =>
        have hextra : encloses pointer (pointerTo use) = false := by
          rw [← Bool.not_eq_true]
          exact fun henc => hback (leadsBack_of_encloses huse hat.passed hat.value ht hp henc)
        have hany : (location :: (opened ++ [pointerTo use])).any (encloses pointer) =
            (location :: opened).any (encloses pointer) := by
          simp only [List.any_cons, List.any_append, List.any_nil, hextra, Bool.or_false]
        rw [hany]
        split
        · rfl
        · next hfree =>
          rw [Bool.not_eq_true] at hfree
          split
          · rfl
          · next node hnode =>
            have ho : Opens root pointer ⟨.object entries, location, opened ++ [pointerTo use]⟩
                ⟨node, pointer, location :: (opened ++ [pointerTo use])⟩ :=
              .mk ht hp (hany.trans hfree) hnode
            obtain ⟨next, hnext⟩ := hat.opens ho
            exact ih _ (Or.inr ⟨pointer, ho⟩) (location :: opened) _ next rfl
              (h'.opens (.mk ht hp hfree hnode)) hnext
  | _ => rfl

/-- **Every use of a definition unfolds in the same way.** Where an internal reference and its
target both stand outside other references, the pointer is written as locations are, and nothing on
the way from the target refers back to the reference or to something around it, unfolding puts the
same value at both places. -/
theorem lookup?_use_eq_target {root result : Json} {use target : List String}
    {entries : List (String × Json)} {text : String} (hd : root.Distinct)
    (h : unfold root = .ok result) (hat : descend? use root = some (.object entries))
    (ht : textOf? entries = some text) (hp : pointer? text = some (pointerTo target))
    (huse : Outside root use) (htarget : Outside root target)
    (hback : ¬ LeadsBack root target use) :
    ∃ value, result.lookup? (pointerTo use) = some value ∧
      result.lookup? (pointerTo target) = some value := by
  obtain ⟨value, hvalue, hnested, hanswer⟩ := answer_of_outside h huse hat
  rw [hnested.answer_reference ht] at hanswer
  rcases follow_ok ht hanswer with ⟨hext, -⟩ | ⟨pointer, hpointer, ⟨henc, -⟩ | ⟨d, ho, hd'⟩⟩
  · rw [hp] at hext
    cases hext
  · obtain rfl : pointerTo target = pointer := Option.some.inj (hp.symm.trans hpointer)
    simp only [List.any_cons, List.any_nil, Bool.or_false] at henc
    obtain ⟨around, below, haround, rfl⟩ :=
      pointerKeys?_of_encloses (pointerKeys?_pointerTo use) henc
    rw [pointerKeys?_pointerTo, Option.some.injEq] at haround
    subst haround
    exact absurd (leadsBack_of_encloses hat (passes_append huse hat) hat ht hp henc) hback
  · obtain rfl : pointerTo target = pointer := Option.some.inj (hp.symm.trans hpointer)
    have hopened := hnested.opens ho
    cases ho with
    | @mk _ _ _ _ node _ _ _ hnode =>
      rw [lookup?_pointerTo] at hnode
      obtain ⟨value', hvalue', hnested', hanswer'⟩ := answer_of_outside h htarget hnode
      have hsame := answer_concat hd hat hback hopened [] [] target rfl hnested'
        ⟨pointerKeys?_pointerTo target, hnode, .refl⟩
      obtain rfl : value = value' := by
        rw [hd', hanswer'] at hsame
        exact Except.ok.inj hsame
      exact ⟨value, by rw [lookup?_pointerTo, hvalue], by rw [lookup?_pointerTo, hvalue']⟩

/-- A list with a use of a definition that refers to itself. -/
def listRoot : Json :=
  .object [("uses", .array [.object [("$ref", .string "#/a~1b")]]),
    ("a/b", .object [("next", .object [("$ref", .string "#/a~1b")])])]

def listResult : Json :=
  .object [("uses", .array [.object [("next", .object [("$ref", .string "#/a~1b")])]]),
    ("a/b", .object [("next", .object [("$ref", .string "#/a~1b")])])]

lemma not_leadsBack_listRoot : ¬ LeadsBack listRoot ["a/b"] ["uses", "0"] := by
  rintro ⟨keys, again, -, ⟨entries, text, pointer, node, hat, ht, hp, hagain, -⟩, hprefix⟩
  have htexts : texts listRoot = ["#/a~1b", "#/a~1b"] := rfl
  have hmem : text ∈ texts listRoot := texts_subset_of_descend hat (by simp [texts, ht])
  rw [htexts, List.mem_cons, List.mem_singleton, or_self] at hmem
  subst hmem
  cases hp
  cases hagain
  exact absurd hprefix (by decide)

theorem listRoot_use :
    listRoot.Distinct ∧ unfold listRoot = .ok listResult ∧
    pointer? "#/a~1b" = some (pointerTo ["a/b"]) ∧
    Outside listRoot ["uses", "0"] ∧ Outside listRoot ["a/b"] ∧
    ¬ LeadsBack listRoot ["a/b"] ["uses", "0"] ∧
    ∃ value, listResult.lookup? "/uses/0" = some value ∧
      listResult.lookup? "/a~1b" = some value := by
  have hd : listRoot.Distinct := by
    simp [listRoot, Distinct, EveryObject, EveryObjectOfItems, EveryObjectOfEntries]
  have huse : Outside listRoot ["uses", "0"] := by
    refine outside_cons.mpr ⟨?_, ?_⟩
    · rintro _ ⟨⟩
      rfl
    · rintro _ ⟨⟩
      refine outside_singleton.mpr ?_
      rintro _ ⟨⟩
  have htarget : Outside listRoot ["a/b"] := by
    refine outside_singleton.mpr ?_
    rintro _ ⟨⟩
    rfl
  have hunfold : unfold listRoot = .ok listResult := by decide +kernel
  have hat : descend? ["uses", "0"] listRoot =
      some (.object [("$ref", .string "#/a~1b")]) := rfl
  have hpointer : pointer? "#/a~1b" = some (pointerTo ["a/b"]) := by decide
  have hplace : pointerTo ["uses", "0"] = "/uses/0" := by decide
  have hplace' : pointerTo ["a/b"] = "/a~1b" := by decide
  have hsame := lookup?_use_eq_target hd hunfold hat rfl hpointer huse htarget
    not_leadsBack_listRoot
  rw [hplace, hplace'] at hsame
  exact ⟨hd, hunfold, hpointer, huse, htarget, not_leadsBack_listRoot, hsame⟩

end ApiTypes.Reference
