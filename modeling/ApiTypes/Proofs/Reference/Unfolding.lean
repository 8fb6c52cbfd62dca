import ApiTypes.Proofs.List
import ApiTypes.Proofs.Reference.Nested
import Mathlib.Data.List.Induction

/-!
What unfolding gives: an unfolding of the description.

The nodes of a description are named by the keys that lead to them. From a node steps lead to its
parts and, where it is an internal reference, to its target. An unfolding keeps every value but the
references as it is; a reference is replaced by an unfolding of its target, or stays as it is
because it is external or because steps lead from its target back to it.

That a reference is left in place is decided by comparing texts: its pointer with its location and
with the locations of the references being unfolded around it. The invariant is that these locations
are pointers to nodes from which steps lead to the node at hand, so what encloses one of them is
around a node on the way to the reference.

Unfolding does not enter references. So an internal reference can be left without any cycle: inside
an external one, or where the unfolding of a `$ref` entry is a text, which makes a new reference.
-/

namespace ApiTypes.Reference

open Json Relation

/-! ### The graph of a description -/

/-- The node at these keys is an internal reference whose pointer has the keys of a target. -/
def RefersTo (root : Json) (keys target : List String) : Prop :=
  ∃ entries text pointer node, descend? keys root = some (.object entries) ∧
    textOf? entries = some text ∧ pointer? text = some pointer ∧
    pointerKeys? pointer = some target ∧ descend? target root = some node

/-- From a node to one of its parts, or from a reference to its target. -/
inductive Step (root : Json) : List String → List String → Prop where
  | inside {keys : List String} {key : String} {node part : Json} :
      descend? keys root = some node → child? key node = some part →
      Step root keys (keys ++ [key])
  | follows {keys target : List String} : RefersTo root keys target → Step root keys target

abbrev Reaches (root : Json) : List String → List String → Prop := ReflTransGen (Step root)

/-- The steps that unfolding takes: from a node that is no reference to one of its parts, or from a reference to its target. -/
inductive Passes (root : Json) : List String → List String → Prop where
  | inside {keys : List String} {key : String} {node part : Json} :
      descend? keys root = some node →
      (∀ entries, node = .object entries → textOf? entries = none) →
      child? key node = some part → Passes root keys (keys ++ [key])
  | follows {keys target : List String} : RefersTo root keys target → Passes root keys target

/-- The target of the reference at these keys leads back to it. -/
def OnCycle (root : Json) (keys : List String) : Prop :=
  ∃ target, RefersTo root keys target ∧ Reaches root target keys

def Acyclic (root : Json) : Prop := ∀ keys, ¬ TransGen (Step root) keys keys

variable {root : Json} {keys : List String}

lemma Acyclic.not_onCycle (h : Acyclic root) : ¬ OnCycle root keys := by
  rintro ⟨target, href, hreach⟩
  exact h keys (TransGen.head' (.follows href) hreach)

/-- Steps lead from a node to everything below it. -/
lemma reaches_append {below : List String} {node : Json}
    (h : descend? (keys ++ below) root = some node) : Reaches root keys (keys ++ below) := by
  induction below using List.reverseRecOn generalizing node with
  | nil => rw [List.append_nil]
  | append_singleton below key ih =>
    rw [← List.append_assoc, descend?_append] at h
    obtain ⟨above, habove, hchild⟩ := Option.bind_eq_some_iff.mp h
    obtain ⟨part, hpart, -⟩ := Option.bind_eq_some_iff.mp hchild
    rw [← List.append_assoc]
    exact (ih habove).tail (.inside habove hpart)

/-- Every internal reference names a node without parts. -/
def LeafTargets (root : Json) : Prop :=
  ∀ text ∈ texts root, ∀ pointer, pointer? text = some pointer →
    ∀ node, root.lookup? pointer = some node → ∀ key, child? key node = none

lemma LeafTargets.not_step {target next : List String} (hleaf : LeafTargets root)
    (h : RefersTo root keys target) : ¬ Step root target next := by
  obtain ⟨entries, text, pointer, node, hat, ht, hp, htarget, hnode⟩ := h
  have hmem : text ∈ texts root := texts_subset_of_descend hat (by simp [texts, ht])
  have hno := hleaf text hmem pointer hp node (by simp [lookup?, htarget, hnode])
  intro hstep
  cases hstep with
  | inside hat' hpart =>
    rw [hnode] at hat'
    cases hat'
    rw [hno] at hpart
    cases hpart
  | follows href =>
    obtain ⟨entries', text', _, _, hat', ht', _⟩ := href
    rw [hnode] at hat'
    cases hat'
    obtain ⟨value, hvalue, -⟩ := Option.bind_eq_some_iff.mp ht'
    have hnone : entries'.lookup "$ref" = none := hno "$ref"
    rw [hvalue] at hnone
    cases hnone

/-- Steps either lead deeper, or they have followed a reference and end. -/
lemma LeafTargets.acyclic (hleaf : LeafTargets root) : Acyclic root := by
  have hgrows : ∀ {a b}, TransGen (Step root) a b →
      a.length < b.length ∨ ∀ next, ¬ Step root b next := by
    intro a b h
    induction h with
    | single hstep =>
      cases hstep with
      | inside _ _ => exact Or.inl (by simp)
      | follows href => exact Or.inr fun next => hleaf.not_step href
    | @tail b c _ hstep ih =>
      have hlt := ih.resolve_right fun hno => hno c hstep
      cases hstep with
      | inside _ _ => exact Or.inl (by simp only [List.length_append, List.length_singleton]; omega)
      | follows href => exact Or.inr fun next => hleaf.not_step href
  intro keys h
  obtain ⟨next, hstep, -⟩ := TransGen.head'_iff.mp h
  rcases hgrows h with hlt | hno
  · omega
  · exact hno next hstep

/-- A rank that parts do not raise and references lower leaves no cycle. -/
lemma acyclic_of_rank (rank : List String → Nat)
    (hinside : ∀ keys key, rank (keys ++ [key]) ≤ rank keys)
    (hfollows : ∀ keys target, RefersTo root keys target → rank target < rank keys) :
    Acyclic root := by
  -- the rank falls, or only parts were entered and the keys have grown
  have hfalls : ∀ {a b}, TransGen (Step root) a b →
      rank b < rank a ∨ rank b ≤ rank a ∧ a.length < b.length := by
    intro a b h
    induction h with
    | single hstep =>
      cases hstep with
      | inside _ _ => exact Or.inr ⟨hinside _ _, by simp⟩
      | follows href => exact Or.inl (hfollows _ _ href)
    | @tail b c _ hstep ih =>
      cases hstep with
      | @inside key _ _ _ _ =>
        have hle := hinside b key
        rw [List.length_append, List.length_singleton]
        omega
      | follows href =>
        have hlt := hfollows _ _ href
        omega
  intro keys h
  have := hfalls h
  omega

/-- Every internal reference in an entry names something in a later entry. -/
def PointsForward (entries : List (String × Json)) : Prop :=
  ∀ e ∈ entries, ∀ text ∈ texts e.2, ∀ pointer ∈ pointer? text,
    ∃ key ∈ (pointerKeys? pointer).bind List.head?,
      (entries.map Prod.fst).idxOf e.1 < (entries.map Prod.fst).idxOf key

instance (entries : List (String × Json)) : Decidable (PointsForward entries) :=
  inferInstanceAs (Decidable (∀ e ∈ entries, _))

lemma PointsForward.acyclic {entries : List (String × Json)} (ht : textOf? entries = none)
    (h : PointsForward entries) : Acyclic (.object entries) := by
  -- the rank of a node is that of its entry: the number of entries from there on
  refine acyclic_of_rank (fun keys =>
    entries.length - (keys.head?.map (entries.map Prod.fst).idxOf).getD 0)
    (fun keys key => ?_) fun keys target href => ?_
  · cases keys with
    | nil => exact Nat.sub_le _ _
    | cons first rest => exact Nat.le_refl _
  · obtain ⟨inner, text, pointer, node, hat, htext, hp, htarget, -⟩ := href
    cases keys with
    | nil =>
      cases hat
      rw [ht] at htext
      cases htext
    | cons first rest =>
      obtain ⟨child, hchild, hrest⟩ := Option.bind_eq_some_iff.mp hat
      have hentry : (first, child) ∈ entries := Keyed.mem_of_lookup hchild
      have hmem : text ∈ texts child := texts_subset_of_descend hrest (by simp [texts, htext])
      obtain ⟨key, hkey, hlater⟩ := h _ hentry text hmem pointer hp
      rw [htarget, Option.bind_some, Option.mem_def] at hkey
      obtain ⟨below, rfl⟩ := List.head?_eq_some_iff.mp hkey
      have hfound : (entries.map Prod.fst).idxOf first < entries.length := by
        rw [← List.length_map (f := Prod.fst), List.idxOf_lt_length_iff]
        exact List.mem_map_of_mem hentry
      simp only [List.head?_cons, Option.map_some, Option.getD_some] at hlater ⊢
      omega

/-! ### Calls in their place -/

/-- The value of the call stands at the keys of its location, and steps lead there from every open
location. -/
structure Placed (root : Json) (c : Call) (keys : List String) : Prop where
  location : pointerKeys? c.location = some keys
  value : descend? keys root = some c.value
  opened : ∀ l ∈ c.opened, ∃ outer, pointerKeys? l = some outer ∧ Reaches root outer keys

lemma Placed.start (root : Json) : Placed root (.start root) [] :=
  ⟨rfl, rfl, fun l hl => absurd hl (by simp [Call.start])⟩

variable {location : String} {opened : List String}

lemma Placed.inside {value part : Json} {key newLocation : String}
    (h : Placed root ⟨value, location, opened⟩ keys) (hc : child? key value = some part)
    (hl : pointerKeys? newLocation = some (keys ++ [key])) :
    Placed root ⟨part, newLocation, opened⟩ (keys ++ [key]) := by
  refine ⟨hl, descend?_push h.value hc, fun l hmem => ?_⟩
  obtain ⟨outer, houter, hreach⟩ := h.opened l hmem
  exact ⟨outer, houter, hreach.tail (.inside h.value hc)⟩

lemma Placed.item {items : List Json} {i : Nat} {x : Json}
    (h : Placed root ⟨.array items, location, opened⟩ keys) (hx : items[i]? = some x) :
    Placed root ⟨x, itemLocation location i, opened⟩ (keys ++ [i.repr]) :=
  h.inside (child?_item hx) (pointerKeys?_itemLocation h.location i)

lemma Placed.entry {entries : List (String × Json)} {key : String} {x : Json}
    (hd : root.Distinct) (h : Placed root ⟨.object entries, location, opened⟩ keys)
    (hx : (key, x) ∈ entries) :
    Placed root ⟨x, entryLocation location key, opened⟩ (keys ++ [key]) :=
  h.inside (Keyed.lookup_of_mem (hd.at_keys h.value) hx) (pointerKeys?_entryLocation h.location key)

lemma Placed.opens {c d : Call} {pointer : String} (h : Placed root c keys)
    (ho : Opens root pointer c d) :
    ∃ target, pointerKeys? pointer = some target ∧ Placed root d target := by
  obtain ⟨ht, hp, -, hl⟩ := ho
  obtain ⟨target, htarget, hnode⟩ := Option.bind_eq_some_iff.mp hl
  have href : RefersTo root keys target := ⟨_, _, pointer, _, h.value, ht, hp, htarget, hnode⟩
  refine ⟨target, htarget, htarget, hnode, fun l hmem => ?_⟩
  rcases List.mem_cons.mp hmem with rfl | hmem
  · exact ⟨keys, h.location, .single (.follows href)⟩
  · obtain ⟨outer, houter, hreach⟩ := h.opened l hmem
    exact ⟨outer, houter, hreach.tail (.follows href)⟩

/-- A reference whose pointer encloses an open location is on a cycle. -/
lemma Placed.onCycle {entries : List (String × Json)} {text pointer : String}
    (h : Placed root ⟨.object entries, location, opened⟩ keys) (ht : textOf? entries = some text)
    (hp : pointer? text = some pointer)
    (henc : (location :: opened).any (encloses pointer) = true) : OnCycle root keys := by
  obtain ⟨l, hmem, hl⟩ := List.any_eq_true.mp henc
  have houter : ∃ outer, pointerKeys? l = some outer ∧ Reaches root outer keys := by
    rcases List.mem_cons.mp hmem with rfl | hmem
    · exact ⟨keys, h.location, .refl⟩
    · exact h.opened l hmem
  obtain ⟨outer, hkeys, hreach⟩ := houter
  obtain ⟨target, below, htarget, rfl⟩ := pointerKeys?_of_encloses hkeys hl
  -- The open location is a node of the description: it leads to the reference, or is it.
  obtain ⟨inner, hinner⟩ : ∃ inner, descend? (target ++ below) root = some inner := by
    rcases hreach.cases_head with heq | ⟨next, hstep, -⟩
    · exact ⟨_, heq ▸ h.value⟩
    · cases hstep with
      | inside hnode _ => exact ⟨_, hnode⟩
      | follows href =>
        obtain ⟨entries, _, _, _, hnode, _⟩ := href
        exact ⟨_, hnode⟩
  obtain ⟨node, hnode⟩ : ∃ node, descend? target root = some node := by
    rw [descend?_append] at hinner
    obtain ⟨node, hnode, -⟩ := Option.bind_eq_some_iff.mp hinner
    exact ⟨node, hnode⟩
  exact ⟨target, ⟨entries, text, pointer, node, h.value, ht, hp, htarget, hnode⟩,
    (reaches_append hinner).trans hreach⟩

/-! ### Unfoldings -/

/-- `result` is an unfolding of the value that stands at `keys`. -/
inductive Unfolds (root : Json) : List String → Json → Json → Prop where
  | null {keys : List String} : Unfolds root keys .null .null
  | bool {keys : List String} {b : Bool} : Unfolds root keys (.bool b) (.bool b)
  | number {keys : List String} {n : Number} : Unfolds root keys (.number n) (.number n)
  | string {keys : List String} {s : String} : Unfolds root keys (.string s) (.string s)
  | array {keys : List String} {items results : List Json} :
      results.length = items.length →
      (∀ (i : Nat) x y, items[i]? = some x → results[i]? = some y →
        Unfolds root (keys ++ [i.repr]) x y) →
      Unfolds root keys (.array items) (.array results)
  | object {keys : List String} {entries results : List (String × Json)} :
      textOf? entries = none → results.map Prod.fst = entries.map Prod.fst →
      (∀ (i : Nat) key x y, entries[i]? = some (key, x) → results[i]? = some (key, y) →
        Unfolds root (keys ++ [key]) x y) →
      Unfolds root keys (.object entries) (.object results)
  | external {keys : List String} {entries : List (String × Json)} {text : String} :
      textOf? entries = some text → pointer? text = none →
      Unfolds root keys (.object entries) (.object entries)
  | circular {keys : List String} {entries : List (String × Json)} {text pointer : String} :
      textOf? entries = some text → pointer? text = some pointer → OnCycle root keys →
      Unfolds root keys (.object entries) (.object entries)
  | replaced {keys target : List String} {entries : List (String × Json)} {text pointer : String}
      {node result : Json} :
      textOf? entries = some text → pointer? text = some pointer →
      pointerKeys? pointer = some target → descend? target root = some node →
      Unfolds root target node result →
      Unfolds root keys (.object entries) result

lemma Nested.unfolds {trace : List String} {c : Call} (hd : root.Distinct)
    (h : Nested root trace c) :
    ∀ keys result, Placed root c keys → answer root c = .ok result →
      Unfolds root keys c.value result := by
  refine h.induction (motive := fun c => ∀ keys result, Placed root c keys →
    answer root c = .ok result → Unfolds root keys c.value result) ?_
  rintro trace ⟨value, location, opened⟩ h ih keys result hp hr
  cases value with
  | null =>
    simp only [answer, bounded, rebuild] at hr
    cases hr
    exact .null
  | bool b =>
    simp only [answer, bounded, rebuild] at hr
    cases hr
    exact .bool
  | number n =>
    simp only [answer, bounded, rebuild] at hr
    cases hr
    exact .number
  | string s =>
    simp only [answer, bounded, rebuild] at hr
    cases hr
    exact .string
  | array items =>
    obtain ⟨results, rfl, hlen, hall⟩ := answer_array hr
    exact .array hlen fun i x y hx hy =>
      ih _ (Or.inl (.item hx)) _ _ (hp.item hx) (hall i x y hx hy)
  | object entries =>
    cases ht : textOf? entries with
    | none =>
      obtain ⟨results, rfl, hkeys, hall⟩ := answer_object ht hr
      refine .object ht hkeys fun i key x y hx hy => ?_
      have hmem := List.mem_of_getElem? hx
      exact ih _ (Or.inl (.entry ht hmem)) _ _ (hp.entry hd hmem) (hall i key x y hx hy)
    | some text =>
      rw [h.answer_reference ht] at hr
      rcases follow_ok ht hr with ⟨hext, rfl⟩ | ⟨pointer, hpointer, ⟨henc, rfl⟩ | ⟨d, ho, hresult⟩⟩
      · exact .external ht hext
      · exact .circular ht hpointer (hp.onCycle ht hpointer henc)
      · obtain ⟨target, htarget, hplaced⟩ := hp.opens ho
        exact .replaced ht hpointer htarget hplaced.value
          (ih d (Or.inr ⟨pointer, ho⟩) _ _ hplaced hresult)

/-! ### What is left of the references -/

/-- A text leads to itself, and a reference to the text that its target leads to. -/
inductive LeadsToText (root : Json) : Json → String → Prop where
  | text {s : String} : LeadsToText root (.string s) s
  | follows {entries : List (String × Json)} {text pointer s : String} {node : Json} :
      textOf? entries = some text → pointer? text = some pointer →
      root.lookup? pointer = some node → LeadsToText root node s →
      LeadsToText root (.object entries) s

/-- An external reference has no internal one inside it, and a reference under `$ref` does not lead
to the text of an internal one. -/
structure PlainEntries (root : Json) (entries : List (String × Json)) : Prop where
  external : ∀ text, textOf? entries = some text → pointer? text = none →
    ∀ t ∈ texts (.object entries), pointer? t = none
  entry : ∀ inner, entries.lookup "$ref" = some (.object inner) →
    ∀ s, LeadsToText root (.object inner) s → pointer? s = none

/-- Every object that unfolding passes has plain entries. -/
def PlainReferences (root : Json) : Prop :=
  ∀ keys entries, ReflTransGen (Passes root) [] keys →
    descend? keys root = some (.object entries) → PlainEntries root entries

lemma lookup_of_keys_eq {entries results : List (String × Json)} {key : String} {y : Json}
    (hk : results.map Prod.fst = entries.map Prod.fst) (h : results.lookup key = some y) :
    ∃ (i : Nat) (x : Json), entries[i]? = some (key, x) ∧ results[i]? = some (key, y) ∧
      entries.lookup key = some x := by
  induction results generalizing entries with
  | nil => simp at h
  | cons result rest ih =>
    obtain ⟨k, v⟩ := result
    rcases entries with _ | ⟨⟨k', x⟩, entries⟩
    · simp at hk
    · simp only [List.map_cons, List.cons.injEq] at hk
      obtain ⟨rfl, hk⟩ := hk
      by_cases hkey : key = k
      · subst hkey
        simp only [List.lookup_cons_self, Option.some.injEq] at h
        exact ⟨0, x, rfl, by simp [h], by simp⟩
      · rw [List.lookup_cons, beq_eq_false_iff_ne.mpr hkey] at h
        obtain ⟨i, z, hz, hy, hl⟩ := ih hk h
        exact ⟨i + 1, z, hz, hy, by rw [List.lookup_cons, beq_eq_false_iff_ne.mpr hkey]; exact hl⟩

lemma Unfolds.leadsToText {value : Json} {s : String} (h : Unfolds root keys value (.string s)) :
    LeadsToText root value s := by
  generalize hresult : Json.string s = result at h
  induction h with
  | string =>
    cases hresult
    exact .text
  | replaced ht hp htarget hnode _ ih =>
    exact .follows ht hp (by rw [lookup?, htarget]; exact hnode) (ih hresult)
  | _ => cases hresult

/-- An object that is no reference becomes one only where its `$ref` entry leads to a text. -/
lemma Unfolds.leadsToText_entry {entries results : List (String × Json)} {s : String}
    (ht : textOf? entries = none) (hk : results.map Prod.fst = entries.map Prod.fst)
    (hall : ∀ (i : Nat) key x y, entries[i]? = some (key, x) → results[i]? = some (key, y) →
      Unfolds root (keys ++ [key]) x y) (hs : textOf? results = some s) :
    ∃ inner, entries.lookup "$ref" = some (.object inner) ∧ LeadsToText root (.object inner) s := by
  obtain ⟨y, hy, hstring⟩ := Option.bind_eq_some_iff.mp hs
  obtain ⟨i, x, hx, hyi, hlookup⟩ := lookup_of_keys_eq hk hy
  have hu := hall i _ x y hx hyi
  cases y with
  | string text =>
    cases hstring
    cases hu.leadsToText with
    | text => simp [textOf?, hlookup, string?] at ht
    | follows htext hp hl hnext => exact ⟨_, hlookup, .follows htext hp hl hnext⟩
  | _ => cases hstring

lemma exists_entry_of_keys_eq {entries results : List (String × Json)} {i : Nat}
    {e : String × Json} (hk : results.map Prod.fst = entries.map Prod.fst)
    (he : results[i]? = some e) : ∃ x, entries[i]? = some (e.1, x) := by
  have hki : (entries.map Prod.fst)[i]? = some e.1 := by
    rw [← hk, List.getElem?_map, he]
    rfl
  rw [List.getElem?_map, Option.map_eq_some_iff] at hki
  obtain ⟨⟨key, x⟩, hx, rfl⟩ := hki
  exact ⟨x, hx⟩

/-- Without cycles an internal reference is replaced. -/
lemma Unfolds.of_reference {entries : List (String × Json)} {text pointer : String} {result : Json}
    (ha : Acyclic root) (h : Unfolds root keys (.object entries) result)
    (ht : textOf? entries = some text) (hp : pointer? text = some pointer) :
    ∃ target node, pointerKeys? pointer = some target ∧ descend? target root = some node ∧
      Unfolds root target node result := by
  cases h with
  | object ht' =>
    rw [ht] at ht'
    cases ht'
  | external ht' hp' =>
    obtain rfl := Option.some.inj (ht.symm.trans ht')
    rw [hp] at hp'
    cases hp'
  | circular _ _ hc => exact absurd hc ha.not_onCycle
  | replaced ht' hp' htarget hnode hresult =>
    obtain rfl := Option.some.inj (ht.symm.trans ht')
    obtain rfl := Option.some.inj (hp.symm.trans hp')
    exact ⟨_, _, htarget, hnode, hresult⟩

/-- The parts of an unfolding are unfoldings of the parts. -/
lemma Unfolds.of_part {node part result : Json} {key : String} (h : Unfolds root keys node result)
    (hno : ∀ entries, node = .object entries → textOf? entries = none)
    (hpart : child? key node = some part) :
    ∃ partResult, child? key result = some partResult ∧
      Unfolds root (keys ++ [key]) part partResult := by
  cases h with
  | @array _ items results hlen hall =>
    obtain ⟨i, hi, hx⟩ := Option.bind_eq_some_iff.mp hpart
    obtain ⟨y, hy⟩ := List.exists_getElem?_of_length_eq hlen.symm hx
    obtain rfl := eq_repr_of_tokenIndex? hi
    exact ⟨y, child?_item hy, hall i part y hx hy⟩
  | @object _ entries results ht hk hall =>
    obtain ⟨i, y, hyi, hx, hy⟩ := lookup_of_keys_eq hk.symm hpart
    exact ⟨y, hy, hall i key part y hx hyi⟩
  | external ht =>
    rw [hno _ rfl] at ht
    cases ht
  | circular ht =>
    rw [hno _ rfl] at ht
    cases ht
  | replaced ht =>
    rw [hno _ rfl] at ht
    cases ht
  | _ => cases hpart

/-- What a reference leads to is what it becomes. -/
lemma LeadsToText.eq_of_unfolds {value result : Json} {s : String} (ha : Acyclic root)
    (hs : LeadsToText root value s) (h : Unfolds root keys value result) : result = .string s := by
  induction hs generalizing keys with
  | text =>
    cases h
    rfl
  | follows ht hp hnode _ ih =>
    obtain ⟨target, node, htarget, hat, hresult⟩ := h.of_reference ha ht hp
    rw [lookup?, htarget, Option.bind_some, hat] at hnode
    cases hnode
    exact ih hresult

/-- What unfolding passes on its way from the root is unfolded into a part of the result. -/
lemma Unfolds.exists_of_passes {result : Json} (ha : Acyclic root) (h : Unfolds root [] root result)
    (hpass : ReflTransGen (Passes root) [] keys) :
    ∃ node part, descend? keys root = some node ∧ Unfolds root keys node part ∧
      texts part ⊆ texts result := by
  induction hpass with
  | refl => exact ⟨root, result, rfl, h, List.Subset.refl _⟩
  | tail _ hstep ih =>
    obtain ⟨node, part, hat, hu, hsub⟩ := ih
    cases hstep with
    | inside hnode hno hchild =>
      obtain rfl := Option.some.inj (hat.symm.trans hnode)
      obtain ⟨next, hnext, hu'⟩ := hu.of_part hno hchild
      have hsub' : texts next ⊆ texts result :=
        List.Subset.trans (texts_subset_of_child hnext) hsub
      exact ⟨_, next, descend?_push hat hchild, hu', hsub'⟩
    | follows href =>
      obtain ⟨entries, text, pointer, target, hnode, ht, hp, htarget, hfound⟩ := href
      obtain rfl := Option.some.inj (hat.symm.trans hnode)
      obtain ⟨target', found, htarget', hfound', hu'⟩ := hu.of_reference ha ht hp
      obtain rfl := Option.some.inj (htarget.symm.trans htarget')
      exact ⟨found, part, hfound', hu', hsub⟩

/-- Plain references leave no internal one behind. -/
lemma Unfolds.pointer?_eq_none {value result : Json} (ha : Acyclic root)
    (hd : root.Distinct) (hplain : PlainReferences root) (h : Unfolds root keys value result)
    (hv : descend? keys root = some value) (hpass : ReflTransGen (Passes root) [] keys) :
    ∀ text ∈ texts result, pointer? text = none := by
  induction h with
  | null => simp [texts]
  | bool => simp [texts]
  | number => simp [texts]
  | string => simp [texts]
  | @array keys items results hlen _ ih =>
    intro text htext
    obtain ⟨y, hy, hin⟩ := mem_textsOfItems.mp htext
    obtain ⟨i, hi⟩ := List.mem_iff_getElem?.mp hy
    obtain ⟨x, hx⟩ := List.exists_getElem?_of_length_eq hlen hi
    have hpart : Passes root keys (keys ++ [i.repr]) := .inside hv (by rintro _ ⟨⟩) (child?_item hx)
    exact ih i x y hx hi (descend?_push hv (child?_item hx)) (hpass.tail hpart) text hin
  | @object keys entries results ht hk hall ih =>
    intro text htext
    rw [texts, List.mem_append, Option.mem_toList] at htext
    rcases htext with htext | htext
    · -- a reference that is new
      obtain ⟨inner, hinner, hleads⟩ := Unfolds.leadsToText_entry ht hk hall htext
      exact (hplain keys entries hpass hv).entry inner hinner text hleads
    · obtain ⟨⟨key, y⟩, hy, hin⟩ := mem_textsOfEntries.mp htext
      obtain ⟨i, hi⟩ := List.mem_iff_getElem?.mp hy
      obtain ⟨x, hx⟩ := exists_entry_of_keys_eq hk hi
      have hfound : child? key (.object entries) = some x :=
        Keyed.lookup_of_mem (hd.at_keys hv) (List.mem_of_getElem? hx)
      have hpart : Passes root keys (keys ++ [key]) := by
        refine .inside hv ?_ hfound
        rintro _ ⟨⟩
        exact ht
      exact ih i _ x y hx hi (descend?_push hv hfound) (hpass.tail hpart) text hin
  | @external keys entries text ht hp => exact (hplain keys entries hpass hv).external text ht hp
  | circular _ _ hc => exact absurd hc ha.not_onCycle
  | replaced ht hp htarget hnode _ ih =>
    exact ih hnode (hpass.tail (.follows ⟨_, _, _, _, hv, ht, hp, htarget, hnode⟩))

/-- Where no internal reference is left behind, the references were plain. -/
lemma Unfolds.plainReferences {result : Json} (ha : Acyclic root) (h : Unfolds root [] root result)
    (hnone : ∀ text ∈ texts result, pointer? text = none) : PlainReferences root := by
  intro keys entries hpass hat
  obtain ⟨node, part, hnode, hu, hsub⟩ := h.exists_of_passes ha hpass
  obtain rfl := Option.some.inj (hat.symm.trans hnode)
  constructor
  · intro text ht hp t htext
    cases hu with
    | object ht' =>
      rw [ht] at ht'
      cases ht'
    | external => exact hnone t (hsub htext)
    | circular _ _ hc => exact absurd hc ha.not_onCycle
    | replaced ht' hp' =>
      obtain rfl := Option.some.inj (ht.symm.trans ht')
      rw [hp] at hp'
      cases hp'
  · intro inner hinner s hs
    have ht : ∀ es, Json.object entries = .object es → textOf? es = none := by
      rintro _ ⟨⟩
      rw [textOf?, hinner]
      rfl
    obtain ⟨value, hvalue, hunfolds⟩ := hu.of_part ht hinner
    obtain rfl := hs.eq_of_unfolds ha hunfolds
    cases part with
    | object results =>
      have htext : textOf? results = some s := by
        rw [textOf?, show results.lookup "$ref" = some (.string s) from hvalue]
        rfl
      exact hnone s (hsub (by simp [texts, htext]))
    | _ => cases hvalue

/-! ### Nothing to unfold -/

lemma rebuildItems_eq_self {f : Json → String → String → Except Dangling Json}
    {items : List Json} {index : Nat}
    (h : ∀ x ∈ items, ∀ location, rebuild f location x = .ok x) :
    rebuildItems f location index items = .ok items := by
  induction items generalizing index with
  | nil => rfl
  | cons item rest ih =>
    have hrest : rebuildItems f location (index + 1) rest = .ok rest :=
      ih fun x hx => h x (List.mem_cons_of_mem _ hx)
    simp [rebuildItems, h item (by simp), hrest, Except.map]

lemma rebuildEntries_eq_self {f : Json → String → String → Except Dangling Json}
    {entries : List (String × Json)}
    (h : ∀ e ∈ entries, ∀ location, rebuild f location e.2 = .ok e.2) :
    rebuildEntries f location entries = .ok entries := by
  induction entries with
  | nil => rfl
  | cons entry rest ih =>
    have hrest := ih fun e he => h e (List.mem_cons_of_mem _ he)
    simp [rebuildEntries, h entry (by simp), hrest, Except.map]

lemma rebuild_eq_self {f : Json → String → String → Except Dangling Json} {value : Json}
    (hf : ∀ node text location, pointer? text = none → f node text location = .ok node)
    (h : ∀ text ∈ texts value, pointer? text = none) : rebuild f location value = .ok value := by
  induction value using Json.induction generalizing location with
  | null => rfl
  | bool b => rfl
  | number n => rfl
  | string s => rfl
  | array items ih =>
    rw [rebuild, rebuildItems_eq_self fun x hx location =>
      ih x hx fun text ht => h text (texts_subset_of_item hx ht)]
    rfl
  | object entries ih =>
    rw [rebuild]
    cases ht : textOf? entries with
    | some text => exact hf _ _ _ (h text (by simp [texts, ht]))
    | none =>
      simp only
      rw [rebuildEntries_eq_self fun e he location =>
        ih e he fun text ht => h text (texts_subset_of_entry he ht)]
      rfl

lemma unfold_eq_self (h : ∀ text ∈ texts root, pointer? text = none) : unfold root = .ok root := by
  refine rebuild_eq_self (fun node text location hp => ?_) h
  rw [expand]
  simp only [hp]

/-- **Unfolding unfolds.** What unfolding gives is an unfolding of the description. So a description
without cycles has no internal reference left exactly if its references are plain, and one without
internal references stays as it is. -/
theorem unfolds_of_unfold (root result : Json) (hd : root.Distinct) (h : unfold root = .ok result) :
    Unfolds root [] root result ∧
    (Acyclic root →
      (PlainReferences root ↔ ∀ text ∈ texts result, pointer? text = none)) ∧
    ((∀ text ∈ texts root, pointer? text = none) → result = root) := by
  have hu : Unfolds root [] root result := Nested.start.unfolds hd [] result (.start root) h
  refine ⟨hu, fun ha => ⟨fun hplain => hu.pointer?_eq_none ha hd hplain rfl .refl,
    hu.plainReferences ha⟩, fun hext => ?_⟩
  rw [unfold_eq_self hext] at h
  cases h
  rfl

/-- Two schemas that refer to each other. -/
def mutualRoot : Json :=
  .object [("A", .object [("b", .object [("$ref", .string "#/B")])]),
    ("B", .object [("a", .object [("$ref", .string "#/A")])])]

def mutualResult : Json :=
  .object [("A", .object [("b", .object [("a", .object [("$ref", .string "#/A")])])]),
    ("B", .object [("a", .object [("b", .object [("$ref", .string "#/B")])])])]

/-- An internal and an external reference without a cycle, references under `$ref` that lead to no
text and to the text of an external reference, and a reference inside another that is replaced. -/
def plainRoot : Json :=
  .object [("c", .array [.object [("$ref", .string "#/d~1e")],
      .object [("$ref", .string "other.yaml")]]),
    ("d/e", .bool true),
    ("p", .object [("$ref", .object [("$ref", .string "#/d~1e")])]),
    ("q", .object [("$ref", .object [("$ref", .string "#/s")])]),
    ("r", .object [("$ref", .string "#/d~1e"), ("x", .object [("$ref", .string "other.yaml"),
      ("y", .object [("$ref", .string "#/s")])])]),
    ("s", .string "other.yaml")]

def plainResult : Json :=
  .object [("c", .array [.bool true, .object [("$ref", .string "other.yaml")]]),
    ("d/e", .bool true), ("p", .object [("$ref", .bool true)]),
    ("q", .object [("$ref", .string "other.yaml")]), ("r", .bool true), ("s", .string "other.yaml")]

lemma acyclic_plainRoot : Acyclic plainRoot := by
  have hall : ∀ text ∈ texts plainRoot, text ∈ ["#/d~1e", "#/s", "other.yaml"] := by decide
  refine LeafTargets.acyclic fun text ht pointer hp node hl => ?_
  have htext := hall text ht
  simp only [List.mem_cons, List.not_mem_nil, or_false] at htext
  rcases htext with rfl | rfl | rfl
  · cases hp
    cases hl
    exact fun key => rfl
  · cases hp
    cases hl
    exact fun key => rfl
  · cases hp

theorem samples_unfold :
    (mutualRoot.Distinct ∧ unfold mutualRoot = .ok mutualResult ∧
      Unfolds mutualRoot [] mutualRoot mutualResult) ∧
    (plainRoot.Distinct ∧ unfold plainRoot = .ok plainResult ∧ Acyclic plainRoot ∧
      PlainReferences plainRoot ∧ ∀ text ∈ texts plainResult, pointer? text = none) := by
  have hm : mutualRoot.Distinct := by
    simp [mutualRoot, Distinct, EveryObject, EveryObjectOfEntries]
  have hd : plainRoot.Distinct := by
    simp [plainRoot, Distinct, EveryObject, EveryObjectOfItems, EveryObjectOfEntries]
  have hnone : ∀ text ∈ texts plainResult, pointer? text = none := by decide
  have hunfold : unfold plainRoot = .ok plainResult := by decide +kernel
  have hp := unfolds_of_unfold plainRoot plainResult hd hunfold
  exact ⟨⟨hm, rfl, (unfolds_of_unfold mutualRoot mutualResult hm rfl).1⟩,
    hd, hunfold, acyclic_plainRoot, (hp.2.1 acyclic_plainRoot).mpr hnone, hnone⟩

/-! ### References that stay without a cycle -/

/-- An internal reference inside an external one. -/
def insideExternal : Json :=
  .object [("a", .object [("$ref", .string "other.yaml"),
      ("x", .object [("$ref", .string "#/b")])]),
    ("b", .bool true)]

/-- An object whose `$ref` is a reference to a text that reads like a reference. -/
def throughEntry : Json :=
  .object [("a", .object [("$ref", .object [("$ref", .string "#/s")])]), ("s", .string "#/b"),
    ("b", .bool true)]

lemma acyclic_insideExternal : Acyclic insideExternal := by
  refine LeafTargets.acyclic fun text ht pointer hp node hl => ?_
  have htexts : texts insideExternal = ["other.yaml", "#/b"] := rfl
  rw [htexts, List.mem_cons, List.mem_singleton] at ht
  rcases ht with rfl | rfl
  · cases hp
  · cases hp
    cases hl
    exact fun key => rfl

lemma acyclic_throughEntry : Acyclic throughEntry := by
  refine LeafTargets.acyclic fun text ht pointer hp node hl => ?_
  have htexts : texts throughEntry = ["#/s"] := rfl
  rw [htexts, List.mem_singleton] at ht
  subst ht
  cases hp
  cases hl
  exact fun key => rfl

/-- Without a cycle an internal reference may still stay: the unfolding keeps an external reference
with all that is in it, and may put a text in the place of a `$ref`. -/
theorem internal_reference_left_without_cycle :
    (insideExternal.Distinct ∧ Acyclic insideExternal ∧
      unfold insideExternal = .ok insideExternal ∧
      ∃ text ∈ texts insideExternal, pointer? text = some "/b") ∧
    (throughEntry.Distinct ∧ Acyclic throughEntry ∧
      ∃ result, unfold throughEntry = .ok result ∧
        ∃ text ∈ texts result, pointer? text = some "/b") := by
  refine ⟨⟨?_, acyclic_insideExternal, rfl, "#/b", ?_, rfl⟩, ?_, acyclic_throughEntry,
    .object [("a", .object [("$ref", .string "#/b")]), ("s", .string "#/b"), ("b", .bool true)],
    rfl, "#/b", ?_, rfl⟩
  · simp [insideExternal, Distinct, EveryObject, EveryObjectOfEntries]
  · rw [show texts insideExternal = ["other.yaml", "#/b"] from rfl]
    simp
  · simp [throughEntry, Distinct, EveryObject, EveryObjectOfEntries]
  · simp [texts, textsOfEntries, textOf?, string?, List.lookup_cons]

end ApiTypes.Reference
