import ApiTypes.Proofs.Json.Record
import ApiTypes.Proofs.Reference.Nested

/-!
Every call is in its place.

Unfolding carries along where its value stands, as a text: keys are escaped and joined to it, and
behind a reference it is the text that the reference has. The value itself is found without looking
at the text. The invariant is that the two agree: the location of a call names its value in the
description, and each open location names a reference. It is also said as a test that stands in
front of every call of a second run, and that no call fails.
-/

namespace ApiTypes.Reference

open Json

/-! ### Locations name values -/

/-- The text of the reference that a location names. -/
def referenceText? (root : Json) (location : String) : Option String :=
  ((root.lookup? location).bind object?).bind textOf?

/-- The location of the call names its value, and every open location names a reference. -/
def InPlace (root : Json) (c : Call) : Prop :=
  root.lookup? c.location = some c.value ∧ ∀ l ∈ c.opened, (referenceText? root l).isSome

instance (root : Json) (c : Call) : Decidable (InPlace root c) :=
  inferInstanceAs (Decidable (_ ∧ _))

variable {root : Json} {location : String}

lemma lookup?_itemLocation {items : List Json} {index : Nat} {item : Json}
    (h : root.lookup? location = some (.array items)) (hitem : items[index]? = some item) :
    root.lookup? (itemLocation location index) = some item := by
  obtain ⟨keys, hkeys, hvalue⟩ := Option.bind_eq_some_iff.mp h
  rw [lookup?, pointerKeys?_itemLocation hkeys, Option.bind_some]
  exact descend?_push hvalue (child?_item hitem)

lemma lookup?_entryLocation {entries : List (String × Json)} {key : String} {value : Json}
    (hd : root.Distinct) (h : root.lookup? location = some (.object entries))
    (hentry : (key, value) ∈ entries) :
    root.lookup? (entryLocation location key) = some value := by
  obtain ⟨keys, hkeys, hvalue⟩ := Option.bind_eq_some_iff.mp h
  rw [lookup?, pointerKeys?_entryLocation hkeys, Option.bind_some]
  exact descend?_push hvalue (Keyed.lookup_of_mem (hd.at_keys hvalue) hentry)

lemma inPlace_start (root : Json) : InPlace root (.start root) :=
  ⟨rfl, List.forall_mem_nil _⟩

lemma InPlace.enters {c d : Call} (hd : root.Distinct) (h : InPlace root c) (he : Enters c d) :
    InPlace root d := by
  cases he with
  | item hitem => exact ⟨lookup?_itemLocation h.1 hitem, h.2⟩
  | entry _ hentry => exact ⟨lookup?_entryLocation hd h.1 hentry, h.2⟩

lemma InPlace.opens {c d : Call} {pointer : String} (h : InPlace root c)
    (ho : Opens root pointer c d) : InPlace root d := by
  obtain ⟨ht, -, -, htarget⟩ := ho
  refine ⟨htarget, List.forall_mem_cons.mpr ⟨?_, h.2⟩⟩
  rw [referenceText?, h.1, Option.bind_some, object?, Option.bind_some, ht]
  rfl

lemma InPlace.calls {c d : Call} (hd : root.Distinct) (h : InPlace root c)
    (hcall : Calls root c d) : InPlace root d := by
  rcases hcall with he | ⟨pointer, ho⟩
  · exact h.enters hd he
  · exact h.opens ho

lemma Nested.inPlace {trace : List String} {c : Call} (hd : root.Distinct)
    (h : Nested root trace c) : InPlace root c := by
  induction h with
  | start => exact inPlace_start root
  | enters _ he ih => exact ih.enters hd he
  | opens _ ho ih => exact ih.opens ho

/-! ### A test on every call -/

/-- Why a run with a test ends early: a reference names nothing, or a call fails the test. -/
inductive Stop where
  | dangling (fault : Dangling)
  | refused (call : Call)

/-- Goes on with a call that passes the test. -/
def checked (test : Call → Bool) (call : Call) (rest : Except Stop Json) : Except Stop Json :=
  if test call then rest else .error (.refused call)

mutual

/-- Rebuilding with a test on every call. -/
def rebuildChecked (test : Call → Bool) (expand : Json → String → String → Except Stop Json)
    (opened : List String) (location : String) : Json → Except Stop Json
  | .array items => checked test ⟨.array items, location, opened⟩
      ((rebuildItemsChecked test expand opened location 0 items).map .array)
  | .object entries => checked test ⟨.object entries, location, opened⟩
      (match textOf? entries with
      | some text => expand (.object entries) text location
      | none => (rebuildEntriesChecked test expand opened location entries).map .object)
  | value => checked test ⟨value, location, opened⟩ (.ok value)

def rebuildItemsChecked (test : Call → Bool)
    (expand : Json → String → String → Except Stop Json) (opened : List String)
    (location : String) : Nat → List Json → Except Stop (List Json)
  | _, [] => .ok []
  | index, item :: rest =>
    match rebuildChecked test expand opened (itemLocation location index) item with
    | .error e => .error e
    | .ok x => (rebuildItemsChecked test expand opened location (index + 1) rest).map (x :: ·)

def rebuildEntriesChecked (test : Call → Bool)
    (expand : Json → String → String → Except Stop Json) (opened : List String)
    (location : String) : List (String × Json) → Except Stop (List (String × Json))
  | [] => .ok []
  | (key, value) :: rest =>
    match rebuildChecked test expand opened (entryLocation location key) value with
    | .error e => .error e
    | .ok x => (rebuildEntriesChecked test expand opened location rest).map ((key, x) :: ·)

end

/-- What becomes of a reference object when `resolve` answers the call on its target. -/
def followChecked (root : Json) (resolve : Call → Except Stop Json) (opened : List String)
    (node : Json) (text location : String) : Except Stop Json :=
  match pointer? text with
  | none => .ok node
  | some pointer =>
    if (location :: opened).any (encloses pointer) then .ok node
    else
      match root.lookup? pointer with
      | none => .error (.dangling ⟨text⟩)
      | some target => resolve ⟨target, pointer, location :: opened⟩

/-- Expanding with a test on every call, up to a depth. -/
def expandChecked (test : Call → Bool) (root : Json) :
    (depth : Nat) → (opened : List String) → Json → String → String → Except Stop Json
  | 0, opened, node => followChecked root (fun _ => .ok node) opened node
  | depth + 1, opened, node => followChecked root (fun c =>
      rebuildChecked test (expandChecked test root depth c.opened) c.opened c.location c.value)
      opened node

/-- The answer to a call with a test on every call inside it. -/
def boundedChecked (test : Call → Bool) (root : Json) (depth : Nat) (c : Call) : Except Stop Json :=
  rebuildChecked test (expandChecked test root depth c.opened) c.opened c.location c.value

/-- Unfolding with a test on every call. -/
def unfoldChecked (test : Call → Bool) (root : Json) : Except Stop Json :=
  boundedChecked test root (pointers root).length (.start root)

variable {test : Call → Bool} {f : Json → String → String → Except Dangling Json}
  {g : Json → String → String → Except Stop Json} {opened : List String} {trace : List String}

lemma checked_of_test {call : Call} {rest : Except Stop Json} (h : test call = true) :
    checked test call rest = rest :=
  if_pos h

lemma checked_eq_ok_iff {call : Call} {rest : Except Stop Json} {result : Json} :
    checked test call rest = .ok result ↔ test call = true ∧ rest = .ok result := by
  unfold checked
  split
  · next h => simp [h]
  · next h => simp [h]

lemma mapError_map {ε ε' α β : Type} (x : Except ε α) (h : α → β) (k : ε → ε') :
    (x.map h).mapError k = (x.mapError k).map h := by
  cases x <;> rfl

lemma rebuildItemsChecked_eq {items : List Json} {index : Nat}
    (h : ∀ i x, items[i]? = some x →
      rebuildChecked test g opened (itemLocation location (index + i)) x =
        (rebuild f (itemLocation location (index + i)) x).mapError .dangling) :
    rebuildItemsChecked test g opened location index items =
      (rebuildItems f location index items).mapError .dangling := by
  induction items generalizing index with
  | nil => rfl
  | cons item rest ih =>
    have hitem := h 0 item rfl
    rw [Nat.add_zero] at hitem
    have hrest : rebuildItemsChecked test g opened location (index + 1) rest =
        (rebuildItems f location (index + 1) rest).mapError .dangling := by
      refine ih fun i x hx => ?_
      rw [Nat.add_assoc, Nat.add_comm 1 i]
      exact h (i + 1) x hx
    rw [rebuildItemsChecked, rebuildItems, hitem, hrest]
    cases rebuild f (itemLocation location index) item with
    | error e => rfl
    | ok x => exact (mapError_map _ _ _).symm

lemma rebuildEntriesChecked_eq {entries : List (String × Json)}
    (h : ∀ e ∈ entries, rebuildChecked test g opened (entryLocation location e.1) e.2 =
      (rebuild f (entryLocation location e.1) e.2).mapError .dangling) :
    rebuildEntriesChecked test g opened location entries =
      (rebuildEntries f location entries).mapError .dangling := by
  induction entries with
  | nil => rfl
  | cons entry rest ih =>
    rw [List.forall_mem_cons] at h
    obtain ⟨key, value⟩ := entry
    rw [rebuildEntriesChecked, rebuildEntries, h.1, ih h.2]
    cases rebuild f (entryLocation location key) value with
    | error e => rfl
    | ok x => exact (mapError_map _ _ _).symm

/-- If all nested calls pass the test, rebuilding does the same with it as without it, as long as
references are expanded alike. -/
lemma Nested.rebuildChecked_eq {value : Json}
    (htest : ∀ trace c, Nested root trace c → test c = true)
    (h : Nested root trace ⟨value, location, opened⟩)
    (hfg : ∀ entries text location, Nested root trace ⟨.object entries, location, opened⟩ →
      textOf? entries = some text →
      g (.object entries) text location = (f (.object entries) text location).mapError .dangling) :
    rebuildChecked test g opened location value =
      (rebuild f location value).mapError .dangling := by
  have hpass := htest _ _ h
  induction value using Json.induction generalizing location with
  | null => exact checked_of_test hpass
  | bool b => exact checked_of_test hpass
  | number n => exact checked_of_test hpass
  | string s => exact checked_of_test hpass
  | array items ih =>
    rw [rebuildChecked, checked_of_test hpass, rebuild, mapError_map,
      rebuildItemsChecked_eq fun i x hx => ?_]
    rw [Nat.zero_add]
    have hnested := h.enters (.item hx)
    exact ih x (List.mem_of_getElem? hx) hnested (htest _ _ hnested)
  | object entries ih =>
    rw [rebuildChecked, checked_of_test hpass, rebuild]
    cases ht : textOf? entries with
    | some text => exact hfg entries text location h ht
    | none =>
      simp only
      rw [mapError_map, rebuildEntriesChecked_eq fun e he => ?_]
      have hnested := h.enters (.entry ht he)
      exact ih e he hnested (htest _ _ hnested)

lemma followChecked_eq {resolve : Call → Except Dangling Json}
    {resolve' : Call → Except Stop Json} {entries : List (String × Json)} {text : String}
    (ht : textOf? entries = some text)
    (h : ∀ pointer d, Opens root pointer ⟨.object entries, location, opened⟩ d →
      resolve' d = (resolve d).mapError .dangling) :
    followChecked root resolve' opened (.object entries) text location =
      (follow root resolve opened (.object entries) text location).mapError .dangling := by
  unfold followChecked follow
  cases hp : pointer? text with
  | none => rfl
  | some pointer =>
    simp only
    split
    · rfl
    · next hfree =>
      rw [Bool.not_eq_true] at hfree
      cases htarget : root.lookup? pointer with
      | none => rfl
      | some target => exact h pointer _ (.mk ht hp hfree htarget)

lemma Nested.boundedChecked_eq {c : Call} {depth : Nat}
    (htest : ∀ trace c, Nested root trace c → test c = true) (h : Nested root trace c) :
    boundedChecked test root depth c = (bounded root depth c).mapError .dangling := by
  induction depth generalizing trace c with
  | zero =>
    refine h.rebuildChecked_eq htest fun entries text location hinner ht => ?_
    rw [expand_zero]
    exact followChecked_eq ht fun _ _ _ => rfl
  | succ depth ih =>
    refine h.rebuildChecked_eq htest fun entries text location hinner ht => ?_
    rw [expand_succ]
    exact followChecked_eq ht fun pointer d ho => ih (hinner.opens ho)

/-- A test that all nested calls pass does not show. -/
lemma unfoldChecked_eq (htest : ∀ trace c, Nested root trace c → test c = true) :
    unfoldChecked test root = (unfold root).mapError .dangling :=
  Nested.start.boundedChecked_eq htest

/-! ### The test is made on every nested call -/

lemma test_of_rebuildChecked {value result : Json}
    (h : rebuildChecked test g opened location value = .ok result) :
    test ⟨value, location, opened⟩ = true := by
  cases value <;> exact (checked_eq_ok_iff.mp (by simpa only [rebuildChecked] using h)).1

lemma exists_of_rebuildItemsChecked {items results : List Json} {index i : Nat} {x : Json}
    (h : rebuildItemsChecked test g opened location index items = .ok results)
    (hx : items[i]? = some x) :
    ∃ y, rebuildChecked test g opened (itemLocation location (index + i)) x = .ok y := by
  induction items generalizing index i results with
  | nil => simp at hx
  | cons item rest ih =>
    rw [rebuildItemsChecked] at h
    split at h
    · cases h
    · next y hy =>
      obtain ⟨more, hmore, -⟩ := map_eq_ok.mp h
      cases i with
      | zero =>
        cases hx
        exact ⟨y, hy⟩
      | succ i =>
        rw [Nat.add_comm i 1, ← Nat.add_assoc]
        exact ih hmore hx

lemma exists_of_rebuildEntriesChecked {entries results : List (String × Json)} {key : String}
    {x : Json} (h : rebuildEntriesChecked test g opened location entries = .ok results)
    (hx : (key, x) ∈ entries) :
    ∃ y, rebuildChecked test g opened (entryLocation location key) x = .ok y := by
  induction entries generalizing results with
  | nil => simp at hx
  | cons entry rest ih =>
    rw [rebuildEntriesChecked] at h
    split at h
    · cases h
    · next y hy =>
      obtain ⟨more, hmore, -⟩ := map_eq_ok.mp h
      rcases List.mem_cons.mp hx with rfl | hx
      · exact ⟨y, hy⟩
      · exact ih hmore hx

lemma Enters.exists_boundedChecked {c d : Call} {depth : Nat} {result : Json} (he : Enters c d)
    (h : boundedChecked test root depth c = .ok result) :
    ∃ result', boundedChecked test root depth d = .ok result' := by
  unfold boundedChecked at h ⊢
  cases he with
  | item hx =>
    rw [rebuildChecked, checked_eq_ok_iff] at h
    obtain ⟨results, hresults, -⟩ := map_eq_ok.mp h.2
    have hitem := exists_of_rebuildItemsChecked hresults hx
    rwa [Nat.zero_add] at hitem
  | entry ht hx =>
    simp only [rebuildChecked, checked_eq_ok_iff, ht] at h
    obtain ⟨results, hresults, -⟩ := map_eq_ok.mp h.2
    exact exists_of_rebuildEntriesChecked hresults hx

/-- A reference that is opened has the answer of its target. -/
lemma Opens.boundedChecked_eq {c d : Call} {pointer : String} {depth : Nat} {result : Json}
    (ho : Opens root pointer c d) (h : boundedChecked test root (depth + 1) c = .ok result) :
    boundedChecked test root depth d = .ok result := by
  obtain ⟨ht, hp, hfree, htarget⟩ := ho
  simp only [boundedChecked, rebuildChecked, checked_eq_ok_iff, ht] at h
  have hfollow := h.2
  rw [expandChecked, followChecked, hp] at hfollow
  simp only [hfree, htarget] at hfollow
  exact hfollow

lemma Nested.exists_boundedChecked {c : Call} {result : Json} (hn : Nested root trace c)
    (h : unfoldChecked test root = .ok result) :
    ∀ depth, depth + trace.length = (pointers root).length →
      ∃ result', boundedChecked test root depth c = .ok result' := by
  induction hn with
  | start =>
    rintro depth rfl
    exact ⟨result, h⟩
  | enters _ he ih =>
    intro depth hdepth
    obtain ⟨result', hresult⟩ := ih depth hdepth
    exact he.exists_boundedChecked hresult
  | opens _ ho ih =>
    intro depth hdepth
    rw [List.length_cons] at hdepth
    obtain ⟨result', hresult⟩ := ih (depth + 1) (by omega)
    exact ⟨result', ho.boundedChecked_eq hresult⟩

/-- A run with a test succeeds just when it does without, and all nested calls pass. -/
lemma unfoldChecked_eq_ok_iff {result : Json} :
    unfoldChecked test root = .ok result ↔
      unfold root = .ok result ∧ ∀ trace c, Nested root trace c → test c = true := by
  constructor
  · intro h
    have htest : ∀ trace c, Nested root trace c → test c = true := by
      intro trace c hn
      have hlength := hn.length_le
      obtain ⟨result', hresult⟩ := hn.exists_boundedChecked h
        ((pointers root).length - trace.length) (by omega)
      exact test_of_rebuildChecked hresult
    rw [unfoldChecked_eq htest] at h
    exact ⟨mapError_eq_ok.mp h, htest⟩
  · rintro ⟨h, htest⟩
    rw [unfoldChecked_eq htest, h]
    rfl

/-- **Every call is in its place.** The first call is, and if a call is, so are the calls it makes:
on items, on entries under any key and on the targets of references. So all nested calls are in
their places, and unfolding gives the same with a test of this on every call as without. The test
is really made: a run with any test succeeds just when the run without it succeeds and all nested
calls pass. -/
theorem nested_calls_inPlace (root : Json) (hd : root.Distinct) :
    InPlace root (.start root) ∧
    (∀ c d, InPlace root c → Calls root c d → InPlace root d) ∧
    (∀ trace c, Nested root trace c → InPlace root c) ∧
    unfoldChecked (fun c => decide (InPlace root c)) root = (unfold root).mapError .dangling ∧
    ∀ test result, unfoldChecked test root = .ok result ↔
      unfold root = .ok result ∧ ∀ trace c, Nested root trace c → test c = true := by
  refine ⟨inPlace_start root, fun c d h hcall => h.calls hd hcall, fun trace c h => h.inPlace hd,
    unfoldChecked_eq fun trace c h => ?_, fun test result => unfoldChecked_eq_ok_iff⟩
  exact decide_eq_true (h.inPlace hd)

/-- Keys with a slash and a tilde, and a reference from an array. -/
def slashRoot : Json :=
  .object [("a/b", .array [.null, .object [("$ref", .string "#/c~0d")]]),
    ("c~d", .object [("x", .bool true)])]

/-- The call on the reference, and the one on its target. -/
def slashUse : Call := ⟨.object [("$ref", .string "#/c~0d")], "/a~1b/1", []⟩

def slashTarget : Call := ⟨.object [("x", .bool true)], "/c~0d", ["/a~1b/1"]⟩

lemma nested_slashUse : Nested slashRoot [] slashUse := by
  have hlist : Nested slashRoot [] ⟨.array [.null, .object [("$ref", .string "#/c~0d")]],
      "/a~1b", []⟩ := Nested.start.enters (.entry rfl List.mem_cons_self)
  exact hlist.enters (@Enters.item _ "/a~1b" [] 1 _ rfl)

lemma opens_slashTarget : Opens slashRoot "/c~0d" slashUse slashTarget := .mk rfl rfl rfl rfl

theorem slashRoot_inPlace :
    slashRoot.Distinct ∧
    Nested slashRoot [] slashUse ∧ InPlace slashRoot slashUse ∧
    Calls slashRoot slashUse slashTarget ∧ InPlace slashRoot slashTarget ∧
    unfoldChecked (fun c => decide (InPlace slashRoot c)) slashRoot =
      (unfold slashRoot).mapError .dangling := by
  have hd : slashRoot.Distinct := by
    simp [slashRoot, Distinct, EveryObject, EveryObjectOfItems, EveryObjectOfEntries]
  have hcall : Calls slashRoot slashUse slashTarget := Or.inr ⟨_, opens_slashTarget⟩
  obtain ⟨-, hstep, hnested, hchecked, -⟩ := nested_calls_inPlace slashRoot hd
  have huse := hnested _ _ nested_slashUse
  exact ⟨hd, nested_slashUse, huse, hcall, hstep _ _ huse hcall, hchecked⟩

end ApiTypes.Reference
