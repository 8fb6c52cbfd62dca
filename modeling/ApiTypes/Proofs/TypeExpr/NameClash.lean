import ApiTypes.Proofs.TypeExpr.Name
import Mathlib.Data.List.Forall2

/-!
Texts that are made the same type name.

What does not fit into a name becomes an underscore, so texts that differ in such characters only
end in one name. The underscore that is put in front of a digit, behind a reserved word or in the
place of an empty text may have been there in another text. These are all the ways in which two
texts clash.
-/

namespace ApiTypes.TypeName

/-- The character is an underscore in the name, whether it was one before or did not fit. -/
def isBlank (c : Char) : Bool := c == '_' || !isPart c

/-- The texts have the same characters, but for those that are underscores in the name. -/
def Alike (cs ds : List Char) : Prop :=
  List.Forall₂ (fun c d => c = d ∨ isBlank c = true ∧ isBlank d = true) cs ds

/-- The second text is made the name that the first one gets. -/
inductive Clash : List Char → List Char → Prop where
  | alike {cs ds : List Char} : Alike cs ds → Clash cs ds
  /-- One has an underscore that the other gets in front of its digit. -/
  | digit {c blank : Char} {cs ds : List Char} :
      c.isDigit = true → isBlank blank = true → Alike (c :: cs) ds → Clash (c :: cs) (blank :: ds)
  | empty {blank : Char} : isBlank blank = true → Clash [] [blank]
  /-- One has an underscore that the other gets behind a reserved word. -/
  | reserved {word : String} {blank : Char} :
      word ∈ TypeName.reserved → isBlank blank = true →
      Clash word.toList (word.toList ++ [blank])

/-! ### Characters -/

lemma replaceBad_eq_underscore_iff {c : Char} : replaceBad c = '_' ↔ isBlank c = true := by
  unfold replaceBad isBlank
  split
  · next h => simp [h]
  · next h => simp [h]

lemma isPart_of_not_isBlank {c : Char} (h : isBlank c = false) : isPart c = true := by
  rw [isBlank, Bool.or_eq_false_iff, Bool.not_eq_false'] at h
  exact h.2

lemma replaceBad_of_not_isBlank {c : Char} (h : isBlank c = false) : replaceBad c = c :=
  if_pos (isPart_of_not_isBlank h)

lemma isBlank_replaceBad (c : Char) : isBlank (replaceBad c) = isBlank c := by
  rcases Bool.eq_false_or_eq_true (isBlank c) with hc | hc
  · rw [replaceBad_eq_underscore_iff.mpr hc, hc]
    rfl
  · rw [replaceBad_of_not_isBlank hc]

lemma replaceBad_eq_iff {c d : Char} :
    replaceBad c = replaceBad d ↔ c = d ∨ isBlank c = true ∧ isBlank d = true := by
  rcases Bool.eq_false_or_eq_true (isBlank c) with hc | hc
  · rw [replaceBad_eq_underscore_iff.mpr hc, eq_comm, replaceBad_eq_underscore_iff]
    constructor
    · exact fun hd => Or.inr ⟨hc, hd⟩
    · rintro (rfl | ⟨-, hd⟩)
      · exact hc
      · exact hd
  · rw [replaceBad_of_not_isBlank hc]
    constructor
    · intro h
      have hd : isBlank d = false := by rw [← isBlank_replaceBad, ← h, hc]
      exact Or.inl (h.trans (replaceBad_of_not_isBlank hd))
    · rintro (rfl | ⟨hblank, -⟩)
      · exact (replaceBad_of_not_isBlank hc).symm
      · simp [hc] at hblank

lemma alike_iff {cs ds : List Char} : Alike cs ds ↔ cs.map replaceBad = ds.map replaceBad := by
  rw [Alike, ← List.forall₂_eq_eq_eq, List.forall₂_map_left_iff, List.forall₂_map_right_iff]
  simp only [replaceBad_eq_iff]

lemma isDigit_of_isBlank {c : Char} (h : isBlank c = true) : c.isDigit = false := by
  rw [← Bool.not_eq_true]
  intro hdigit
  have hne : c ≠ '_' := by
    rintro rfl
    simp at hdigit
  simp [isBlank, isPart_of_isDigit hdigit, hne] at h

/-- A digit stays as it is, and nothing else becomes one. -/
lemma isDigit_replaceBad (c : Char) : (replaceBad c).isDigit = c.isDigit := by
  rcases Bool.eq_false_or_eq_true (isBlank c) with hc | hc
  · rw [replaceBad_eq_underscore_iff.mpr hc, isDigit_of_isBlank hc]
    rfl
  · rw [replaceBad_of_not_isBlank hc]

/-! ### Names before reserved words are taken care of -/

/-- The name of any text but for the reserved words. -/
def plainName : List Char → List Char
  | [] => ['_']
  | c :: cs => guardDigit ((c :: cs).map replaceBad)

lemma sanitize_eq (name : String) :
    sanitize name = guardReserved (String.ofList (plainName name.toList)) := by
  unfold sanitize
  cases name.toList with
  | nil => decide +kernel
  | cons c cs => rfl

lemma plainName_of_isDigit {c : Char} (h : c.isDigit = true) (cs : List Char) :
    plainName (c :: cs) = '_' :: (c :: cs).map replaceBad := by
  rw [plainName, List.map_cons, guardDigit, isDigit_replaceBad, if_pos h]

lemma plainName_of_not_isDigit {c : Char} (h : c.isDigit = false) (cs : List Char) :
    plainName (c :: cs) = (c :: cs).map replaceBad := by
  rw [plainName, List.map_cons, guardDigit, isDigit_replaceBad, if_neg (by simp [h])]

lemma plainName_of_isBlank {blank : Char} (h : isBlank blank = true) (cs : List Char) :
    plainName (blank :: cs) = '_' :: cs.map replaceBad := by
  rw [plainName_of_not_isDigit (isDigit_of_isBlank h), List.map_cons,
    replaceBad_eq_underscore_iff.mpr h]

/-- Where one text starts with a digit and the other does not, the other one has the underscore. -/
lemma clash_of_isDigit {c d : Char} {cs ds : List Char} (hc : c.isDigit = true)
    (hd : d.isDigit = false) (h : plainName (c :: cs) = plainName (d :: ds)) :
    Clash (c :: cs) (d :: ds) := by
  rw [plainName_of_isDigit hc, plainName_of_not_isDigit hd, List.map_cons (a := d),
    List.cons.injEq] at h
  exact .digit hc (replaceBad_eq_underscore_iff.mp h.1.symm) (alike_iff.mpr h.2)

lemma clash_of_nil {ds : List Char} (h : plainName [] = plainName ds) : Clash [] ds := by
  cases ds with
  | nil => exact .alike .nil
  | cons d ds =>
    rcases Bool.eq_false_or_eq_true d.isDigit with hd | hd
    · -- nothing stands behind the underscore of an empty text
      rw [plainName_of_isDigit hd] at h
      simp [plainName] at h
    · rw [plainName_of_not_isDigit hd, plainName, List.map_cons, List.cons.injEq] at h
      obtain rfl : ds = [] := List.map_eq_nil_iff.mp h.2.symm
      exact .empty (replaceBad_eq_underscore_iff.mp h.1.symm)

lemma clash_of_plainName_eq {cs ds : List Char} (h : plainName cs = plainName ds) :
    Clash cs ds ∨ Clash ds cs := by
  cases cs with
  | nil => exact Or.inl (clash_of_nil h)
  | cons c cs =>
    cases ds with
    | nil => exact Or.inr (clash_of_nil h.symm)
    | cons d ds =>
      rcases Bool.eq_false_or_eq_true c.isDigit with hc | hc <;>
        rcases Bool.eq_false_or_eq_true d.isDigit with hd | hd
      · rw [plainName_of_isDigit hc, plainName_of_isDigit hd, List.cons.injEq] at h
        exact Or.inl (.alike (alike_iff.mpr h.2))
      · exact Or.inl (clash_of_isDigit hc hd h)
      · exact Or.inr (clash_of_isDigit hd hc h.symm)
      · rw [plainName_of_not_isDigit hc, plainName_of_not_isDigit hd] at h
        exact Or.inl (.alike (alike_iff.mpr h))

/-! ### Reserved words -/

/-- Reserved words are words of letters. -/
lemma reserved_letters : ∀ word ∈ TypeName.reserved,
    (word.toList.all fun c => !isBlank c && !c.isDigit) = true ∧ word.toList ≠ [] := by
  decide +kernel

lemma push_notMem_reserved {word : String} (h : word ∈ TypeName.reserved) :
    word.push '_' ∉ TypeName.reserved :=
  (isTypeName_iff.mp (isTypeName_push_underscore word h)).2.2

lemma guardReserved_eq_iff {a b : String} : guardReserved a = guardReserved b ↔
    a = b ∨ (a ∈ TypeName.reserved ∧ b = a.push '_') ∨
      (b ∈ TypeName.reserved ∧ a = b.push '_') := by
  constructor
  · unfold guardReserved
    split <;> split
    · exact fun h => Or.inl (by simpa [← String.toList_inj] using h)
    · next ha _ => exact fun h => Or.inr (Or.inl ⟨ha, h.symm⟩)
    · next _ hb => exact fun h => Or.inr (Or.inr ⟨hb, h⟩)
    · exact Or.inl
  · rintro (rfl | ⟨ha, rfl⟩ | ⟨hb, rfl⟩)
    · rfl
    · rw [guardReserved, if_pos ha, guardReserved, if_neg (push_notMem_reserved ha)]
    · rw [guardReserved, if_neg (push_notMem_reserved hb), guardReserved, if_pos hb]

lemma eq_of_map_replaceBad {cs ds : List Char} (h : cs.map replaceBad = ds)
    (hds : ∀ d ∈ ds, isBlank d = false) : cs = ds := by
  induction cs generalizing ds with
  | nil => exact h
  | cons c cs ih =>
    subst h
    rw [List.map_cons, List.forall_mem_cons] at hds
    have hc : isBlank c = false := by rw [← isBlank_replaceBad, hds.1]
    rw [List.map_cons, ← ih rfl hds.2, replaceBad_of_not_isBlank hc]

section

variable {word : String} (hword : word ∈ TypeName.reserved)
include hword

lemma not_isBlank_of_mem_word : ∀ c ∈ word.toList, isBlank c = false := by
  intro c hc
  have h := List.all_eq_true.mp (reserved_letters word hword).1 c hc
  simp only [Bool.and_eq_true, Bool.not_eq_true'] at h
  exact h.1

lemma exists_word_cons : ∃ c cs, word.toList = c :: cs ∧ c.isDigit = false := by
  obtain ⟨hletters, hne⟩ := reserved_letters word hword
  obtain ⟨c, cs, hcons⟩ := List.exists_cons_of_ne_nil hne
  have h := List.all_eq_true.mp hletters c (by simp [hcons])
  simp only [Bool.and_eq_true, Bool.not_eq_true'] at h
  exact ⟨c, cs, hcons, h.2⟩

/-- A reserved word and what stands behind it: the word stays as it is. -/
lemma plainName_word (rest : List Char) :
    plainName (word.toList ++ rest) = word.toList ++ rest.map replaceBad := by
  have hmap : word.toList.map replaceBad = word.toList :=
    map_replaceBad fun c hc => isPart_of_not_isBlank (not_isBlank_of_mem_word hword c hc)
  obtain ⟨c, cs, hcons, hdigit⟩ := exists_word_cons hword
  rw [hcons] at hmap ⊢
  rw [List.cons_append, plainName_of_not_isDigit hdigit, ← List.cons_append, List.map_append, hmap]

/-- Only the word itself is made the start of such a name. -/
lemma exists_of_plainName_eq {cs ds : List Char} (h : plainName cs = word.toList ++ ds) :
    ∃ rest, cs = word.toList ++ rest ∧ rest.map replaceBad = ds := by
  obtain ⟨w, ws, hcons, -⟩ := exists_word_cons hword
  have hw : w ≠ '_' := by
    rintro rfl
    have := not_isBlank_of_mem_word hword '_' (by simp [hcons])
    simp [isBlank] at this
  have hmap : cs.map replaceBad = word.toList ++ ds := by
    rw [← h]
    rw [hcons, List.cons_append] at h
    cases cs with
    | nil => exact absurd (List.head_eq_of_cons_eq h).symm hw
    | cons c cs =>
      rcases Bool.eq_false_or_eq_true c.isDigit with hc | hc
      · rw [plainName_of_isDigit hc] at h
        exact absurd (List.head_eq_of_cons_eq h).symm hw
      · rw [plainName_of_not_isDigit hc]
  obtain ⟨front, rest, rfl, hfront, hrest⟩ := List.map_eq_append_iff.mp hmap
  exact ⟨rest, by rw [eq_of_map_replaceBad hfront (not_isBlank_of_mem_word hword)], hrest⟩

lemma clash_of_plainName_push {cs ds : List Char} (hcs : plainName cs = word.toList)
    (hds : plainName ds = word.toList ++ ['_']) : Clash cs ds := by
  rw [← List.append_nil word.toList] at hcs
  obtain ⟨rest, rfl, hrest⟩ := exists_of_plainName_eq hword hcs
  obtain ⟨blanks, rfl, hblanks⟩ := exists_of_plainName_eq hword hds
  obtain rfl := List.map_eq_nil_iff.mp hrest
  obtain ⟨blank, rfl, hblank⟩ := List.map_eq_singleton_iff.mp hblanks
  rw [List.append_nil]
  exact .reserved hword (replaceBad_eq_underscore_iff.mp hblank)

end

/-! ### Clashes -/

lemma Alike.plainName_eq {cs ds : List Char} (h : Alike cs ds) : plainName cs = plainName ds := by
  have hmap := alike_iff.mp h
  cases h with
  | nil => rfl
  | cons _ _ => rw [plainName, plainName, hmap]

lemma Clash.sanitize_eq {a b : String} (h : Clash a.toList b.toList) : sanitize a = sanitize b := by
  rw [TypeName.sanitize_eq, TypeName.sanitize_eq]
  generalize a.toList = cs, b.toList = ds at h
  cases h with
  | alike h => rw [h.plainName_eq]
  | digit hc hblank h =>
    rw [plainName_of_isDigit hc, plainName_of_isBlank hblank, alike_iff.mp h]
  | empty hblank => rw [plainName_of_isBlank hblank, plainName, List.map_nil]
  | @reserved word blank hword hblank =>
    have hplain : plainName word.toList = word.toList := by
      simpa using plainName_word hword []
    rw [plainName_word hword, hplain, String.ofList_toList, guardReserved_eq_iff]
    refine Or.inr (Or.inl ⟨hword, ?_⟩)
    rw [List.map_singleton, replaceBad_eq_underscore_iff.mpr hblank, ← String.toList_push,
      String.ofList_toList]

lemma clash_of_push {a b : String} (hword : String.ofList (plainName a.toList) ∈ TypeName.reserved)
    (h : String.ofList (plainName b.toList) = (String.ofList (plainName a.toList)).push '_') :
    Clash a.toList b.toList := by
  refine clash_of_plainName_push hword String.toList_ofList.symm ?_
  rw [← String.toList_push, ← h, String.toList_ofList]

/-- Two texts are made the same type name just when they clash. -/
theorem sanitize_eq_sanitize_iff {a b : String} :
    sanitize a = sanitize b ↔ Clash a.toList b.toList ∨ Clash b.toList a.toList := by
  constructor
  · intro h
    rw [TypeName.sanitize_eq, TypeName.sanitize_eq, guardReserved_eq_iff] at h
    rcases h with h | ⟨hword, h⟩ | ⟨hword, h⟩
    · exact clash_of_plainName_eq (String.ofList_injective h)
    · exact Or.inl (clash_of_push hword h)
    · exact Or.inr (clash_of_push hword h)
  · rintro (h | h)
    · exact h.sanitize_eq
    · exact h.sanitize_eq.symm

end ApiTypes.TypeName
