import ApiTypes.TypeExpr.Name
import Mathlib.Tactic.Common

/-!
Type names.

A type name is made of letters, digits, underscores and dollar signs, does not start with a digit of
the ASCII range and is no reserved word. Every text is made such a name, and only such names stay as
they are. An identifier does not start with a digit of any kind, so a text that starts with a digit
of another script is made a type name that is no identifier.
-/

namespace ApiTypes.TypeName

/-- A text that stands for a named type and for nothing else. -/
def isTypeName (text : String) : Bool :=
  match text.toList with
  | [] => false
  | c :: rest => !c.isDigit && (c :: rest).all isPart && !decide (text ∈ reserved)

lemma isTypeName_iff {text : String} :
    isTypeName text = true ↔
      (∃ c rest, text.toList = c :: rest ∧ c.isDigit = false) ∧
        (∀ c ∈ text.toList, isPart c = true) ∧ text ∉ reserved := by
  unfold isTypeName
  cases h : text.toList with
  | nil => simp
  | cons c rest => simp [and_assoc]

lemma isPart_underscore : isPart '_' = true := by simp [isPart]

lemma isPart_of_isDigit {c : Char} (h : c.isDigit = true) : isPart c = true := by
  have hnumeric : Text.isNumeric c = true := by
    obtain ⟨hlow, hhigh⟩ : 48 ≤ c.toNat ∧ c.toNat ≤ 57 := by
      simpa [Char.isDigit, UInt32.le_iff_toNat_le] using h
    rw [Text.isNumeric, Text.numericRanges, Text.inRanges, if_neg (by omega), if_pos (by omega)]
  simp [isPart, Text.isAlphanumeric, hnumeric]

lemma isPart_replaceBad (c : Char) : isPart (replaceBad c) = true := by
  unfold replaceBad
  split
  · assumption
  · exact isPart_underscore

/-- The name before reserved words are taken care of. -/
def rawName (name : String) : List Char := guardDigit (name.toList.map replaceBad)

lemma isPart_of_mem_rawName {name : String} : ∀ c ∈ rawName name, isPart c = true := by
  have hmap : ∀ c ∈ name.toList.map replaceBad, isPart c = true := by
    intro c hc
    obtain ⟨d, -, rfl⟩ := List.mem_map.mp hc
    exact isPart_replaceBad d
  unfold rawName guardDigit
  split
  · simp
  · next c rest heq =>
    rw [heq] at hmap
    split
    · rintro d (_ | ⟨_, hd⟩)
      · exact isPart_underscore
      · exact hmap d hd
    · exact hmap

lemma exists_rawName_cons {name : String} (h : name.toList ≠ []) :
    ∃ c rest, rawName name = c :: rest ∧ c.isDigit = false := by
  obtain ⟨c, rest, hc⟩ := List.exists_cons_of_ne_nil h
  unfold rawName guardDigit
  rw [hc, List.map_cons]
  simp only
  split
  · exact ⟨_, _, rfl, by decide⟩
  · next hdigit => exact ⟨_, _, rfl, by simpa using hdigit⟩

lemma isTypeName_push_underscore : ∀ word ∈ reserved, isTypeName (word.push '_') = true := by
  decide +kernel

theorem isTypeName_sanitize (name : String) : isTypeName (sanitize name) = true := by
  unfold sanitize
  split
  · decide +kernel
  · next hne =>
    rw [List.isEmpty_iff] at hne
    obtain ⟨c, rest, hraw, hdigit⟩ := exists_rawName_cons hne
    change isTypeName (guardReserved (String.ofList (rawName name))) = true
    unfold guardReserved
    split
    · next hmem => exact isTypeName_push_underscore _ hmem
    · next hfree =>
      refine isTypeName_iff.mpr ⟨⟨c, rest, by rw [String.toList_ofList, hraw], hdigit⟩, ?_, hfree⟩
      rw [String.toList_ofList]
      exact isPart_of_mem_rawName

/-! ### Identifiers -/

lemma isPart_of_isStart {c : Char} (h : isStart c = true) : isPart c = true := by
  simp only [isStart, isPart, Text.isAlphanumeric, Bool.or_eq_true] at h ⊢
  tauto

lemma isPart_of_isIdentifier {text : String} (h : isIdentifier text = true) :
    ∀ c ∈ text.toList, isPart c = true := by
  intro c hc
  unfold isIdentifier at h
  split at h
  · cases h
  · next first rest heq =>
    rw [Bool.and_eq_true, List.all_eq_true] at h
    rw [heq] at hc
    rcases List.mem_cons.mp hc with rfl | hc
    · exact isPart_of_isStart h.1
    · exact h.2 c hc

/-- A digit or another number sign that is neither a letter nor one of the ASCII digits. -/
def isForeignDigit (c : Char) : Bool := Text.isNumeric c && !Text.isAlphabetic c && !c.isDigit

/-- The text starts with such a number sign. -/
def startsForeign (text : String) : Bool := text.toList.head?.any isForeignDigit

lemma isForeignDigit_of_not_isPart {c : Char} (h : isPart c = false) :
    isForeignDigit c = false := by
  have hnumeric : Text.isNumeric c = false := by
    simp only [isPart, Text.isAlphanumeric, Bool.or_eq_false_iff] at h
    exact h.1.1.2
  rw [isForeignDigit, hnumeric, Bool.false_and, Bool.false_and]

lemma isForeignDigit_of_isDigit {c : Char} (h : c.isDigit = true) : isForeignDigit c = false := by
  rw [isForeignDigit, h, Bool.not_true, Bool.and_false]

lemma isForeignDigit_underscore : isForeignDigit '_' = false := by decide +kernel

/-- A character that fits into a name can start it unless it is a digit of some kind. -/
lemma isStart_of_isPart {c : Char} (hpart : isPart c = true) (hdigit : c.isDigit = false) :
    isStart c = !isForeignDigit c := by
  rcases Bool.eq_false_or_eq_true (Text.isAlphabetic c) with hletter | hletter
  · simp [isStart, isForeignDigit, hletter]
  · have hmarks : c = '_' ∨ c = '$' → Text.isNumeric c = false := by
      rintro (rfl | rfl) <;> decide +kernel
    simp only [isPart, Text.isAlphanumeric, hletter, Bool.false_or, Bool.or_eq_true, beq_iff_eq]
      at hpart
    simp only [isStart, isForeignDigit, hletter, hdigit, Bool.false_or, Bool.not_false,
      Bool.and_true]
    by_cases hmark : c = '_' ∨ c = '$'
    · rw [hmarks hmark]
      simpa using hmark
    · obtain ⟨hunder, hdollar⟩ := not_or.mp hmark
      have hnumeric : Text.isNumeric c = true := by simpa [hunder, hdollar] using hpart
      simp [hnumeric, hunder, hdollar]

lemma isIdentifier_of_isTypeName {text : String} (h : isTypeName text = true) :
    isIdentifier text = !startsForeign text := by
  obtain ⟨⟨c, rest, hc, hdigit⟩, hparts, -⟩ := isTypeName_iff.mp h
  rw [hc, List.forall_mem_cons] at hparts
  have hrest : rest.all isPart = true := List.all_eq_true.mpr hparts.2
  simp only [isIdentifier, startsForeign, hc, hrest, Bool.and_true, List.head?_cons,
    Option.any_some]
  exact isStart_of_isPart hparts.1 hdigit

lemma isForeignDigit_replaceBad (c : Char) : isForeignDigit (replaceBad c) = isForeignDigit c := by
  unfold replaceBad
  split
  · rfl
  · next h => rw [isForeignDigit_underscore, isForeignDigit_of_not_isPart (by simpa using h)]

lemma any_head?_rawName (name : String) :
    (rawName name).head?.any isForeignDigit = startsForeign name := by
  unfold rawName startsForeign
  cases name.toList with
  | nil => rfl
  | cons c rest =>
    rw [List.map_cons, guardDigit, List.head?_cons, Option.any_some, ← isForeignDigit_replaceBad c]
    split
    · next hdigit =>
      rw [List.head?_cons, Option.any_some, isForeignDigit_underscore,
        isForeignDigit_of_isDigit hdigit]
    · rw [List.head?_cons, Option.any_some]

/-- Nothing is put in front of a digit of another script. -/
lemma startsForeign_sanitize (name : String) :
    startsForeign (sanitize name) = startsForeign name := by
  unfold sanitize
  split
  · next hnil =>
    rw [List.isEmpty_iff] at hnil
    simp only [startsForeign, hnil]
    exact isForeignDigit_underscore
  · next hne =>
    rw [List.isEmpty_iff] at hne
    obtain ⟨c, rest, hraw, -⟩ := exists_rawName_cons hne
    have hhead : startsForeign (String.ofList (rawName name)) = startsForeign name := by
      rw [startsForeign, String.toList_ofList, any_head?_rawName]
    change startsForeign (guardReserved (String.ofList (rawName name))) = _
    unfold guardReserved
    split
    · rw [← hhead, hraw]
      simp [startsForeign]
    · exact hhead

/-- **Identifiers among the type names.** A text that is made a type name is no reserved word, and
it is an identifier unless the text starts with a digit or another number sign of another script. -/
theorem isIdentifier_sanitize_iff (name : String) :
    (isIdentifier (sanitize name) = true ↔ ∀ c ∈ name.toList.head?, isForeignDigit c = false) ∧
      sanitize name ∉ reserved := by
  have htype := isTypeName_sanitize name
  refine ⟨?_, (isTypeName_iff.mp htype).2.2⟩
  rw [isIdentifier_of_isTypeName htype, startsForeign_sanitize, Bool.not_eq_true', startsForeign]
  cases name.toList.head? <;> simp

/-- A superscript two is taken for a fit start, but no identifier starts with it. -/
theorem sanitize_superscript : sanitize "²" = "²" ∧ isIdentifier (sanitize "²") = false := by
  decide +kernel

/-! ### Names that stay as they are -/

lemma isPart_iff {c : Char} :
    isPart c = true ↔ Text.isAlphanumeric c = true ∨ c = '_' ∨ c = '$' := by
  simp [isPart, or_assoc]

lemma map_replaceBad {cs : List Char} (h : ∀ c ∈ cs, isPart c = true) :
    cs.map replaceBad = cs := by
  have hsame : cs.map replaceBad = cs.map id := List.map_congr_left fun c hc => if_pos (h c hc)
  rw [hsame, List.map_id]

/-- No character of a type name is replaced, and nothing is put in front of it. -/
lemma rawName_of_isTypeName {name : String} (h : isTypeName name = true) :
    rawName name = name.toList := by
  obtain ⟨⟨c, rest, hc, hdigit⟩, hparts, -⟩ := isTypeName_iff.mp h
  rw [rawName, map_replaceBad hparts, hc, guardDigit, if_neg (by simp [hdigit])]

lemma sanitize_of_isTypeName {name : String} (h : isTypeName name = true) :
    sanitize name = name := by
  obtain ⟨⟨c, rest, hc, -⟩, -, hfree⟩ := isTypeName_iff.mp h
  have hraw : guardReserved (String.ofList (rawName name)) = name := by
    rw [rawName_of_isTypeName h, String.ofList_toList, guardReserved, if_neg hfree]
  rw [sanitize, if_neg (by simp [hc])]
  exact hraw

/-- The texts that stay as they are are the type names, which are all that texts are made. -/
lemma sanitize_eq_self_iff {name : String} : sanitize name = name ↔ isTypeName name = true := by
  constructor
  · intro h
    rw [← h]
    exact isTypeName_sanitize name
  · exact sanitize_of_isTypeName

lemma exists_first_iff {text : String} :
    (∃ c rest, text.toList = c :: rest ∧ c.isDigit = false) ↔
      text ≠ "" ∧ ∀ c ∈ text.toList.head?, c.isDigit = false := by
  rw [ne_eq, ← String.toList_inj]
  cases text.toList <;> simp

/-- **A text is made a type name once and for all.** The name that a text is made stays as it is,
is no reserved word and is not empty. A text stays as it is just when it is not empty, does not
start with a digit of the ASCII range, has only letters, digits, underscores and dollar signs, and
is no reserved word. -/
theorem sanitize_retraction (name : String) :
    sanitize (sanitize name) = sanitize name ∧ sanitize name ∉ reserved ∧ sanitize name ≠ "" ∧
      (sanitize name = name ↔
        name ≠ "" ∧ (∀ c ∈ name.toList.head?, c.isDigit = false) ∧
          (∀ c ∈ name.toList, Text.isAlphanumeric c = true ∨ c = '_' ∨ c = '$') ∧
          name ∉ reserved) := by
  have htype := isTypeName_sanitize name
  obtain ⟨hfirst, -, hfree⟩ := isTypeName_iff.mp htype
  refine ⟨sanitize_of_isTypeName htype, hfree, (exists_first_iff.mp hfirst).1, ?_⟩
  rw [sanitize_eq_self_iff, isTypeName_iff, exists_first_iff, and_assoc]
  simp only [isPart_iff]

/-- A digit of another script may stand in front, and a reserved word inside. -/
theorem sanitize_arabic_digit : sanitize "٣_string" = "٣_string" ∧
    sanitize (sanitize "3-string") = sanitize "3-string" ∧ sanitize "3-string" = "_3_string" := by
  have hcons : "٣_string".toList = '٣' :: "_string".toList := rfl
  obtain ⟨hne, hfirst⟩ := exists_first_iff.mp ⟨_, _, hcons, rfl⟩
  have hparts : "٣_string".toList.all isPart = true := by decide +kernel
  have hfits : ∀ c ∈ "٣_string".toList, Text.isAlphanumeric c = true ∨ c = '_' ∨ c = '$' :=
    fun c hc => isPart_iff.mp (List.all_eq_true.mp hparts c hc)
  have hfixed := (sanitize_retraction "٣_string").2.2.2.mpr ⟨hne, hfirst, hfits, by decide⟩
  exact ⟨hfixed, (sanitize_retraction "3-string").1, by decide +kernel⟩

end ApiTypes.TypeName
