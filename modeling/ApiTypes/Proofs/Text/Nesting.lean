import ApiTypes.Proofs.Json.Quote
import ApiTypes.Proofs.Json.Tree
import ApiTypes.Proofs.Schema.Soundness
import ApiTypes.Proofs.TypeExpr.Writer

/-!
What the texts of names, values and schemas are made of.

Names, keys, numbers, JSON values and the types of schemas are put together from plain characters,
from strings between quotes, and from brackets. So a property of texts that these have, and that is
kept where texts are put together and put inside brackets, holds of all of them, whatever a
description says. A second property may stand for the first one inside brackets.
-/

namespace ApiTypes

namespace Key

lemma isDigit_of_isInteger {text : String} (h : isInteger text = true) :
    ∀ c ∈ text.toList, c.isDigit = true := by
  intro c hc
  unfold isInteger at h
  split at h
  · cases h
  · next heq =>
    rw [heq, List.mem_singleton] at hc
    rw [hc]
    decide
  · next c rest _ heq =>
    rw [heq] at hc
    rw [Bool.and_eq_true, List.all_eq_true] at h
    exact h.2 _ hc

/-- The ways in which a key is written. -/
lemma render_cases {motive : String → Prop}
    (name : ∀ {text}, TypeName.isIdentifier text = true → motive text)
    (integer : ∀ {text}, isInteger text = true → motive text)
    (quoted : ∀ text, motive (Json.quote text)) (key : Key) : motive key.render := by
  unfold render
  split
  · next h =>
    rw [Bool.and_eq_true, Bool.or_eq_true] at h
    rcases h.2 with hname | hinteger
    · exact name hname
    · exact integer hinteger
  · exact quoted key.text

end Key

namespace Text

/-! ### Putting texts together -/

/-- Texts that can be put one after another. -/
structure Joins (T : String → Prop) : Prop where
  empty : T ""
  append {a b : String} : T a → T b → T (a ++ b)

lemma Joins.join {T : String → Prop} (hT : Joins T) {α : Type} {f : α → String} {separator : String}
    (hsep : T separator) :
    ∀ {items : List α}, (∀ x ∈ items, T (f x)) → T (join separator (items.map f))
  | [], _ => hT.empty
  | [x], h => h x List.mem_cons_self
  | x :: _ :: _, h =>
    hT.append (hT.append (h x List.mem_cons_self) hsep)
      (hT.join hsep fun z hz => h z (List.mem_cons_of_mem x hz))

/-- A function that puts a separator between the texts of items. -/
lemma eq_join {α : Type} {separator : String} {f : List α → String} {text : α → String}
    (hnil : f [] = "") (hone : ∀ x, f [x] = text x)
    (hmore : ∀ x y rest, f (x :: y :: rest) = text x ++ separator ++ f (y :: rest))
    (items : List α) : f items = join separator (items.map text) := by
  induction items with
  | nil => exact hnil
  | cons x rest ih =>
    cases rest with
    | nil => exact hone x
    | cons y rest =>
      rw [hmore, ih]
      rfl

lemma compactItems_eq (items : List Json) :
    Json.compactItems items = join "," (items.map Json.compact) :=
  eq_join (by simp only [Json.compactItems]) (fun _ => by simp only [Json.compactItems])
    (fun _ _ _ => by simp only [Json.compactItems]) items

lemma compactEntries_eq (entries : List (String × Json)) :
    Json.compactEntries entries =
      join "," (entries.map fun e => Json.quote e.1 ++ ":" ++ e.2.compact) :=
  eq_join (by simp only [Json.compactEntries]) (fun _ => by simp only [Json.compactEntries])
    (fun _ _ _ => by simp only [Json.compactEntries]) entries

/-! ### Plain characters -/

/-- No control character of the ASCII range. -/
def IsPrintable (c : Char) : Prop := 32 ≤ c.toNat

instance : DecidablePred IsPrintable := fun c => inferInstanceAs (Decidable (32 ≤ c.toNat))

/-- The characters that open, close or end something. -/
def special : List Char := ['"', ';', '{', '}', '(', ')', '[', ']', '<', '>']

/-- A printable character without a meaning of its own. -/
def IsPlain (c : Char) : Prop := IsPrintable c ∧ c ∉ special

instance : DecidablePred IsPlain := fun _ => inferInstanceAs (Decidable (_ ∧ _))

lemma isPlain_of_isPart {c : Char} (h : TypeName.isPart c = true) : IsPlain c := by
  constructor
  · by_contra hc
    have hcontrol : ∀ n < 32, TypeName.isPart (Char.ofNat n) = false := by decide +kernel
    have hpart := hcontrol c.toNat (by simpa [IsPrintable] using hc)
    rw [Char.ofNat_toNat, h] at hpart
    cases hpart
  · have hall : ∀ d ∈ special, (!TypeName.isPart d) = true :=
      List.all_eq_true.mp (by decide +kernel)
    intro hc
    simpa [h] using hall c hc

lemma isPlain_of_isDigit {c : Char} (h : c.isDigit = true) : IsPlain c :=
  isPlain_of_isPart (TypeName.isPart_of_isDigit h)

/-! ### Numbers -/

/-- The characters of numbers, digits apart. -/
def numberMarks : List Char := ['-', '+', '.', 'e']

def isNumberChar (c : Char) : Bool := c.isDigit || decide (c ∈ numberMarks)

lemma isNumberChar_of_mem_toDigits {n : Nat} {c : Char} (h : c ∈ Nat.toDigits 10 n) :
    isNumberChar c = true := by
  have hdigit : c.isDigit = true := Nat.isDigit_of_mem_toDigits (by omega) (by omega) h
  simp [isNumberChar, hdigit]

lemma isNumberChar_of_mem_repr {value : Int} {c : Char} (h : c ∈ value.repr.toList) :
    isNumberChar c = true := by
  cases value with
  | ofNat n =>
    rw [show (Int.ofNat n).repr = n.repr from rfl, Nat.toList_repr] at h
    exact isNumberChar_of_mem_toDigits h
  | negSucc n =>
    rw [show (Int.negSucc n).repr = "-" ++ (n + 1).repr from rfl, String.toList_append,
      Nat.toList_repr] at h
    rcases List.mem_append.mp h with h | h
    · rw [show "-".toList = ['-'] from rfl, List.mem_singleton] at h
      rw [h]
      decide
    · exact isNumberChar_of_mem_toDigits h

lemma isNumberChar_of_mem_exponentText {layout : Double.Layout} {e : Int} {c : Char}
    (h : c ∈ (layout.exponentText e).toList) : isNumberChar c = true := by
  have hmarks : ∀ x ∈ "e+".toList, isNumberChar x = true := List.all_eq_true.mp (by decide)
  unfold Double.Layout.exponentText at h
  split at h
  · rcases List.mem_append.mp (String.toList_append ▸ h) with h | h
    · exact hmarks c h
    · exact isNumberChar_of_mem_repr h
  · rcases List.mem_append.mp (String.toList_append ▸ h) with h | h
    · exact hmarks c (List.mem_append_left ['+'] h)
    · exact isNumberChar_of_mem_repr h

lemma mem_pointedDigits {digits : List Char} {c : Char} (h : c ∈ Double.pointedDigits digits) :
    c = '.' ∨ c ∈ digits := by
  unfold Double.pointedDigits at h
  split at h
  · simp only [List.mem_cons] at h ⊢
    tauto
  · exact Or.inr h

lemma mem_placedDigits {digits : List Char} {point : Int} {c : Char}
    (h : c ∈ Double.placedDigits digits point) : c = '0' ∨ c = '.' ∨ c ∈ digits := by
  unfold Double.placedDigits at h
  split at h
  · simp only [List.mem_cons, List.mem_append, List.mem_replicate] at h
    tauto
  · split at h
    · simp only [List.mem_append, List.mem_replicate, List.mem_cons, List.not_mem_nil,
        or_false] at h
      tauto
    · simp only [List.mem_append, List.mem_cons] at h
      rcases h with h | h | h
      · exact Or.inr (Or.inr (List.mem_of_mem_take h))
      · exact Or.inr (Or.inl h)
      · exact Or.inr (Or.inr (List.mem_of_mem_drop h))

lemma isNumberChar_of_mem_text {layout : Double.Layout} {d : Double} {c : Char}
    (h : c ∈ (layout.text d).toList) : isNumberChar c = true := by
  have hsign : c ∈ (if d.negative then "-" else "").toList → isNumberChar c = true := by
    intro hc
    cases hd : d.negative with
    | true =>
      rw [hd, if_pos rfl, show "-".toList = ['-'] from rfl, List.mem_singleton] at hc
      rw [hc]
      decide
    | false => simp [hd] at hc
  have hdot : isNumberChar '.' = true := by decide
  unfold Double.Layout.text at h
  simp only at h
  split at h
  · -- zero
    rw [String.toList_append, List.mem_append] at h
    rcases h with h | h
    · exact hsign h
    · have hall : ∀ x ∈ "0.0".toList, isNumberChar x = true := List.all_eq_true.mp (by decide)
      exact hall c h
  · split at h
    · -- with an exponent
      rw [String.toList_append, String.toList_append, String.toList_ofList, List.mem_append,
        List.mem_append] at h
      rcases h with (h | h) | h
      · exact hsign h
      · rcases mem_pointedDigits h with rfl | h
        · exact hdot
        · exact isNumberChar_of_mem_toDigits h
      · exact isNumberChar_of_mem_exponentText h
    · rw [String.toList_append, String.toList_ofList, List.mem_append] at h
      rcases h with h | h
      · exact hsign h
      · rcases mem_placedDigits h with rfl | rfl | h
        · decide
        · exact hdot
        · exact isNumberChar_of_mem_toDigits h

lemma isPlain_of_isNumberChar {c : Char} (h : isNumberChar c = true) : IsPlain c := by
  rcases Bool.or_eq_true_iff.mp h with hdigit | hmark
  · exact isPlain_of_isDigit hdigit
  · have hall : ∀ d ∈ numberMarks, decide (IsPlain d) = true :=
      List.all_eq_true.mp (by decide +kernel)
    exact of_decide_eq_true (hall c (of_decide_eq_true hmark))

/-! ### Texts inside brackets -/

/-- The texts of `T` are put together from plain characters, strings and brackets around texts
of `I`. -/
structure Nests (T I : String → Prop) : Prop where
  outer : Joins T
  inner : Joins I
  inside {text : String} : T text → I text
  plain {text : String} : (∀ c ∈ text.toList, IsPlain c) → T text
  quoted (text : String) : T (Json.quote text)
  square {text : String} : I text → T ("[" ++ text ++ "]")
  braces {text : String} : I text → T (inBraces text)

namespace Nests

variable {T I : String → Prop} {text : String}

/-- A test for texts that are known. -/
lemma known (h : Nests T I) (htext : text.toList.all (fun c => IsPlain c) = true) : T text :=
  h.plain fun c hc => of_decide_eq_true (List.all_eq_true.mp htext c hc)

lemma typeName (h : Nests T I) (hname : TypeName.isTypeName text = true) : T text :=
  h.plain fun c hc => isPlain_of_isPart ((TypeName.isTypeName_iff.mp hname).2.1 c hc)

/-- A key is written bare only where it is harmless. -/
lemma key (h : Nests T I) (key : Key) : T key.render :=
  Key.render_cases (motive := T)
    (fun hname => h.plain fun c hc =>
      isPlain_of_isPart (TypeName.isPart_of_isIdentifier hname c hc))
    (fun hinteger => h.plain fun c hc =>
      isPlain_of_isDigit (Key.isDigit_of_isInteger hinteger c hc))
    h.quoted key

lemma number (h : Nests T I) (n : Number) : T n.text := by
  refine h.plain fun c hc => isPlain_of_isNumberChar ?_
  cases n with
  | int value => exact isNumberChar_of_mem_repr hc
  | real value => exact isNumberChar_of_mem_text hc

/-- The text of any JSON value, whatever its strings and keys are. -/
theorem compact (h : Nests T I) (json : Json) : T json.compact := by
  have hcomma : I "," := h.inside (h.known (by decide))
  induction json using Json.induction with
  | null => exact h.known (by decide)
  | bool b => cases b <;> exact h.known (by decide)
  | number n => exact h.number n
  | string s => exact h.quoted s
  | array items ih =>
    rw [Json.compact, compactItems_eq]
    exact h.square (h.inner.join hcomma fun item hitem => h.inside (ih item hitem))
  | object entries ih =>
    have hcolon : T ":" := h.known (by decide)
    rw [Json.compact, compactEntries_eq]
    refine h.braces (h.inner.join hcomma fun entry hentry => h.inside ?_)
    exact h.outer.append (h.outer.append (h.quoted entry.1) hcolon) (ih entry hentry)

lemma referenceName (h : Nests T I) (reference : String) : T (Schema.referenceName reference) := by
  rcases Schema.referenceName_cases reference with hunknown | hname
  · rw [hunknown]
    exact h.known (by decide)
  · exact h.typeName hname

/-- Every text in the type of a schema is a name, a keyword or a JSON value. -/
theorem texts_toType (h : Nests T I) (schema : Json) : (Schema.toType schema).Texts T T := by
  refine Schema.toType_induction (motive := TypeExpr.Texts T T) ?_ ?_ ?_ ?_ ?_ ?_ ?_ ?_ ?_ schema
  · exact fun text => .literal (h.referenceName text)
  · exact fun value => .literal (h.compact value)
  · intro type
    cases type <;> exact .literal (h.known (by decide))
  · exact .literal (h.known (by decide))
  · exact .literal (h.known (by decide))
  · exact fun _ hmembers => .union hmembers
  · exact fun _ hmembers => .intersection hmembers
  · exact fun _ hmembers => .object fun m hm => hmembers m (Keyed.mem_of_mem_gather hm)
  · exact fun _ hitem => .array hitem

end Nests

end Text

end ApiTypes
