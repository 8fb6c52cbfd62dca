import ApiTypes.Json.Printer
import Mathlib.Tactic.Common

/-!
How the text of a value begins.

The first character tells what kind of value was written: a quote, a bracket, a brace, a minus sign
or digit, or the first letter of one of three words.
-/

namespace ApiTypes

lemma exists_toDigits_cons (n : Nat) :
    ∃ c rest, Nat.toDigits 10 n = c :: rest ∧ c.isDigit = true := by
  obtain ⟨c, rest, h⟩ := List.exists_cons_of_ne_nil (Nat.toDigits_ne_nil (n := n) (b := 10))
  refine ⟨c, rest, h, Nat.isDigit_of_mem_toDigits (b := 10) (n := n) (by omega) (by omega) ?_⟩
  rw [h]
  exact List.mem_cons_self

namespace Double

/-- A text that starts with a digit. -/
def StartsWithDigit (cs : List Char) : Prop := ∃ c rest, cs = c :: rest ∧ c.isDigit = true

lemma StartsWithDigit.append {cs : List Char} (h : StartsWithDigit cs) (ds : List Char) :
    StartsWithDigit (cs ++ ds) := by
  obtain ⟨c, rest, rfl, hc⟩ := h
  exact ⟨c, rest ++ ds, rfl, hc⟩

lemma startsWithDigit_pointedDigits {digits : List Char} (h : StartsWithDigit digits) :
    StartsWithDigit (pointedDigits digits) := by
  obtain ⟨c, rest, rfl, hc⟩ := h
  cases rest with
  | nil => exact ⟨c, [], rfl, hc⟩
  | cons d rest => exact ⟨c, '.' :: d :: rest, rfl, hc⟩

lemma startsWithDigit_placedDigits {digits : List Char} (h : StartsWithDigit digits)
    (point : Int) : StartsWithDigit (placedDigits digits point) := by
  unfold placedDigits
  split
  · exact ⟨'0', _, rfl, by decide⟩
  · next hpoint =>
    split
    · rw [List.append_assoc]
      exact h.append _
    · obtain ⟨c, rest, rfl, hc⟩ := h
      obtain ⟨k, hk⟩ : ∃ k, point.toNat = k + 1 := ⟨point.toNat - 1, by omega⟩
      rw [hk, List.take_succ_cons]
      exact ⟨c, _, rfl, hc⟩

lemma exists_text_cons (layout : Layout) (d : Double) :
    ∃ c rest, (layout.text d).toList = c :: rest ∧ (c = '-' ∨ c.isDigit = true) := by
  -- All three layouts put the sign in front of a text that starts with a digit.
  have hsign : ∀ body : List Char, StartsWithDigit body →
      ∃ c rest, (if d.negative then "-" else "").toList ++ body = c :: rest ∧
        (c = '-' ∨ c.isDigit = true) := by
    rintro body ⟨c, rest, rfl, hc⟩
    cases d.negative with
    | true => exact ⟨'-', c :: rest, rfl, Or.inl rfl⟩
    | false => exact ⟨c, rest, rfl, Or.inr hc⟩
  have hdigits : StartsWithDigit (Nat.toDigits 10 d.shortest.digits) := exists_toDigits_cons _
  unfold Layout.text
  simp only
  split
  · rw [String.toList_append]
    exact hsign _ ⟨'0', ['.', '0'], rfl, by decide⟩
  · split
    · rw [String.toList_append, String.toList_append, String.toList_ofList, List.append_assoc]
      exact hsign _ ((startsWithDigit_pointedDigits hdigits).append _)
    · rw [String.toList_append, String.toList_ofList]
      exact hsign _ (startsWithDigit_placedDigits hdigits _)

end Double

lemma Number.exists_text_cons (n : Number) :
    ∃ c rest, n.text.toList = c :: rest ∧ (c = '-' ∨ c.isDigit = true) := by
  cases n with
  | int value =>
    cases value with
    | ofNat k =>
      obtain ⟨c, rest, h, hc⟩ := exists_toDigits_cons k
      exact ⟨c, rest, by rw [← h, ← Nat.toList_repr]; rfl, Or.inr hc⟩
    | negSucc k => exact ⟨'-', (k + 1).repr.toList, by simp [Number.text, Int.repr], Or.inl rfl⟩
  | real value => exact Double.exists_text_cons Number.layout value

namespace Json

/-- A character that the text of the value may start with. -/
def Begins : Json → Char → Prop
  | .null, c => c = 'n'
  | .bool _, c => c = 't' ∨ c = 'f'
  | .number _, c => c = '-' ∨ c.isDigit = true
  | .string _, c => c = '"'
  | .array _, c => c = '['
  | .object _, c => c = '{'

lemma exists_compact_cons (json : Json) :
    ∃ c rest, json.compact.toList = c :: rest ∧ json.Begins c := by
  cases json with
  | null => exact ⟨'n', ['u', 'l', 'l'], rfl, rfl⟩
  | bool b =>
    cases b with
    | true => exact ⟨'t', ['r', 'u', 'e'], rfl, Or.inl rfl⟩
    | false => exact ⟨'f', ['a', 'l', 's', 'e'], rfl, Or.inr rfl⟩
  | number n => exact n.exists_text_cons
  | string s => exact ⟨'"', _, by rw [compact, quote, String.toList_ofList]; rfl, rfl⟩
  | array items =>
    exact ⟨'[', _, by rw [compact, String.append_assoc, String.toList_append]; rfl, rfl⟩
  | object entries =>
    exact ⟨'{', _, by rw [compact, Text.inBraces, String.append_assoc, String.toList_append]; rfl,
      rfl⟩

end Json

end ApiTypes
