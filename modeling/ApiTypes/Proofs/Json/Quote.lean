import ApiTypes.Json.Parser
import ApiTypes.Json.Printer
import Mathlib.Tactic.IntervalCases

/-!
Quoted strings are read back.

A control character has an escape of one letter or one of four hexadecimal digits; the quote and the
backslash have a backslash in front; every other character stands for itself.
-/

namespace ApiTypes.Json

open ApiTypes.Json.Parser

variable {read rest : List Char} {c : Char}

lemma quoteChar_plain (hquote : c ≠ '"') (hslash : c ≠ '\\') (hc : 32 ≤ c.toNat) :
    quoteChar c = [c] := by
  have hne : ∀ d : Char, d.toNat < 32 → c ≠ d := by
    rintro d hd rfl
    omega
  unfold quoteChar
  rw [if_neg hquote, if_neg hslash, if_neg (hne _ (by decide)), if_neg (hne _ (by decide)),
    if_neg (hne _ (by decide)), if_neg (by omega), if_neg (by omega), if_neg (by omega),
    if_neg (by omega)]

/-- The characters by how they are written. -/
lemma quoteChar_cases {motive : Char → Prop}
    (control : ∀ n < 32, motive (Char.ofNat n)) (quote : motive '"') (backslash : motive '\\')
    (plain : ∀ c, c ≠ '"' → c ≠ '\\' → 32 ≤ c.toNat → quoteChar c = [c] → motive c)
    (c : Char) : motive c := by
  rcases Nat.lt_or_ge c.toNat 32 with hc | hc
  · rw [← Char.ofNat_toNat c]
    exact control c.toNat hc
  · by_cases hquote : c = '"'
    · exact hquote ▸ quote
    · by_cases hslash : c = '\\'
      · exact hslash ▸ backslash
      · exact plain c hquote hslash hc (quoteChar_plain hquote hslash hc)

lemma stringBody_unicode {a b c d ch : Char} {n : Nat} (h : hex4? a b c d = some n)
    (hn : n < 0xD800) (hch : Text.char? n = some ch) :
    stringBody read ('\\' :: 'u' :: a :: b :: c :: d :: rest) = stringBody (ch :: read) rest := by
  rw [stringBody]
  simp only [h, hch]
  rw [if_neg (by omega)]

lemma stringBody_quoteChar (c : Char) :
    stringBody read (quoteChar c ++ rest) = stringBody (c :: read) rest := by
  induction c using quoteChar_cases with
  | control n hn =>
    interval_cases n <;> first
      | rfl
      | exact stringBody_unicode rfl (by decide) rfl
  | quote => rfl
  | backslash => rfl
  | plain c hquote hslash hc heq =>
    rw [heq, List.singleton_append, stringBody.eq_def]
    split <;> simp_all

theorem stringBody_flatMap_quoteChar (read cs rest : List Char) :
    stringBody read (cs.flatMap quoteChar ++ '"' :: rest) =
      some (String.ofList (read.reverse ++ cs), rest) := by
  induction cs generalizing read with
  | nil => simp [stringBody]
  | cons c cs ih =>
    rw [List.flatMap_cons, List.append_assoc, stringBody_quoteChar, ih]
    simp

end ApiTypes.Json
