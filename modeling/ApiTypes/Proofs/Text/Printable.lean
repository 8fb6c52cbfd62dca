import ApiTypes.Proofs.Text.Nesting

/-!
Texts without control characters.

Strings, numbers and JSON values are written without any, whatever they hold, and so are names and
keys. Lines are ended by control characters, so all these texts stand on one line.
-/

namespace ApiTypes.Text

/-- Every character of the text is as `S` says. -/
def Within (S : Char → Prop) (text : String) : Prop := ∀ c ∈ text.toList, S c

variable {S : Char → Prop} {a b text : String}

lemma within_empty : Within S "" := by simp [Within]

lemma Within.append (ha : Within S a) (hb : Within S b) : Within S (a ++ b) := by
  intro c hc
  rcases List.mem_append.mp (String.toList_append ▸ hc) with hc | hc
  · exact ha c hc
  · exact hb c hc

lemma Within.imp {T : Char → Prop} (hST : ∀ c, S c → T c) (h : Within S text) : Within T text :=
  fun c hc => hST c (h c hc)

/-- A test for texts that are known. -/
lemma printable_of_all (h : text.toList.all (fun c => IsPrintable c) = true) :
    Within IsPrintable text :=
  fun c hc => of_decide_eq_true (List.all_eq_true.mp h c hc)

lemma isPrintable_of_mem_quoteChar {c d : Char} (h : d ∈ Json.quoteChar c) : IsPrintable d := by
  induction c using Json.quoteChar_cases with
  | control n hn =>
    have hcontrol : ∀ n < 32,
        (Json.quoteChar (Char.ofNat n)).all (fun c => IsPrintable c) = true := by
      decide +kernel
    exact of_decide_eq_true (List.all_eq_true.mp (hcontrol n hn) d h)
  | quote =>
    have hd : d = '\\' ∨ d = '"' := by simpa [Json.quoteChar] using h
    rcases hd with rfl | rfl <;> decide
  | backslash =>
    have hd : d = '\\' := by simpa [Json.quoteChar] using h
    rw [hd]
    decide
  | plain c _ _ hc heq =>
    rw [heq, List.mem_singleton] at h
    exact h ▸ hc

lemma printable_quote (text : String) : Within IsPrintable (Json.quote text) := by
  have hmark : IsPrintable '"' := by decide
  intro c hc
  rw [Json.quote, String.toList_ofList, List.mem_append, List.mem_cons] at hc
  rcases hc with (rfl | hc) | hc
  · exact hmark
  · obtain ⟨d, -, hd⟩ := List.mem_flatMap.mp hc
    exact isPrintable_of_mem_quoteChar hd
  · exact List.mem_singleton.mp hc ▸ hmark

lemma nests_printable : Nests (Within IsPrintable) (Within IsPrintable) where
  outer := ⟨within_empty, Within.append⟩
  inner := ⟨within_empty, Within.append⟩
  inside h := h
  plain h := fun c hc => (h c hc).1
  quoted := printable_quote
  square h := ((printable_of_all (by decide)).append h).append (printable_of_all (by decide))
  braces h := ((printable_of_all (by decide)).append h).append (printable_of_all (by decide))

end ApiTypes.Text
