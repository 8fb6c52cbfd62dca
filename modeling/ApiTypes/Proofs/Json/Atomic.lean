import ApiTypes.Proofs.Json.Pointer
import ApiTypes.Proofs.Json.Printer
import ApiTypes.Proofs.Json.Quote

/-!
Atomic values are told by their text.

No two values share the text of a null, a truth value, a string or an integer. The first character
tells the kind of value; quoting can be undone; and a floating point number has a point or an
exponent in its text, which an integer has not.
-/

namespace ApiTypes

/-! ### Numbers -/

lemma Double.point_mem_placedDigits (digits : List Char) (point : Int) :
    '.' ∈ placedDigits digits point := by
  unfold placedDigits
  split
  · simp
  · split <;> simp

lemma Double.point_or_exponent_mem_text (layout : Layout) (d : Double) :
    '.' ∈ (layout.text d).toList ∨ 'e' ∈ (layout.text d).toList := by
  unfold Layout.text
  simp only
  split
  · exact Or.inl (by simp)
  · split
    · -- scientific: the exponent has its letter, with or without a sign
      right
      rw [String.toList_append, List.mem_append]
      right
      unfold Layout.exponentText
      split <;> simp
    · left
      rw [String.toList_append, List.mem_append, String.toList_ofList]
      exact Or.inr (point_mem_placedDigits _ _)

lemma isDigit_or_minus_of_mem_repr {n : Int} {c : Char} (h : c ∈ n.repr.toList) :
    c.isDigit = true ∨ c = '-' := by
  rw [Int.repr_eq_if] at h
  split at h
  · exact Or.inl (Json.isDigit_of_mem_repr h)
  · rw [String.toList_append, List.mem_append] at h
    rcases h with h | h
    · exact Or.inr (by simpa using h)
    · exact Or.inl (Json.isDigit_of_mem_repr h)

lemma minus_notMem_repr (n : Nat) : '-' ∉ n.repr.toList :=
  fun h => absurd (Json.isDigit_of_mem_repr h) (by decide)

/-- The minus sign tells the sign of a number, and the digits tell its size. -/
lemma repr_injective : Function.Injective Int.repr := by
  have hnat : Function.Injective Nat.repr := by
    intro k l h
    have hk := Json.tokenIndex?_repr k
    rw [h, Json.tokenIndex?_repr] at hk
    exact (Option.some.inj hk).symm
  intro m n h
  rw [Int.repr_eq_if, Int.repr_eq_if] at h
  split at h <;> split at h
  · have := hnat h
    omega
  · exact absurd (by rw [h]; simp) (minus_notMem_repr m.toNat)
  · exact absurd (by rw [← h]; simp) (minus_notMem_repr n.toNat)
  · have := hnat ((String.append_right_inj _).mp h)
    omega

/-- Only an integer has the text of an integer. -/
lemma Number.eq_of_text_eq {m : Number} {n : Int} (h : m.text = (Number.int n).text) :
    m = .int n := by
  cases m with
  | int value => rw [repr_injective h]
  | real value =>
    have hmark := Double.point_or_exponent_mem_text Number.layout value
    have htext : Number.layout.text value = n.repr := h
    rw [htext] at hmark
    rcases hmark with hmark | hmark
    · exact absurd (isDigit_or_minus_of_mem_repr hmark) (by decide)
    · exact absurd (isDigit_or_minus_of_mem_repr hmark) (by decide)

namespace Json

/-! ### Strings -/

lemma quote_injective : Function.Injective quote := by
  intro s t h
  rw [quote, quote, String.ofList_inj, List.cons_append, List.cons_append] at h
  have hbody := congrArg (Parser.stringBody []) (List.cons.inj h).2
  rw [stringBody_flatMap_quoteChar, stringBody_flatMap_quoteChar, Option.some.injEq,
    Prod.mk.injEq, String.ofList_inj] at hbody
  exact String.toList_injective hbody.1

/-! ### Atomic values -/

/-- Null, a truth value, a string or an integer. -/
def isAtomic : Json → Bool
  | .null => true
  | .bool _ => true
  | .string _ => true
  | .number (.int _) => true
  | _ => false

lemma exists_begins_of_compact_eq {v w : Json} (h : w.compact = v.compact) :
    ∃ c, w.Begins c ∧ v.Begins c := by
  obtain ⟨c, rest, hw, hc⟩ := w.exists_compact_cons
  obtain ⟨d, rest', hv, hd⟩ := v.exists_compact_cons
  rw [h, hv] at hw
  cases hw
  exact ⟨c, hc, hd⟩

lemma eq_of_compact_eq {v w : Json} (hv : v.isAtomic = true) (h : w.compact = v.compact) :
    w = v := by
  obtain ⟨c, hw, hc⟩ := exists_begins_of_compact_eq h
  cases v with
  | null =>
    cases hc
    cases w with
    | null => rfl
    | _ => simp [Begins] at hw
  | bool b =>
    cases w with
    | bool b' => cases b <;> cases b' <;> first | rfl | exact absurd h (by decide)
    | _ => rcases hc with rfl | rfl <;> simp [Begins] at hw
  | string s =>
    cases hc
    cases w with
    | string t => rw [quote_injective h]
    | _ => simp [Begins] at hw
  | number n =>
    cases n with
    | real d => cases hv
    | int n =>
      cases w with
      | number m => rw [Number.eq_of_text_eq h]
      | bool b => rcases hw with rfl | rfl <;> simp [Begins] at hc
      | _ =>
        cases hw
        simp [Begins] at hc
  | array items => cases hv
  | object entries => cases hv

end Json

end ApiTypes
