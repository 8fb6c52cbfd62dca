import ApiTypes.Json.Pointer
import Mathlib.Data.List.Induction
import Mathlib.Tactic.Common
import Mathlib.Tactic.IntervalCases

/-!
What a pointer text says about the keys it stands for.

Writing a key as a token and reading the token gives the key back, and a token holds no slash. So a
pointer with one more token behind a slash has one more key, and a text that ends before a slash of
a pointer, or at its end, is a pointer to something around what the whole pointer names.
-/

namespace ApiTypes

namespace Text

lemma split_ne_nil (separator : Char) (cs : List Char) : split separator cs ≠ [] := by
  cases cs with
  | nil => simp [split]
  | cons c rest =>
    unfold split
    split
    · simp
    · split <;> simp

lemma split_append_cons (separator : Char) (cs ds : List Char) :
    split separator (cs ++ separator :: ds) = split separator cs ++ split separator ds := by
  induction cs with
  | nil => simp [split]
  | cons c rest ih =>
    by_cases hc : c = separator
    · simp [split, hc, ih]
    · obtain ⟨piece, pieces, h⟩ := List.exists_cons_of_ne_nil (split_ne_nil separator rest)
      simp [split, hc, ih, h]

lemma split_of_not_mem {separator : Char} {cs : List Char} (h : separator ∉ cs) :
    split separator cs = [cs] := by
  induction cs with
  | nil => rfl
  | cons c rest ih =>
    rw [List.mem_cons, not_or] at h
    simp [split, Ne.symm h.1, ih h.2]

/-- Piece by piece: a text without the separator, or a piece before one. -/
lemma split_induction (separator : Char) {motive : List Char → Prop}
    (last : ∀ piece, separator ∉ piece → motive piece)
    (more : ∀ piece rest, separator ∉ piece → motive rest → motive (piece ++ separator :: rest))
    (cs : List Char) : motive cs := by
  induction hn : cs.length using Nat.strongRecOn generalizing cs with
  | ind n ih =>
    by_cases h : separator ∈ cs
    · obtain ⟨piece, rest, rfl, hpiece⟩ := List.eq_append_cons_of_mem h
      have hshort : rest.length < n := by
        rw [← hn, List.length_append, List.length_cons]
        omega
      exact more piece rest hpiece (ih rest.length hshort rest rfl)
    · exact last cs h

lemma split_piece_append {separator : Char} {piece : List Char} (h : separator ∉ piece)
    (rest : List Char) :
    split separator (piece ++ separator :: rest) = piece :: split separator rest := by
  rw [split_append_cons, split_of_not_mem h, List.singleton_append]

lemma intercalate_split (separator : Char) (cs : List Char) :
    [separator].intercalate (split separator cs) = cs := by
  induction cs using split_induction separator with
  | last piece hpiece => simp [split_of_not_mem hpiece]
  | more piece rest hpiece ih =>
    obtain ⟨first, others, h⟩ := List.exists_cons_of_ne_nil (split_ne_nil separator rest)
    rw [split_piece_append hpiece]
    rw [h] at ih ⊢
    simp [List.intercalate_cons_cons, ih]

/-- The pieces tell the text. -/
lemma split_injective (separator : Char) : Function.Injective (split separator) :=
  Function.LeftInverse.injective (intercalate_split separator)

/-! ### Decimal digits -/

/-- One more digit on the right of a number. -/
def pushDigit (value : Option Nat) (c : Char) : Option Nat :=
  match value, hexDigit? c with
  | some n, some d => if d < 10 then some (n * 10 + d) else none
  | _, _ => none

lemma ofDigits?_eq_foldl {cs : List Char} (h : cs ≠ []) :
    ofDigits? 10 cs = cs.foldl pushDigit (some 0) := by
  unfold ofDigits?
  rw [if_neg (by simpa using h)]
  rfl

lemma pushDigit_digitChar (n : Nat) {d : Nat} (h : d < 10) :
    pushDigit (some n) d.digitChar = some (n * 10 + d) := by
  have hd : hexDigit? d.digitChar = some d := by interval_cases d <;> rfl
  simp [pushDigit, hd, h]

lemma foldl_toDigits (n : Nat) : (Nat.toDigits 10 n).foldl pushDigit (some 0) = some n := by
  induction n using Nat.strongRecOn with
  | ind n ih =>
    rw [Nat.toDigits_eq_if (by omega)]
    split
    · next h => simpa using pushDigit_digitChar 0 h
    · next h =>
      rw [List.foldl_append, ih (n / 10) (by omega)]
      have := pushDigit_digitChar (n / 10) (Nat.mod_lt n (by omega : 10 > 0))
      simp only [List.foldl_cons, List.foldl_nil, this]
      congr 1
      omega

lemma ofDigits?_toDigits (n : Nat) : ofDigits? 10 (Nat.toDigits 10 n) = some n := by
  rw [ofDigits?_eq_foldl Nat.toDigits_ne_nil, foldl_toDigits]

/-- Only zero is written with a leading zero. -/
lemma eq_zero_of_toDigits_head {n : Nat} (h : (Nat.toDigits 10 n).head? = some '0') : n = 0 := by
  induction n using Nat.strongRecOn with
  | ind n ih =>
    rw [Nat.toDigits_eq_if (by omega)] at h
    split at h
    · next hn => interval_cases n <;> simp_all [Nat.digitChar]
    · next hn =>
      rw [List.head?_append, Option.or_of_isSome (by simp [Nat.toDigits_ne_nil])] at h
      have := ih (n / 10) (by omega) h
      omega

lemma eq_digitChar_of_hexDigit? {c : Char} {d : Nat} (h : hexDigit? c = some d) (hd : d < 10) :
    c = d.digitChar := by
  unfold hexDigit? at h
  split at h
  · next hc =>
    have hlow : '0'.toNat ≤ c.toNat := hc.1
    have hval : c.toNat - '0'.toNat = d := Option.some.inj h
    have hcode : c.toNat = 48 + d := by
      have : '0'.toNat = 48 := rfl
      omega
    rw [← Char.ofNat_toNat c, hcode]
    interval_cases d <;> rfl
  · split at h
    · cases h
      omega
    · split at h
      · cases h
        omega
      · cases h

lemma exists_of_pushDigit {value : Option Nat} {c : Char} {n : Nat}
    (h : pushDigit value c = some n) :
    ∃ m d, value = some m ∧ d < 10 ∧ c = d.digitChar ∧ n = m * 10 + d := by
  unfold pushDigit at h
  split at h
  · next m d hd =>
    split at h
    · next hlt =>
      cases h
      exact ⟨m, d, rfl, hlt, eq_digitChar_of_hexDigit? hd hlt, rfl⟩
    · cases h
  · cases h

/-- Digits without a leading zero are the digits of their value. -/
lemma eq_toDigits_of_foldl {cs : List Char} {n : Nat} (hne : cs ≠ [])
    (hzero : ∀ c rest, cs ≠ '0' :: c :: rest) (h : cs.foldl pushDigit (some 0) = some n) :
    cs = Nat.toDigits 10 n := by
  induction cs using List.reverseRecOn generalizing n with
  | nil => exact absurd rfl hne
  | append_singleton front c ih =>
    rw [List.foldl_append, List.foldl_cons, List.foldl_nil] at h
    obtain ⟨m, d, hm, hlt, rfl, rfl⟩ := exists_of_pushDigit h
    cases front with
    | nil =>
      cases hm
      rw [Nat.toDigits_eq_if (by omega), if_pos (by omega)]
      simp
    | cons first rest =>
      have hfront : first :: rest = Nat.toDigits 10 m := by
        refine ih (by simp) (fun c rest' heq => hzero c (rest' ++ [d.digitChar]) ?_) hm
        rw [heq]
        rfl
      have hpos : m ≠ 0 := by
        rintro rfl
        cases hfront
        exact hzero _ [] rfl
      have hdiv : (m * 10 + d) / 10 = m := by omega
      have hmod : (m * 10 + d) % 10 = d := by omega
      rw [Nat.toDigits_eq_if (by omega), if_neg (by omega), hdiv, hmod, hfront]

end Text

namespace Json

/-! ### Tokens -/

lemma unescape_cons {c : Char} (h : c ≠ '~') (rest : List Char) :
    unescape (c :: rest) = c :: unescape rest := by
  rw [unescape]
  · intro r hr
    simp_all
  · intro r hr
    simp_all

lemma unescape_flatMap (cs : List Char) : unescape (cs.flatMap escapeChar) = cs := by
  induction cs with
  | nil => rfl
  | cons c rest ih =>
    rw [List.flatMap_cons]
    by_cases htilde : c = '~'
    · subst htilde
      simpa [escapeChar, unescape] using ih
    · by_cases hslash : c = '/'
      · subst hslash
        simpa [escapeChar, unescape] using ih
      · simp [escapeChar, htilde, hslash, unescape_cons, ih]

lemma unescape_of_not_mem {cs : List Char} (h : '~' ∉ cs) : unescape cs = cs := by
  induction cs with
  | nil => rfl
  | cons c rest ih =>
    rw [List.mem_cons, not_or] at h
    rw [unescape_cons (Ne.symm h.1), ih h.2]

@[simp] lemma unescapeToken_escapeToken (key : String) :
    unescapeToken (escapeToken key).toList = key := by
  simp [unescapeToken, escapeToken, unescape_flatMap]

lemma slash_notMem_escapeToken (key : String) : '/' ∉ (escapeToken key).toList := by
  intro h
  rw [escapeToken, String.toList_ofList, List.mem_flatMap] at h
  obtain ⟨c, -, hc⟩ := h
  unfold escapeChar at hc
  split at hc
  · simp at hc
  · split at hc
    · simp at hc
    · next hslash => exact hslash (List.mem_singleton.mp hc).symm

lemma isDigit_of_mem_repr {n : Nat} {c : Char} (h : c ∈ n.repr.toList) : c.isDigit := by
  rw [Nat.toList_repr] at h
  exact Nat.isDigit_of_mem_toDigits (by omega) (by omega) h

@[simp] lemma unescapeToken_repr (n : Nat) : unescapeToken n.repr.toList = n.repr := by
  have h : '~' ∉ n.repr.toList := fun hm => absurd (isDigit_of_mem_repr hm) (by decide)
  rw [unescapeToken, unescape_of_not_mem h, String.ofList_toList]

lemma slash_notMem_repr (n : Nat) : '/' ∉ n.repr.toList :=
  fun hm => absurd (isDigit_of_mem_repr hm) (by decide)

@[simp] lemma tokenIndex?_repr (n : Nat) : tokenIndex? n.repr = some n := by
  unfold tokenIndex?
  rw [Nat.toList_repr]
  split
  · next d rest h =>
    have hn : n = 0 := Text.eq_zero_of_toDigits_head (by rw [h]; rfl)
    subst hn
    simp at h
  · exact Text.ofDigits?_toDigits n

lemma eq_repr_of_tokenIndex? {token : String} {n : Nat} (h : tokenIndex? token = some n) :
    token = n.repr := by
  unfold tokenIndex? at h
  split at h
  · cases h
  · next hzero =>
    have hne : token.toList ≠ [] := by
      intro hnil
      rw [hnil] at h
      cases h
    rw [Text.ofDigits?_eq_foldl hne] at h
    rw [← String.toList_inj, Nat.toList_repr]
    exact Text.eq_toDigits_of_foldl hne (fun c rest heq => hzero c rest heq) h

/-! ### Pointers -/

lemma pointerKeys?_push {location token : String} {keys : List String}
    (h : pointerKeys? location = some keys) (ht : '/' ∉ token.toList) :
    pointerKeys? (location ++ "/" ++ token) = some (keys ++ [unescapeToken token.toList]) := by
  unfold pointerKeys? at h ⊢
  have hl : (location ++ "/" ++ token).toList = location.toList ++ '/' :: token.toList := by
    simp
  rw [hl]
  split at h
  · next hnil =>
    cases h
    rw [hnil, List.nil_append]
    simp [Text.split_of_not_mem ht]
  · next rest hcons =>
    cases h
    rw [hcons, List.cons_append]
    simp only
    rw [Text.split_append_cons, Text.split_of_not_mem ht, List.map_append]
    rfl
  · cases h

lemma descend?_append (keys more : List String) (json : Json) :
    descend? (keys ++ more) json = (descend? keys json).bind (descend? more) := by
  induction keys generalizing json with
  | nil => rfl
  | cons key rest ih =>
    simp only [List.cons_append, descend?]
    cases child? key json with
    | none => rfl
    | some child => exact ih child

lemma descend?_push {keys : List String} {key : String} {json node child : Json}
    (h : descend? keys json = some node) (hc : child? key node = some child) :
    descend? (keys ++ [key]) json = some child := by
  rw [descend?_append, h]
  simp [descend?, hc]

end Json

end ApiTypes
