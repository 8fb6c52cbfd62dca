import ApiTypes.Proofs.Json.Pointer

/-!
Tokens by rounds of replacing.

A key becomes a token when every tilde is replaced and then every slash, and a token is read by
replacing in the other order: first what stands for a slash, then what stands for a tilde. The order
matters, since `~01` stands for `~1` and not for a slash. Both pairs of rounds come to the same as
one pass over the text, whatever tildes stand in it.
-/

namespace ApiTypes

namespace Text

/-- The text with every occurrence of a pattern replaced, from the left and without overlaps. The
pattern is a character and what follows it. -/
def replaceAll (first : Char) (more new : List Char) : List Char → List Char
  | [] => []
  | c :: cs =>
    if c = first ∧ more <+: cs then new ++ replaceAll first more new (cs.drop more.length)
    else c :: replaceAll first more new cs
termination_by cs => cs.length
decreasing_by all_goals (simp only [List.length_cons, List.length_drop]; omega)

variable {first : Char} {more new : List Char}

@[simp] lemma replaceAll_nil : replaceAll first more new [] = [] := by
  rw [replaceAll]

lemma replaceAll_match (first : Char) (more new cs : List Char) :
    replaceAll first more new (first :: (more ++ cs)) = new ++ replaceAll first more new cs := by
  rw [replaceAll, if_pos ⟨rfl, List.prefix_append more cs⟩, List.drop_left]

lemma replaceAll_other {c : Char} {cs : List Char} (h : ¬ (c = first ∧ more <+: cs)) :
    replaceAll first more new (c :: cs) = c :: replaceAll first more new cs := by
  rw [replaceAll, if_neg h]

/-- A pattern of one character is replaced wherever it stands. -/
lemma replaceAll_char (cs : List Char) :
    replaceAll first [] new cs = cs.flatMap fun c => if c = first then new else [c] := by
  induction cs with
  | nil => simp
  | cons c cs ih =>
    rw [List.flatMap_cons, ← ih]
    by_cases hc : c = first
    · subst hc
      rw [if_pos rfl]
      exact replaceAll_match c [] new cs
    · rw [if_neg hc, replaceAll_other fun h => hc h.1]
      rfl

end Text

namespace Json

open Text

lemma escapeChar_eq (c : Char) : escapeChar c =
    (if c = '~' then ['~', '0'] else [c]).flatMap fun d => if d = '/' then ['~', '1'] else [d] := by
  unfold escapeChar
  by_cases htilde : c = '~'
  · simp [htilde]
  · by_cases hslash : c = '/' <;> simp [htilde, hslash]

/-- A key is written by replacing every tilde, and then every slash. -/
lemma toList_escapeToken (key : String) : (escapeToken key).toList =
    replaceAll '/' [] ['~', '1'] (replaceAll '~' [] ['~', '0'] key.toList) := by
  rw [escapeToken, String.toList_ofList, replaceAll_char, replaceAll_char, List.flatMap_assoc]
  exact congrArg (key.toList.flatMap ·) (funext escapeChar_eq)

/-- The first round of reading makes no zero that was not there. -/
lemma zero_of_replaceAll_slash {cs : List Char}
    (h : ['0'] <+: replaceAll '~' ['1'] ['/'] cs) : ['0'] <+: cs := by
  cases cs with
  | nil => simp at h
  | cons c cs =>
    rw [replaceAll] at h
    split at h
    · simp at h
    · simpa using h

/-- A token is read by replacing what stands for a slash, and then what stands for a tilde. -/
lemma unescape_eq_replaceAll (token : List Char) :
    unescape token = replaceAll '~' ['0'] ['~'] (replaceAll '~' ['1'] ['/'] token) := by
  fun_induction unescape token with
  | case1 => simp
  | case2 rest ih =>
    have hzero : replaceAll '~' ['1'] ['/'] ('~' :: '0' :: rest) =
        '~' :: '0' :: replaceAll '~' ['1'] ['/'] rest := by
      rw [replaceAll_other (by simp), replaceAll_other (by simp)]
    rw [hzero, ih]
    exact (replaceAll_match '~' ['0'] ['~'] _).symm
  | case3 rest ih =>
    have hone : replaceAll '~' ['1'] ['/'] ('~' :: '1' :: rest) =
        '/' :: replaceAll '~' ['1'] ['/'] rest :=
      replaceAll_match '~' ['1'] ['/'] rest
    rw [hone, replaceAll_other (by simp), ih]
  | case4 c rest hzero hone ih =>
    -- a tilde that stands for itself: neither a zero nor a one follows, before or after the round
    have hslash : ¬ (c = '~' ∧ ['1'] <+: rest) := by
      rintro ⟨rfl, tail, rfl⟩
      exact hone tail rfl rfl
    have htilde : ¬ (c = '~' ∧ ['0'] <+: replaceAll '~' ['1'] ['/'] rest) := by
      rintro ⟨rfl, h⟩
      obtain ⟨tail, rfl⟩ := zero_of_replaceAll_slash h
      exact hzero tail rfl rfl
    rw [replaceAll_other hslash, replaceAll_other htilde, ih]

end Json

end ApiTypes
