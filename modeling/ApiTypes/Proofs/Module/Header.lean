import ApiTypes.Module.Combine
import ApiTypes.Proofs.Text.Lines

/-!
The header and the body of a module.

A header line at the beginning of a module adds to its imports and leaves its body as it is, so the
byte at which the body is cut off always stands at the beginning of a line. The body of a module
without carriage returns is what is left of its lines, and no header is found in front of it.
-/

namespace ApiTypes

open Text (lines unlines trimEnd bytes dropBytes?)

namespace Combine

variable {cs line : List Char}

/-! ### Lines of the header -/

/-- A line that may stand in the header of a module, read the way it is written. -/
structure Heads (line : List Char) : Prop where
  isHeader : isHeaderLine line = true
  noFeed : '\n' ∉ line
  noReturn : '\r' ∉ line

lemma heads_nil : Heads [] := ⟨rfl, by simp, by simp⟩

lemma Heads.header_append (h : Heads line) (rest : List Char) :
    header (line ++ '\n' :: rest) = line :: header rest := by
  rw [header, Text.lines_line_append h.noFeed h.noReturn, List.takeWhile_cons, if_pos h.isHeader]
  rfl

lemma Heads.imports_append (h : Heads line) (rest : List Char) :
    imports (line ++ '\n' :: rest) = [line].filter (fun l => !l.isEmpty) ++ imports rest := by
  rw [imports, h.header_append, ← List.singleton_append, List.filter_append]
  rfl

/-- The line and the end of it are as many bytes as are counted for it. -/
lemma Heads.body_append (h : Heads line) (rest : List Char) :
    body (line ++ '\n' :: rest) = body rest := by
  have htext : line ++ '\n' :: rest = (line ++ ['\n']) ++ rest := List.append_cons line '\n' rest
  have hbytes : headerBytes (line ++ '\n' :: rest) = bytes (line ++ ['\n']) + headerBytes rest := by
    rw [headerBytes, h.header_append, List.foldr_cons, Text.bytes_append]
    rfl
  rw [body, hbytes, htext, Text.dropBytes?_bytes_add]
  rfl

lemma imports_unlines_append {ls : List (List Char)} (h : ∀ line ∈ ls, Heads line)
    (rest : List Char) :
    imports (unlines ls ++ rest) = ls.filter (fun l => !l.isEmpty) ++ imports rest := by
  induction ls with
  | nil => rfl
  | cons line ls ih =>
    rw [List.forall_mem_cons] at h
    rw [Text.unlines_cons, List.append_assoc, List.cons_append, h.1.imports_append, ih h.2,
      ← List.append_assoc, ← List.filter_append, List.singleton_append]

lemma body_unlines_append {ls : List (List Char)} (h : ∀ line ∈ ls, Heads line)
    (rest : List Char) : body (unlines ls ++ rest) = body rest := by
  induction ls with
  | nil => rfl
  | cons line ls ih =>
    rw [List.forall_mem_cons] at h
    rw [Text.unlines_cons, List.append_assoc, List.cons_append, h.1.body_append, ih h.2]

lemma body_of_header_eq_nil (h : header cs = []) : body cs = trimEnd cs := by
  rw [body, headerBytes, h, List.foldr_nil, Text.dropBytes?_zero, Option.getD_some]

/-! ### Where a body begins -/

/-- The text neither begins with an empty line nor with an import. -/
def OpensBody (cs : List Char) : Prop := ¬ ['\n'] <+: cs ∧ ¬ importWord <+: cs

lemma OpensBody.of_isPrefix {ds : List Char} (h : OpensBody cs) (hds : ds <+: cs) :
    OpensBody ds :=
  ⟨fun hfeed => h.1 (hfeed.trans hds), fun hword => h.2 (hword.trans hds)⟩

lemma importWord_noFeed : '\n' ∉ importWord := by decide

/-- The word that starts an import stands on one line. -/
lemma importWord_isPrefix_of_append {rest : List Char} (h : importWord <+: cs ++ '\n' :: rest) :
    importWord <+: cs := by
  have hline : cs ++ ['\n'] <+: cs ++ '\n' :: rest :=
    List.append_cons cs '\n' rest ▸ List.prefix_append (cs ++ ['\n']) rest
  rcases List.prefix_or_prefix_of_prefix h hline with hword | hword
  · rcases List.prefix_concat_iff.mp hword with heq | hword
    · exact absurd (heq ▸ List.mem_append_right cs List.mem_cons_self) importWord_noFeed
    · exact hword
  · exact absurd (hword.subset (List.mem_append_right cs List.mem_cons_self)) importWord_noFeed

lemma not_feed_isPrefix (hne : cs ≠ []) (rest : List Char) :
    ['\n'] <+: cs ++ rest ↔ ['\n'] <+: cs := by
  obtain ⟨c, cs, rfl⟩ := List.exists_cons_of_ne_nil hne
  simp

/-- What follows the first line does not matter. -/
lemma OpensBody.append_feed (hne : cs ≠ []) (h : OpensBody cs) (rest : List Char) :
    OpensBody (cs ++ '\n' :: rest) :=
  ⟨fun hfeed => h.1 ((not_feed_isPrefix hne _).mp hfeed),
    fun hword => h.2 (importWord_isPrefix_of_append hword)⟩

lemma opensBody_of_not_isHeaderLine (h : isHeaderLine line = false) (hfeed : '\n' ∉ line) :
    OpensBody line := by
  rw [isHeaderLine, Bool.or_eq_false_iff] at h
  refine ⟨fun hstart => hfeed (hstart.subset List.mem_cons_self), fun hword => ?_⟩
  rw [List.isPrefixOf_iff_prefix.mpr hword] at h
  exact absurd h.2 (by decide)

/-- A text that opens a body has no header. -/
lemma OpensBody.header_eq_nil {c : Char} (h : OpensBody (c :: cs)) (hreturn : c ≠ '\r') :
    header (c :: cs) = [] := by
  have hfeed : c ≠ '\n' := by
    rintro rfl
    exact h.1 (List.prefix_append ['\n'] cs)
  obtain ⟨line, ls, hlines, hstart⟩ := Text.exists_lines_cons hfeed hreturn cs
  have hword : importWord.isPrefixOf (c :: line) = false := by
    rw [Bool.eq_false_iff, Ne, List.isPrefixOf_iff_prefix]
    exact fun hword => h.2 (hword.trans hstart)
  rw [header, hlines, List.takeWhile_cons, isHeaderLine, hword]
  rfl

/-! ### Modules without carriage returns -/

/-- What is left of the lines of a module behind its header, as a text. -/
def bodyOfLines (ls : List (List Char)) : List Char := trimEnd (unlines (ls.dropWhile isHeaderLine))

lemma bodyOfLines_cons_of_header (h : isHeaderLine line = true) (ls : List (List Char)) :
    bodyOfLines (line :: ls) = bodyOfLines ls := by
  rw [bodyOfLines, List.dropWhile_cons_of_pos h]
  rfl

/-- The bytes of the header end where its lines do. -/
lemma body_eq_bodyOfLines (h : '\r' ∉ cs) : body cs = bodyOfLines (lines cs) := by
  induction cs using Text.split_induction '\n' with
  | last piece hpiece =>
    cases piece with
    | nil => rfl
    | cons c piece =>
      have hlines := Text.lines_of_notMem hpiece (List.cons_ne_nil c piece)
      cases hheader : isHeaderLine (c :: piece) with
      | true =>
        -- one byte more is counted than there is
        have hbytes : headerBytes (c :: piece) = bytes (c :: piece) + 1 := by
          rw [headerBytes, header, hlines, List.takeWhile_cons, if_pos hheader]
          rfl
        rw [body, hbytes, Text.dropBytes?_of_bytes_lt (Nat.lt_succ_self _), hlines,
          bodyOfLines_cons_of_header hheader]
        rfl
      | false =>
        have hnone : header (c :: piece) = [] := by
          rw [header, hlines, List.takeWhile_cons, hheader]
          rfl
        rw [body_of_header_eq_nil hnone, hlines, bodyOfLines,
          List.dropWhile_cons_of_neg (by simp [hheader]), Text.unlines_cons]
        exact (Text.trimEnd_append_feed _).symm
  | more piece rest hpiece ih =>
    simp only [List.mem_append, List.mem_cons, not_or] at h
    have hlines := Text.lines_line_append hpiece h.1 rest
    cases hheader : isHeaderLine piece with
    | true =>
      have hheads : Heads piece := ⟨hheader, hpiece, h.1⟩
      rw [hheads.body_append, ih h.2.2, hlines, bodyOfLines_cons_of_header hheader]
    | false =>
      have hnone : header (piece ++ '\n' :: rest) = [] := by
        rw [header, hlines, List.takeWhile_cons, hheader]
        rfl
      have hrest := Text.trimEnd_append_unlines_lines (piece ++ ['\n']) h.2.2
      rw [body_of_header_eq_nil hnone, hlines, bodyOfLines,
        List.dropWhile_cons_of_neg (by simp [hheader]), Text.unlines_cons]
      simpa using hrest.symm

/-- What a body is in the text that modules are joined to. -/
structure IsBody (cs : List Char) : Prop where
  ne_nil : cs ≠ []
  trimmed : trimEnd cs = cs
  opens : OpensBody cs
  noReturn : '\r' ∉ cs

lemma opensBody_bodyOfLines {ls : List (List Char)} (h : ∀ line ∈ ls, '\n' ∉ line) :
    OpensBody (bodyOfLines ls) := by
  refine OpensBody.of_isPrefix ?_ (Text.trimEnd_isPrefix _)
  cases hdrop : ls.dropWhile isHeaderLine with
  | nil => exact ⟨by simp, by decide⟩
  | cons line rest =>
    have hheader : isHeaderLine line = false := by
      have hhead := List.head?_dropWhile_not isHeaderLine ls
      rwa [hdrop] at hhead
    have hline : line ∈ ls := (List.dropWhile_sublist _).subset (hdrop ▸ List.mem_cons_self)
    have hne : line ≠ [] := by
      rintro rfl
      exact absurd hheader (by decide)
    rw [Text.unlines_cons]
    exact (opensBody_of_not_isHeaderLine hheader (h line hline)).append_feed hne _

lemma isBody_body (h : '\r' ∉ cs) (hne : body cs ≠ []) : IsBody (body cs) where
  ne_nil := hne
  trimmed := Text.trimEnd_trimEnd _
  opens := by
    rw [body_eq_bodyOfLines h]
    exact opensBody_bodyOfLines fun line hline => (Text.mem_of_mem_lines h hline).1
  noReturn := by
    rw [body_eq_bodyOfLines h]
    intro hmem
    rcases Text.mem_of_mem_unlines ((Text.trimEnd_isPrefix _).subset hmem) with hfeed | hline
    · exact absurd hfeed (by decide)
    · obtain ⟨line, hline, hc⟩ := hline
      exact h ((Text.mem_of_mem_lines h ((List.dropWhile_sublist _).subset hline)).2 _ hc)

lemma heads_of_mem_imports (h : '\r' ∉ cs) (hline : line ∈ imports cs) :
    Heads line ∧ line ≠ [] := by
  rw [imports, List.mem_filter] at hline
  have hheader : isHeaderLine line = true := List.mem_takeWhile_imp hline.1
  obtain ⟨hfeed, hsub⟩ := Text.mem_of_mem_lines h ((List.takeWhile_sublist _).subset hline.1)
  exact ⟨⟨hheader, hfeed, fun hmem => h (hsub _ hmem)⟩, by simpa using hline.2⟩

end Combine

end ApiTypes
