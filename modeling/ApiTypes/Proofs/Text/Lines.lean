import ApiTypes.Proofs.Json.Pointer
import ApiTypes.Text.Lines
import Mathlib.Data.List.DropRight

/-!
Lines of a text and their number of bytes.

A text is its first line and what follows the line feed behind it, so a property of the lines is
shown line by line. Lines that are ended by a line feed each are read back; a text without carriage
returns is told by its lines up to a line feed at its end. Cutting after as many bytes as the
beginning of a text has leaves the rest of it.
-/

namespace ApiTypes.Text

/-- The lines, each ended by a line feed. -/
def unlines (ls : List (List Char)) : List Char := ls.flatMap fun line => line ++ ['\n']

variable {cs line : List Char} {ls : List (List Char)}

@[simp] lemma unlines_nil : unlines [] = [] := rfl

@[simp] lemma unlines_cons (line : List Char) (ls : List (List Char)) :
    unlines (line :: ls) = line ++ '\n' :: unlines ls := by
  simp [unlines]

@[simp] lemma unlines_append (ls ms : List (List Char)) :
    unlines (ls ++ ms) = unlines ls ++ unlines ms := by
  simp [unlines]

lemma mem_of_mem_unlines {c : Char} (h : c ∈ unlines ls) : c = '\n' ∨ ∃ line ∈ ls, c ∈ line := by
  obtain ⟨line, hline, hc⟩ := List.mem_flatMap.mp h
  rcases List.mem_append.mp hc with hc | hc
  · exact Or.inr ⟨line, hline, hc⟩
  · exact Or.inl (List.mem_singleton.mp hc)

/-! ### Reading lines -/

lemma dropReturn_eq_self (h : '\r' ∉ cs) : dropReturn cs = cs := by
  induction cs with
  | nil => rfl
  | cons c rest ih =>
    rw [List.mem_cons, not_or] at h
    rw [dropReturn, ih h.2]
    rintro rfl
    exact absurd rfl h.1

lemma dropReturn_isPrefix (cs : List Char) : dropReturn cs <+: cs := by
  fun_induction dropReturn cs with
  | case1 => exact List.prefix_refl _
  | case2 => exact List.nil_prefix
  | case3 c rest _ ih => exact (List.cons_prefix_cons).mpr ⟨rfl, ih⟩

lemma lines_of_notMem (h : '\n' ∉ cs) (hne : cs ≠ []) : lines cs = [cs] := by
  rw [lines, split_of_not_mem h, linesOfPieces, if_neg (by simpa using hne)]

lemma lines_append_cons (h : '\n' ∉ line) (rest : List Char) :
    lines (line ++ '\n' :: rest) = dropReturn line :: lines rest := by
  rw [lines, split_piece_append h]
  obtain ⟨piece, pieces, hrest⟩ := List.exists_cons_of_ne_nil (split_ne_nil '\n' rest)
  rw [lines, hrest, linesOfPieces]
  exact List.cons_ne_nil piece pieces

lemma lines_line_append (hfeed : '\n' ∉ line) (hreturn : '\r' ∉ line) (rest : List Char) :
    lines (line ++ '\n' :: rest) = line :: lines rest := by
  rw [lines_append_cons hfeed, dropReturn_eq_self hreturn]

lemma lines_unlines (h : ∀ line ∈ ls, '\n' ∉ line ∧ '\r' ∉ line) : lines (unlines ls) = ls := by
  induction ls with
  | nil => rfl
  | cons line rest ih =>
    rw [List.forall_mem_cons] at h
    rw [unlines_cons, lines_line_append h.1.1 h.1.2, ih h.2]

lemma mem_of_mem_lines (h : '\r' ∉ cs) (hline : line ∈ lines cs) :
    '\n' ∉ line ∧ ∀ c ∈ line, c ∈ cs := by
  induction cs using split_induction '\n' with
  | last piece hpiece =>
    by_cases hne : piece = []
    · rw [hne] at hline
      exact absurd hline List.not_mem_nil
    · rw [lines_of_notMem hpiece hne, List.mem_singleton] at hline
      rw [hline]
      exact ⟨hpiece, fun _ hc => hc⟩
  | more piece rest hpiece ih =>
    simp only [List.mem_append, List.mem_cons, not_or] at h
    rw [lines_line_append hpiece h.1, List.mem_cons] at hline
    rcases hline with rfl | hline
    · exact ⟨hpiece, fun _ hc => List.mem_append_left _ hc⟩
    · obtain ⟨hfeed, hsub⟩ := ih h.2.2 hline
      exact ⟨hfeed, fun c hc => List.mem_append_right _ (List.mem_cons_of_mem _ (hsub c hc))⟩

/-- The first line begins as the text does. -/
lemma exists_lines_cons {c : Char} (hfeed : c ≠ '\n') (hreturn : c ≠ '\r') (cs : List Char) :
    ∃ line ls, lines (c :: cs) = (c :: line) :: ls ∧ c :: line <+: c :: cs := by
  by_cases hmem : '\n' ∈ c :: cs
  · obtain ⟨piece, rest, heq, hpiece⟩ := List.eq_append_cons_of_mem hmem
    cases piece with
    | nil => exact absurd (List.cons.inj heq).1 hfeed
    | cons d piece =>
      obtain rfl : c = d := (List.cons.inj heq).1
      refine ⟨dropReturn piece, lines rest, ?_, ?_⟩
      · rw [heq, lines_append_cons hpiece, dropReturn]
        rintro rfl
        exact absurd rfl hreturn
      · rw [heq, List.cons_append, List.cons_prefix_cons]
        exact ⟨rfl, (dropReturn_isPrefix piece).trans (List.prefix_append piece _)⟩
  · exact ⟨cs, [], lines_of_notMem hmem (List.cons_ne_nil c cs), List.prefix_refl _⟩

/-- What the lines do not tell is whether the last one is ended. -/
lemma unlines_lines (h : '\r' ∉ cs) :
    unlines (lines cs) = cs ∨ unlines (lines cs) = cs ++ ['\n'] := by
  induction cs using split_induction '\n' with
  | last piece hpiece =>
    by_cases hne : piece = []
    · exact Or.inl (by rw [hne]; rfl)
    · exact Or.inr (by rw [lines_of_notMem hpiece hne, unlines_cons, unlines_nil])
  | more piece rest hpiece ih =>
    simp only [List.mem_append, List.mem_cons, not_or] at h
    rw [lines_line_append hpiece h.1, unlines_cons]
    rcases ih h.2.2 with heq | heq
    · exact Or.inl (by rw [heq])
    · exact Or.inr (by rw [heq]; simp)

/-! ### Bytes -/

@[simp] lemma bytes_nil : bytes [] = 0 := rfl

@[simp] lemma bytes_cons (c : Char) (cs : List Char) : bytes (c :: cs) = c.utf8Size + bytes cs :=
  rfl

@[simp] lemma bytes_append (cs ds : List Char) : bytes (cs ++ ds) = bytes cs + bytes ds := by
  induction cs with
  | nil => simp
  | cons c cs ih => simp [ih, Nat.add_assoc]

@[simp] lemma dropBytes?_zero (cs : List Char) : dropBytes? 0 cs = some cs := by
  simp [dropBytes?]

lemma dropBytes?_cons_add (c : Char) (n : Nat) (cs : List Char) :
    dropBytes? (c.utf8Size + n) (c :: cs) = dropBytes? n cs := by
  obtain ⟨k, hk⟩ : ∃ k, c.utf8Size + n = k + 1 :=
    ⟨c.utf8Size + n - 1, by have := c.utf8Size_pos; omega⟩
  rw [hk, dropBytes?, if_pos (by omega)]
  congr 1
  omega

/-- Cutting behind a beginning of the text. -/
lemma dropBytes?_bytes_add (cs ds : List Char) (n : Nat) :
    dropBytes? (bytes cs + n) (cs ++ ds) = dropBytes? n ds := by
  induction cs with
  | nil => simp
  | cons c cs ih => rw [bytes_cons, Nat.add_assoc, List.cons_append, dropBytes?_cons_add, ih]

/-- Nothing is left where the text has fewer bytes. -/
lemma dropBytes?_of_bytes_lt {n : Nat} (h : bytes cs < n) : dropBytes? n cs = none := by
  have hcut := dropBytes?_bytes_add cs [] (n - bytes cs)
  rw [List.append_nil, Nat.add_sub_cancel' h.le] at hcut
  obtain ⟨k, hk⟩ : ∃ k, n - bytes cs = k + 1 := ⟨n - bytes cs - 1, by omega⟩
  rw [hcut, hk, dropBytes?]

/-! ### White space at the end -/

lemma isBlank_feed : isBlank '\n' = true := by decide

lemma trimEnd_append_feed (cs : List Char) : trimEnd (cs ++ ['\n']) = trimEnd cs :=
  List.rdropWhile_concat_pos isBlank cs '\n' isBlank_feed

lemma trimEnd_isPrefix (cs : List Char) : trimEnd cs <+: cs :=
  List.rdropWhile_prefix isBlank cs

lemma trimEnd_trimEnd (cs : List Char) : trimEnd (trimEnd cs) = trimEnd cs :=
  List.rdropWhile_idempotent isBlank cs

/-- A text that is trimmed already, behind anything. -/
lemma trimEnd_append (cs : List Char) {ds : List Char} (hne : ds ≠ []) (h : trimEnd ds = ds) :
    trimEnd (cs ++ ds) = cs ++ ds := by
  have hlast := List.rdropWhile_eq_self_iff.mp h hne
  refine List.rdropWhile_eq_self_iff.mpr fun happend => ?_
  rwa [List.getLast_append_of_ne_nil happend hne]

lemma trimEnd_append_unlines_lines (cs : List Char) {ds : List Char} (h : '\r' ∉ ds) :
    trimEnd (cs ++ unlines (lines ds)) = trimEnd (cs ++ ds) := by
  rcases unlines_lines h with heq | heq
  · rw [heq]
  · rw [heq, ← List.append_assoc, trimEnd_append_feed]

/-! ### Texts put together -/

lemma toList_join (separator : String) (texts : List String) :
    (join separator texts).toList =
      separator.toList.intercalate (texts.map String.toList) := by
  induction texts with
  | nil => rfl
  | cons text texts ih =>
    cases texts with
    | nil => simp [join]
    | cons next texts =>
      rw [join, String.toList_append, String.toList_append, ih, List.map_cons, List.map_cons,
        List.map_cons, List.intercalate_cons_cons]
      exact List.cons_ne_nil next texts

lemma toList_join_feed (ls : List (List Char)) :
    (String.join (ls.map fun line => String.ofList line ++ "\n")).toList = unlines ls := by
  rw [String.toList_join, List.flatMap_map, unlines]
  simp

lemma unlines_intersperse (texts : List (List Char)) :
    unlines (texts.intersperse []) =
      ['\n', '\n'].intercalate texts ++ (if texts.isEmpty then [] else ['\n']) := by
  induction texts with
  | nil => rfl
  | cons text texts ih =>
    cases texts with
    | nil => simp
    | cons next texts =>
      rw [List.intersperse_cons_cons, unlines_cons, unlines_cons, ih,
        List.intercalate_cons_cons]
      simp

/-- The same with lines that are ended, and one more line feed between them. -/
lemma unlines_intersperse_eq (texts : List (List Char)) :
    unlines (texts.intersperse []) = ['\n'].intercalate (texts.map (· ++ ['\n'])) := by
  induction texts with
  | nil => rfl
  | cons text texts ih =>
    cases texts with
    | nil => simp
    | cons next texts =>
      rw [List.map_cons] at ih
      rw [List.intersperse_cons_cons, unlines_cons, unlines_cons, ih, List.map_cons,
        List.map_cons, List.intercalate_cons_cons]
      simp

lemma intercalate_append (separator : List Char) {xs ys : List (List Char)} (hxs : xs ≠ [])
    (hys : ys ≠ []) : separator.intercalate (xs ++ ys) =
      separator.intercalate xs ++ separator ++ separator.intercalate ys := by
  induction xs with
  | nil => exact absurd rfl hxs
  | cons x xs ih =>
    cases xs with
    | nil => simp [List.intercalate_cons_of_ne_nil hys]
    | cons next xs =>
      have hrest := ih (List.cons_ne_nil next xs)
      rw [List.cons_append] at hrest
      rw [List.cons_append, List.cons_append, List.intercalate_cons_cons, hrest,
        List.intercalate_cons_cons]
      simp only [List.append_assoc]

lemma intercalate_eq_nil_iff (separator : List Char) {xs : List (List Char)}
    (h : ∀ x ∈ xs, x ≠ []) : separator.intercalate xs = [] ↔ xs = [] := by
  cases xs with
  | nil => simp
  | cons x xs =>
    have hx := h x List.mem_cons_self
    cases xs <;> simp [hx]

/-- Texts that are joined group by group. -/
def joinGroups (separator : List Char) (groups : List (List (List Char))) : List (List Char) :=
  (groups.map separator.intercalate).filter fun text => !text.isEmpty

lemma joinGroups_cons_of_ne_nil {separator : List Char} {group : List (List Char)}
    (hne : group ≠ []) (h : ∀ x ∈ group, x ≠ []) (groups : List (List (List Char))) :
    joinGroups separator (group :: groups) =
      separator.intercalate group :: joinGroups separator groups := by
  have hjoin : separator.intercalate group ≠ [] := fun e => hne ((intercalate_eq_nil_iff _ h).mp e)
  rw [joinGroups, List.map_cons, List.filter_cons_of_pos (by simpa using hjoin)]
  rfl

lemma joinGroups_eq_nil_iff {separator : List Char} {groups : List (List (List Char))}
    (h : ∀ group ∈ groups, ∀ x ∈ group, x ≠ []) :
    joinGroups separator groups = [] ↔ groups.flatten = [] := by
  rw [joinGroups, List.filter_eq_nil_iff, List.forall_mem_map, List.flatten_eq_nil_iff]
  refine forall₂_congr fun group hgroup => ?_
  rw [← intercalate_eq_nil_iff separator (h group hgroup)]
  simp

lemma intercalate_joinGroups {separator : List Char} {groups : List (List (List Char))}
    (h : ∀ group ∈ groups, ∀ x ∈ group, x ≠ []) :
    separator.intercalate (joinGroups separator groups) = separator.intercalate groups.flatten := by
  induction groups with
  | nil => rfl
  | cons group groups ih =>
    rw [List.forall_mem_cons] at h
    by_cases hne : group = []
    · rw [hne, List.flatten_cons, List.nil_append, ← ih h.2]
      rfl
    · rw [joinGroups_cons_of_ne_nil hne h.1, List.flatten_cons]
      by_cases hrest : groups.flatten = []
      · rw [hrest, (joinGroups_eq_nil_iff h.2).mpr hrest]
        simp
      · have hjoined : joinGroups separator groups ≠ [] :=
          fun e => hrest ((joinGroups_eq_nil_iff h.2).mp e)
        rw [List.intercalate_cons_of_ne_nil hjoined, ih h.2, intercalate_append separator hne hrest]

end ApiTypes.Text
