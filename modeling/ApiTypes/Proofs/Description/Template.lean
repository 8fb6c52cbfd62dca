import ApiTypes.Description.Template
import ApiTypes.Proofs.Json.Pointer
import Mathlib.Data.List.Basic

/-!
Placeholders of a template and the colons that take their place.

Two scans go over a template: one lists its placeholders, the other writes them behind colons. The
first goes on behind the closing brace even if it finds no name, where the second copies one brace
and looks again; nothing is found in between, so one pass with the name held back does the same as
the second. A template and its rewriting tell which names were rewritten, since a brace of the
template stands against a colon exactly where a name begins; those are the names that the first scan
lists.

The rewriting alone does not tell the template in general. It does for plain templates, where a
placeholder fills its segment and no other segment starts with a colon.
-/

namespace ApiTypes

namespace Text

lemma cut?_eq_none_iff {mark : Char} {cs : List Char} : cut? mark cs = none ↔ mark ∉ cs := by
  induction cs with
  | nil => simp [cut?]
  | cons c rest ih =>
    rw [cut?, List.mem_cons, not_or]
    split
    · next hc => simp [hc]
    · next hc => simp [ih, Ne.symm hc]

/-- A text is cut at the first such character. -/
lemma cut?_eq_some_iff {mark : Char} {cs front back : List Char} :
    cut? mark cs = some (front, back) ↔ cs = front ++ mark :: back ∧ mark ∉ front := by
  induction cs generalizing front back with
  | nil => simp [cut?]
  | cons c rest ih =>
    rw [cut?]
    split
    · next hc =>
      cases front with
      | nil => simp [hc]
      | cons d front => simp +contextual [hc]
    · next hc =>
      cases front with
      | nil => simp [hc]
      | cons d front =>
        simp only [Option.map_eq_some_iff, Prod.exists, Prod.mk.injEq, List.cons.injEq, ih,
          List.cons_append, List.mem_cons, not_or]
        constructor
        · rintro ⟨front', back', ⟨rfl, hfront⟩, ⟨rfl, rfl⟩, rfl⟩
          exact ⟨⟨rfl, rfl⟩, Ne.symm hc, hfront⟩
        · rintro ⟨⟨rfl, rfl⟩, -, hfront⟩
          exact ⟨front, back, ⟨rfl, hfront⟩, ⟨rfl, rfl⟩, rfl⟩

end Text

namespace Template

/-- The second text is the first with a colon before each of the names instead of braces around it;
everything else is copied. -/
inductive Rewrites : List Char → List Char → List String → Prop where
  | nil : Rewrites [] [] []
  | copy (c : Char) {xs ys : List Char} {names : List String} :
      Rewrites xs ys names → Rewrites (c :: xs) (c :: ys) names
  | name {n xs ys : List Char} {names : List String} : n ≠ [] → '}' ∉ n → Rewrites xs ys names →
      Rewrites ('{' :: (n ++ '}' :: xs)) (':' :: (n ++ ys)) (String.ofList n :: names)

namespace Rewrites

variable {xs ys : List Char} {names names' : List String}

lemma append (cs : List Char) (h : Rewrites xs ys names) :
    Rewrites (cs ++ xs) (cs ++ ys) names := by
  induction cs with
  | nil => exact h
  | cons c cs ih => exact ih.copy c

/-- What stands before the first closing brace is one name only. -/
lemma eq_of_append_brace {n m xs' : List Char} (hn : '}' ∉ n) (hm : '}' ∉ m)
    (h : n ++ '}' :: xs = m ++ '}' :: xs') : n = m ∧ xs = xs' := by
  have hleft : Text.cut? '}' (m ++ '}' :: xs') = some (n, xs) :=
    Text.cut?_eq_some_iff.mpr ⟨h.symm, hn⟩
  have hright : Text.cut? '}' (m ++ '}' :: xs') = some (m, xs') :=
    Text.cut?_eq_some_iff.mpr ⟨rfl, hm⟩
  exact Prod.mk.inj (Option.some.inj (hleft.symm.trans hright))

/-- The names are the only ones for their two texts. -/
lemma unique (h : Rewrites xs ys names) (h' : Rewrites xs ys names') : names' = names := by
  induction h generalizing names' with
  | nil =>
    cases h'
    rfl
  | @copy c xs ys names _ ih =>
    generalize hx : c :: xs = xs' at h'
    generalize hy : c :: ys = ys' at h'
    cases h' with
    | nil => cases hx
    | copy d h' =>
      cases hx
      cases hy
      exact ih h'
    | name _ _ _ =>
      -- a brace is not a colon
      exact absurd ((List.cons.inj hx).1.symm.trans (List.cons.inj hy).1) (by decide)
  | @name n xs ys names _ hn _ ih =>
    generalize hx : '{' :: (n ++ '}' :: xs) = xs' at h'
    generalize hy : ':' :: (n ++ ys) = ys' at h'
    cases h' with
    | nil => cases hx
    | copy d _ =>
      exact absurd ((List.cons.inj hx).1.trans (List.cons.inj hy).1.symm) (by decide)
    | @name m xs' ys' names' _ hm h' =>
      obtain ⟨rfl, rfl⟩ := eq_of_append_brace hn hm (List.cons.inj hx).2
      obtain rfl : ys = ys' := List.append_cancel_left (List.cons.inj hy).2
      rw [ih h']

end Rewrites

/-! ### Rewriting in one pass -/

/-- The template with `:name` for each placeholder; the first argument holds the name being read
since the last opening brace. -/
def colonFrom : Option (List Char) → List Char → List Char
  | none, [] => []
  | some name, [] => '{' :: name
  | none, c :: rest => if c = '{' then colonFrom (some []) rest else c :: colonFrom none rest
  | some name, c :: rest =>
    if c = '}' then
      match name with
      | [] => '{' :: '}' :: colonFrom none rest
      | name => ':' :: name ++ colonFrom none rest
    else colonFrom (some (name ++ [c])) rest

/-- What was read of a placeholder and is not yet written. -/
def held : Option (List Char) → List Char
  | none => []
  | some name => '{' :: name

lemma colonFrom_literal {cs : List Char} (h : '{' ∉ cs) (rest : List Char) :
    colonFrom none (cs ++ rest) = cs ++ colonFrom none rest := by
  induction cs with
  | nil => rfl
  | cons c cs ih =>
    rw [List.mem_cons, not_or] at h
    rw [List.cons_append, colonFrom, if_neg (Ne.symm h.1), ih h.2, List.cons_append]

lemma colonFrom_eq_self {cs : List Char} (h : '{' ∉ cs) : colonFrom none cs = cs := by
  have hall := colonFrom_literal h []
  rwa [colonFrom, List.append_nil] at hall

/-- A name is held until the brace behind it. -/
lemma colonFrom_held {name : List Char} (read : List Char) (hname : '}' ∉ name)
    (hne : read ++ name ≠ []) (rest : List Char) :
    colonFrom (some read) (name ++ '}' :: rest) = ':' :: (read ++ name ++ colonFrom none rest) := by
  induction name generalizing read with
  | nil =>
    rw [List.append_nil] at hne
    rw [List.nil_append, colonFrom, if_pos rfl, List.append_nil, List.cons_append]
    exact hne
  | cons c name ih =>
    rw [List.mem_cons, not_or] at hname
    have hstep : colonFrom (some read) (c :: (name ++ '}' :: rest)) =
        colonFrom (some (read ++ [c])) (name ++ '}' :: rest) := by
      rw [colonFrom.eq_def]
      exact if_neg (Ne.symm hname.1)
    rw [List.cons_append, hstep, ih _ hname.2 (by simp)]
    simp

lemma colonFrom_placeholder {name : List Char} (hne : name ≠ []) (hname : '}' ∉ name)
    (rest : List Char) :
    colonFrom none ('{' :: (name ++ '}' :: rest)) = ':' :: (name ++ colonFrom none rest) := by
  rw [colonFrom, if_pos rfl, colonFrom_held [] hname hne, List.nil_append]

/-- Where no brace is closed, everything is copied. -/
lemma colonFrom_unclosed (state : Option (List Char)) {cs : List Char} (h : '}' ∉ cs) :
    colonFrom state cs = held state ++ cs := by
  fun_induction colonFrom state cs with
  | case1 => rfl
  | case2 name => rw [held, List.append_nil]
  | case3 rest ih =>
    rw [ih (List.not_mem_of_not_mem_cons h)]
    rfl
  | case4 c rest hc ih =>
    rw [ih (List.not_mem_of_not_mem_cons h)]
    rfl
  | case5 rest _ => exact absurd List.mem_cons_self h
  | case6 rest name _ _ => exact absurd List.mem_cons_self h
  | case7 name c rest hc ih =>
    rw [ih (List.not_mem_of_not_mem_cons h), held, held]
    simp

/-- The search that begins again behind every brace finds what the one pass finds. -/
lemma colons_eq (cs : List Char) : colons cs = colonFrom none cs := by
  fun_induction colons cs with
  | case1 cs hopen => exact (colonFrom_eq_self (Text.cut?_eq_none_iff.mp hopen)).symm
  | case2 cs front after hopen c name rest hclose ih =>
    obtain ⟨rfl, hfront⟩ := Text.cut?_eq_some_iff.mp hopen
    obtain ⟨rfl, hname⟩ := Text.cut?_eq_some_iff.mp hclose
    rw [ih, colonFrom_literal hfront, colonFrom_placeholder (List.cons_ne_nil c name) hname]
    simp
  | case3 cs front after hopen hother ih =>
    obtain ⟨rfl, hfront⟩ := Text.cut?_eq_some_iff.mp hopen
    rw [ih, colonFrom_literal hfront]
    congr 1
    rw [colonFrom, if_pos rfl]
    cases hclose : Text.cut? '}' after with
    | none =>
      have hafter := Text.cut?_eq_none_iff.mp hclose
      rw [colonFrom_unclosed none hafter, colonFrom_unclosed (some []) hafter]
      rfl
    | some found =>
      obtain ⟨name, rest⟩ := found
      cases name with
      | nil =>
        obtain ⟨rfl, -⟩ := Text.cut?_eq_some_iff.mp hclose
        rfl
      | cons c name => exact absurd hclose (hother c name rest)

lemma toList_colonPath (path : String) : (colonPath path).toList = colonFrom none path.toList := by
  rw [colonPath, String.toList_ofList, colons_eq]

/-- Both scans, from wherever they are: what is held and what is still to be read is rewritten, and
the names are those that are still to be listed. -/
lemma rewrites_colonFrom (state : Option (List Char)) (rest : List Char)
    (hstate : ∀ name ∈ state, '}' ∉ name) :
    Rewrites (held state ++ rest) (colonFrom state rest) (placeholdersFrom state rest) := by
  fun_induction colonFrom state rest with
  | case1 => exact .nil
  | case2 name =>
    -- the brace was never closed
    have hcopied := Rewrites.nil.append ('{' :: name)
    rw [List.append_nil] at hcopied
    rw [placeholdersFrom, held, List.append_nil]
    exact hcopied
  | case3 rest ih =>
    rw [placeholdersFrom, if_pos rfl]
    exact ih (by simp)
  | case4 c rest hc ih =>
    rw [placeholdersFrom, if_neg hc]
    exact (ih nofun).copy c
  | case5 rest ih =>
    -- an empty pair of braces
    rw [placeholdersFrom, if_pos rfl]
    exact ((ih nofun).copy '}').copy '{'
  | case6 rest name hname ih =>
    rw [placeholdersFrom, if_pos rfl]
    · exact .name hname (hstate name rfl) (ih nofun)
    · exact hname
  | case7 name c rest hc ih =>
    have hnext : ∀ longer ∈ some (name ++ [c]), '}' ∉ longer := by
      simp [hstate name rfl, Ne.symm hc]
    have hrest := ih hnext
    rw [held, List.cons_append, List.append_assoc] at hrest
    unfold placeholdersFrom
    rw [if_neg hc]
    exact hrest

/-- The names that are written behind colons are the placeholders, each in its place. -/
theorem rewrites_colonPath_iff (path : String) (names : List String) :
    Rewrites path.toList (colonPath path).toList names ↔ names = placeholders path := by
  have hpath := rewrites_colonFrom none path.toList nofun
  rw [toList_colonPath]
  constructor
  · exact hpath.unique
  · rintro rfl
    exact hpath

/-! ### Plain templates -/

/-- Literal text that does not look like a rewritten placeholder, or a placeholder alone. -/
inductive PlainSegment : List Char → Prop where
  | literal {cs : List Char} : '{' ∉ cs → '}' ∉ cs → cs.head? ≠ some ':' → PlainSegment cs
  | placeholder {name : List Char} : name ≠ [] → '/' ∉ name → '{' ∉ name → '}' ∉ name →
      PlainSegment ('{' :: (name ++ ['}']))

lemma plainSegment_iff {cs : List Char} :
    PlainSegment cs ↔ ('{' ∉ cs ∧ '}' ∉ cs ∧ cs.head? ≠ some ':') ∨
      (cs = '{' :: (cs.tail.dropLast ++ ['}']) ∧ cs.tail.dropLast ≠ [] ∧
        '/' ∉ cs.tail.dropLast ∧ '{' ∉ cs.tail.dropLast ∧ '}' ∉ cs.tail.dropLast) := by
  constructor
  · intro h
    cases h with
    | literal hopen hclose hcolon => exact .inl ⟨hopen, hclose, hcolon⟩
    | placeholder hne hslash hopen hclose => exact .inr (by simp [hne, hslash, hopen, hclose])
  · rintro (⟨hopen, hclose, hcolon⟩ | ⟨hcs, hne, hslash, hopen, hclose⟩)
    · exact .literal hopen hclose hcolon
    · rw [hcs]
      exact .placeholder hne hslash hopen hclose

instance : DecidablePred PlainSegment := fun _ => decidable_of_iff' _ plainSegment_iff

/-- Every segment between the slashes is plain. -/
def Plain (path : String) : Prop := ∀ segment ∈ Text.split '/' path.toList, PlainSegment segment

instance (path : String) : Decidable (Plain path) :=
  inferInstanceAs (Decidable (∀ segment ∈ _, PlainSegment segment))

/-- Plain segments are rewritten one by one. -/
lemma PlainSegment.colonFrom_append {segment : List Char} (h : PlainSegment segment)
    (rest : List Char) :
    colonFrom none (segment ++ rest) = colonFrom none segment ++ colonFrom none rest := by
  cases h with
  | literal hopen _ _ => rw [colonFrom_literal hopen, colonFrom_eq_self hopen]
  | placeholder hne _ _ hclose =>
    rw [List.cons_append, List.append_assoc, List.singleton_append,
      colonFrom_placeholder hne hclose, colonFrom_placeholder hne hclose]
    simp [colonFrom]

lemma PlainSegment.slash_notMem {segment : List Char} (h : PlainSegment segment)
    (hslash : '/' ∉ segment) : '/' ∉ colonFrom none segment := by
  cases h with
  | literal hopen _ _ => rwa [colonFrom_eq_self hopen]
  | placeholder hne hname _ hclose =>
    rw [colonFrom_placeholder hne hclose]
    simp [colonFrom, hname]

lemma split_colonFrom {cs : List Char}
    (h : ∀ segment ∈ Text.split '/' cs, PlainSegment segment) :
    Text.split '/' (colonFrom none cs) = (Text.split '/' cs).map (colonFrom none) := by
  induction cs using Text.split_induction '/' with
  | last segment hslash =>
    rw [Text.split_of_not_mem hslash] at h ⊢
    rw [Text.split_of_not_mem ((h segment (by simp)).slash_notMem hslash)]
    rfl
  | more segment rest hslash ih =>
    rw [Text.split_piece_append hslash, List.forall_mem_cons] at h
    have hnext : colonFrom none ('/' :: rest) = '/' :: colonFrom none rest := rfl
    rw [h.1.colonFrom_append, hnext, Text.split_piece_append (h.1.slash_notMem hslash), ih h.2,
      Text.split_piece_append hslash, List.map_cons]

/-- The segment that was rewritten. -/
def braced : List Char → List Char
  | ':' :: name => '{' :: (name ++ ['}'])
  | cs => cs

lemma PlainSegment.braced_colonFrom {segment : List Char} (h : PlainSegment segment) :
    braced (colonFrom none segment) = segment := by
  cases h with
  | literal hopen _ hcolon =>
    rw [colonFrom_eq_self hopen]
    unfold braced
    split
    · simp at hcolon
    · rfl
  | placeholder hne _ _ hclose =>
    rw [colonFrom_placeholder hne hclose]
    simp [colonFrom, braced]

/-- Different plain templates are rewritten to different paths. -/
lemma colonPath_injOn : Set.InjOn colonPath {path | Plain path} := by
  have hback : ∀ path, Plain path →
      (Text.split '/' (colonPath path).toList).map braced = Text.split '/' path.toList := by
    intro path h
    rw [toList_colonPath, split_colonFrom h, List.map_map]
    exact (List.map_congr_left fun segment hsegment =>
      (h segment hsegment).braced_colonFrom).trans (List.map_id _)
  intro p hp q hq h
  have hsplit : Text.split '/' p.toList = Text.split '/' q.toList := by
    rw [← hback p hp, ← hback q hq, h]
  exact String.toList_injective (Text.split_injective '/' hsplit)

end Template

end ApiTypes
