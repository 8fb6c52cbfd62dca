import ApiTypes.Proofs.Description.Template

/-!
A template taken apart into literal text and names.

Read from left to right, an opening brace belongs to the nearest closing brace behind it. What
stands between the two is a name; a pair with nothing in it, and a brace with no closing one behind
it, are literal text. A template can be taken apart in this way and in no other, and both scans over
the template follow it: one lists the names, the other writes them behind colons.
-/

namespace ApiTypes.Template

/-- Literal text, or literal text with a name in braces and more behind it. -/
inductive Pieces where
  | last (literal : List Char)
  | more (literal name : List Char) (rest : Pieces)

namespace Pieces

/-- The template: names stand in braces. -/
def text : Pieces → List Char
  | last literal => literal
  | more literal name rest => literal ++ '{' :: (name ++ '}' :: rest.text)

/-- The pieces with each name behind a colon. -/
def colons : Pieces → List Char
  | last literal => literal
  | more literal name rest => literal ++ ':' :: (name ++ rest.colons)

def names : Pieces → List String
  | last _ => []
  | more _ name rest => String.ofList name :: rest.names

end Pieces

/-- Of an opening brace with this text behind it: there is nothing between it and the nearest
closing brace, or there is no closing brace. -/
def LiteralBrace (behind : List Char) : Prop := behind.head? = some '}' ∨ '}' ∉ behind

/-- No opening brace of a literal text starts a name, when `behind` comes after the text. -/
def IsLiteral (literal behind : List Char) : Prop :=
  ∀ before after, literal = before ++ '{' :: after → LiteralBrace (after ++ behind)

/-- Every opening brace goes with the nearest closing one: names have none in them, and the braces
that start no name are literal. -/
def Pieces.Leftmost : Pieces → Prop
  | last literal => IsLiteral literal []
  | more literal name rest =>
    IsLiteral literal ('{' :: (name ++ '}' :: rest.text)) ∧ name ≠ [] ∧ '}' ∉ name ∧ rest.Leftmost

lemma isLiteral_nil (behind : List Char) : IsLiteral [] behind := by
  intro before after h
  simp at h

lemma isLiteral_cons {c : Char} {literal behind : List Char} :
    IsLiteral (c :: literal) behind ↔
      (c = '{' → LiteralBrace (literal ++ behind)) ∧ IsLiteral literal behind := by
  constructor
  · intro h
    refine ⟨fun hc => h [] literal (by rw [hc]; rfl), fun before after heq => ?_⟩
    exact h (c :: before) after (by rw [heq]; rfl)
  · rintro ⟨hfirst, hrest⟩ before after heq
    cases before with
    | nil =>
      cases heq
      exact hfirst rfl
    | cons d before =>
      cases heq
      exact hrest before after rfl

namespace Pieces

/-! ### One character more in front -/

/-- A character more of literal text in front. -/
def push (c : Char) : Pieces → Pieces
  | last literal => last (c :: literal)
  | more literal name rest => more (c :: literal) name rest

@[simp] lemma text_push (c : Char) (pieces : Pieces) : (pieces.push c).text = c :: pieces.text := by
  cases pieces <;> rfl

@[simp] lemma colons_push (c : Char) (pieces : Pieces) :
    (pieces.push c).colons = c :: pieces.colons := by
  cases pieces <;> rfl

@[simp] lemma names_push (c : Char) (pieces : Pieces) : (pieces.push c).names = pieces.names := by
  cases pieces <;> rfl

lemma leftmost_push {c : Char} {pieces : Pieces} :
    (pieces.push c).Leftmost ↔ (c = '{' → LiteralBrace pieces.text) ∧ pieces.Leftmost := by
  cases pieces with
  | last literal =>
    rw [push, Leftmost, isLiteral_cons, List.append_nil]
    rfl
  | more literal name rest =>
    rw [push, Leftmost, isLiteral_cons, and_assoc]
    rfl

/-- Pieces start with a character of literal text or with a name, or there is nothing. -/
lemma induction_push {motive : Pieces → Prop} (nil : motive (last []))
    (push : ∀ c pieces, motive pieces → motive (pieces.push c))
    (name : ∀ name rest, motive rest → motive (more [] name rest)) (pieces : Pieces) :
    motive pieces := by
  induction pieces with
  | last literal =>
    induction literal with
    | nil => exact nil
    | cons c literal ih => exact push c (last literal) ih
  | more literal n rest ihrest =>
    induction literal with
    | nil => exact name n rest ihrest
    | cons c literal ih => exact push c (more literal n rest) ih

/-! ### Only one way to take a template apart -/

/-- A brace that starts a name is not literal. -/
lemma not_literalBrace {name behind : List Char} (hne : name ≠ []) (hname : '}' ∉ name) :
    ¬ LiteralBrace (name ++ '}' :: behind) := by
  rintro (hhead | hnone)
  · obtain ⟨c, rest, rfl⟩ := List.exists_cons_of_ne_nil hne
    rw [List.cons_append, List.head?_cons, Option.some.injEq] at hhead
    exact hname (by simp [hhead])
  · exact hnone (by simp)

lemma Leftmost.unique {pieces other : Pieces} (h : pieces.Leftmost) (h' : other.Leftmost)
    (htext : other.text = pieces.text) : other = pieces := by
  induction pieces using induction_push generalizing other with
  | nil =>
    induction other using induction_push with
    | nil => rfl
    | push d q _ => simp [text] at htext
    | name m s _ => simp [text] at htext
  | push c p ih =>
    rw [text_push] at htext
    obtain ⟨hbrace, hp⟩ := leftmost_push.mp h
    induction other using induction_push with
    | nil => simp [text] at htext
    | push d q _ =>
      rw [text_push, List.cons.injEq] at htext
      obtain ⟨rfl, htext⟩ := htext
      rw [ih hp (leftmost_push.mp h').2 htext]
    | name m s _ =>
      obtain ⟨-, hne, hm, -⟩ := h'
      obtain ⟨hc, hbehind⟩ := List.cons.inj htext
      have hliteral := hbrace hc.symm
      rw [← hbehind] at hliteral
      exact absurd hliteral (not_literalBrace hne hm)
  | name n r ih =>
    obtain ⟨-, hne, hn, hr⟩ := h
    induction other using induction_push with
    | nil => simp [text] at htext
    | push d q _ =>
      rw [text_push] at htext
      obtain ⟨hd, hbehind⟩ := List.cons.inj htext
      have hliteral := (leftmost_push.mp h').1 hd
      rw [hbehind] at hliteral
      exact absurd hliteral (not_literalBrace hne hn)
    | name m s _ =>
      obtain ⟨-, -, hm, hs⟩ := h'
      obtain ⟨rfl, hrest⟩ := Rewrites.eq_of_append_brace hm hn (List.cons.inj htext).2
      rw [ih hr hs hrest]

lemma Leftmost.name_ne_nil {pieces : Pieces} (h : pieces.Leftmost) : "" ∉ pieces.names := by
  induction pieces with
  | last literal => exact List.not_mem_nil
  | more literal name rest ih =>
    obtain ⟨-, hne, -, hrest⟩ := h
    have hname : String.ofList name ≠ "" := by
      intro hempty
      exact hne (by simpa using congrArg String.toList hempty)
    rw [names, List.mem_cons, not_or]
    exact ⟨hname.symm, ih hrest⟩

/-! ### The scans follow the pieces -/

/-- From wherever the two scans are, what is held and what is still to be read can be taken apart,
and both scans go on with its pieces. -/
lemma exists_leftmost (state : Option (List Char)) (rest : List Char)
    (hstate : ∀ name ∈ state, '}' ∉ name) :
    ∃ pieces : Pieces, pieces.text = held state ++ rest ∧ pieces.Leftmost ∧
      placeholdersFrom state rest = pieces.names ∧ colonFrom state rest = pieces.colons := by
  fun_induction colonFrom state rest with
  | case1 => exact ⟨last [], rfl, isLiteral_nil [], rfl, rfl⟩
  | case2 name =>
    -- the brace was never closed, so no brace behind it is
    refine ⟨last ('{' :: name), by simp [text, held], ?_, by simp [placeholdersFrom, names], rfl⟩
    intro before after heq
    have hclose : '}' ∉ before ++ '{' :: after := by simp [← heq, hstate name rfl]
    right
    intro hmem
    rw [List.append_nil] at hmem
    exact hclose (by simp [hmem])
  | case3 rest ih =>
    obtain ⟨pieces, htext, hleft, hnames, hcolons⟩ := ih (by simp)
    exact ⟨pieces, htext, hleft, by rw [placeholdersFrom, if_pos rfl, hnames], hcolons⟩
  | case4 c rest hc ih =>
    obtain ⟨pieces, htext, hleft, hnames, hcolons⟩ := ih (by simp)
    refine ⟨pieces.push c, by rw [text_push, htext]; rfl, leftmost_push.mpr ⟨?_, hleft⟩, ?_, ?_⟩
    · exact fun heq => absurd heq hc
    · rw [placeholdersFrom, if_neg hc, hnames, names_push]
    · rw [hcolons, colons_push]
  | case5 rest ih =>
    -- an empty pair of braces
    obtain ⟨pieces, htext, hleft, hnames, hcolons⟩ := ih (by simp)
    have hclose : (pieces.push '}').Leftmost := leftmost_push.mpr ⟨by simp, hleft⟩
    refine ⟨(pieces.push '}').push '{', by simp [htext, held], leftmost_push.mpr ⟨?_, hclose⟩,
      ?_, by simp [hcolons]⟩
    · exact fun _ => Or.inl (by simp)
    · rw [placeholdersFrom, if_pos rfl, names_push, names_push]
      exact hnames
  | case6 rest name hname ih =>
    obtain ⟨pieces, htext, hleft, hnames, hcolons⟩ := ih (by simp)
    have hclosed : '}' ∉ name := hstate name rfl
    refine ⟨more [] name pieces, ?_, ⟨isLiteral_nil _, hname, hclosed, hleft⟩, ?_, ?_⟩
    · simp [text, htext, held]
    · rw [placeholdersFrom, if_pos rfl, names, hnames]
      exact hname
    · rw [colons, hcolons]
      rfl
  | case7 name c rest hc ih =>
    have hnext : ∀ longer ∈ some (name ++ [c]), '}' ∉ longer := by
      simp [hstate name rfl, Ne.symm hc]
    obtain ⟨pieces, htext, hleft, hnames, hcolons⟩ := ih hnext
    refine ⟨pieces, by simp [htext, held], hleft, ?_, hcolons⟩
    unfold placeholdersFrom
    rw [if_neg hc]
    exact hnames

end Pieces

/-- **The two scans agree on every text.** Every path can be taken apart into literal pieces and
names, in exactly one way where every opening brace goes with the nearest closing one behind it. No
name is empty; the names are the placeholders, in order; and the path with colons is the literal
pieces with the names behind colons. -/
theorem scans_follow_leftmost_pieces (path : String) :
    ∃ pieces : Pieces,
      (∀ other : Pieces, other.text = path.toList ∧ other.Leftmost ↔ other = pieces) ∧
      "" ∉ pieces.names ∧ placeholders path = pieces.names ∧
      colonPath path = String.ofList pieces.colons := by
  obtain ⟨pieces, htext, hleft, hnames, hcolons⟩ :=
    Pieces.exists_leftmost none path.toList (by simp)
  refine ⟨pieces, fun other => ⟨fun h => ?_, ?_⟩, hleft.name_ne_nil, hnames, ?_⟩
  · exact hleft.unique h.2 (h.1.trans htext.symm)
  · rintro rfl
    exact ⟨htext, hleft⟩
  · rw [colonPath, colons_eq, hcolons]

end ApiTypes.Template
