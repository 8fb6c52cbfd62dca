import ApiTypes.Proofs.TypeExpr.Reader

/-!
Rendered types are read back.

Parentheses stand where they are needed. A type that is written without an operator can be read
wherever one with brackets behind it may stand, one that is not written as a union wherever an
operand of `&` may stand, and every type as a list of operands of `|`. The induction over the
expression shows all three at once; a union of one member is read as the member is, and an operand
that is a union itself adds its own operands to the list.
-/

namespace ApiTypes.TypeText

open TypeExpr (normal normalMember)

/-- The marks behind a type that stands between brackets. -/
def closers : List Char := [')', '>', ',', ';', '}']

variable {type : Reading TypeExpr} {ts rest : List Token} {e : TypeExpr} {depth : Nat}

/-! ### Three places a type is read in -/

def ReadsPostfixed (type : Reading TypeExpr) (ts : List Token) (e : TypeExpr) : Prop :=
  ∃ t, normal t = normal e ∧
    ∀ rest, rest.head? ≠ some (.mark '<') → postfixed type (ts ++ rest) = some (brackets t rest)

/-- The operands that the tokens are read as are those of the normal form. -/
def ReadsOperands (op : Operator) (item : Reading TypeExpr) (enders : List Char) (ts : List Token)
    (e : TypeExpr) : Prop :=
  ListsAs op.mark item enders (fun t => op.operands (normal t)) ts (op.operands (normal e))

def ReadsIntersection (type : Reading TypeExpr) : List Token → TypeExpr → Prop :=
  ReadsOperands .intersection (postfixed type) ('|' :: closers)

def ReadsUnion (type : Reading TypeExpr) : List Token → TypeExpr → Prop :=
  ReadsOperands .union (operated .intersection (postfixed type)) closers

lemma brackets_eq_self {t : TypeExpr} (h : rest.head? ≠ some (.mark '[')) :
    brackets t rest = (t, rest) := by
  unfold brackets
  split
  · exact absurd rfl h
  · rfl

lemma ReadsOperands.singleton {op : Operator} {item : Reading TypeExpr} {enders : List Char}
    {t : TypeExpr} (hne : ts ≠ []) (hmark : op.mark ∉ enders) (ht : normal t = normal e)
    (h : ∀ rest, Follows (op.mark :: enders) rest → item (ts ++ rest) = some (t, rest)) :
    ReadsOperands op item enders ts e :=
  ⟨[t], by simp [ht], lists_singleton hne hmark h⟩

lemma ReadsOperands.operated {op : Operator} {item : Reading TypeExpr} {enders : List Char}
    (h : ReadsOperands op item enders ts e) :
    ∃ t, normal t = normal e ∧
      ∀ rest, Follows enders rest → operated op item (ts ++ rest) = some (t, rest) := by
  obtain ⟨types, htypes, hlists⟩ := h
  have hne : types ≠ [] := by
    rintro rfl
    exact Operator.operands_ne_nil (TypeExpr.flat_normal e) htypes.symm
  refine ⟨op.ofOperands types, TypeExpr.normal_ofOperands_eq hne ?_, fun rest hrest => ?_⟩
  · rw [List.flatMap_map, htypes]
  · rw [TypeText.operated, hlists.last rest hrest, Option.map_some]

lemma ReadsPostfixed.intersection (hne : ts ≠ []) (h : ReadsPostfixed type ts e) :
    ReadsIntersection type ts e := by
  obtain ⟨t, ht, hread⟩ := h
  refine ReadsOperands.singleton hne (by decide) ht fun rest hrest => ?_
  rw [hread rest (hrest.head?_ne (by decide)), brackets_eq_self (hrest.head?_ne (by decide))]

lemma ReadsIntersection.union (hne : ts ≠ []) (h : ReadsIntersection type ts e) :
    ReadsUnion type ts e := by
  obtain ⟨t, ht, hread⟩ := ReadsOperands.operated h
  exact ReadsOperands.singleton hne (by decide) ht hread

/-- The tokens are read as the expression in each place it may stand in without parentheses. -/
structure ReadsBack (type : Reading TypeExpr) (ts : List Token) (e : TypeExpr) : Prop where
  union : ReadsUnion type ts e
  intersection : e.isUnion = false → ReadsIntersection type ts e
  postfixed : e.isCompound = false → ReadsPostfixed type ts e

lemma ReadsPostfixed.readsBack (hne : ts ≠ []) (h : ReadsPostfixed type ts e) :
    ReadsBack type ts e where
  union := (h.intersection hne).union hne
  intersection _ := h.intersection hne
  postfixed _ := h

lemma ReadsIntersection.readsBack (hne : ts ≠ []) (h : ReadsIntersection type ts e)
    (hcompound : e.isCompound = true) : ReadsBack type ts e where
  union := h.union hne
  intersection _ := h
  postfixed hnot := by rw [hcompound] at hnot; cases hnot

/-! ### First tokens -/

/-- There is a first token, and it closes no list. -/
def Opens (ts : List Token) : Prop := ∃ t rest, ts = t :: rest ∧ t ∉ closers.map Token.mark

lemma Opens.ne_nil (h : Opens ts) : ts ≠ [] := by
  obtain ⟨t, rest, rfl, -⟩ := h
  exact List.cons_ne_nil t rest

lemma Opens.append (h : Opens ts) (us : List Token) : Opens (ts ++ us) := by
  obtain ⟨t, rest, rfl, ht⟩ := h
  exact ⟨t, rest ++ us, rfl, ht⟩

lemma Opens.joined (h : Opens ts) (mark : Char) (tss : List (List Token)) :
    Opens (joined mark (ts :: tss)) := by
  cases tss with
  | nil => exact h
  | cons us tss => exact h.append _

lemma Opens.grouped (h : Opens ts) (parentheses : Bool) : Opens (grouped parentheses ts) := by
  cases parentheses with
  | false => exact h
  | true => exact ⟨.mark '(', _, rfl, by decide⟩

lemma opens_literalTokens (text : String) : Opens (literalTokens text) := by
  unfold literalTokens
  split
  · exact ⟨.word text, [], rfl, by simp⟩
  · split
    · exact ⟨.numeral text, [], rfl, by simp⟩
    · split
      · exact ⟨.quoted text, [], rfl, by simp⟩
      · exact ⟨.mark '{', _, rfl, by decide⟩

lemma opens_tokensOf (e : TypeExpr) : Opens (tokensOf e) := by
  induction e using TypeExpr.induction with
  | literal text => exact opens_literalTokens text
  | object layout members _ => exact ⟨.mark '{', _, rfl, by decide⟩
  | union members ih =>
    cases members with
    | nil => exact ⟨.word "never", [], rfl, by simp⟩
    | cons member rest => exact (ih member (by simp)).joined '|' _
  | intersection members ih =>
    cases members with
    | nil => exact ⟨.word "unknown", [], rfl, by simp⟩
    | cons member rest => exact ((ih member (by simp)).grouped _).joined '&' _
  | generic name arguments _ => exact ⟨.word name, _, rfl, by simp⟩
  | array item ih => exact (ih.grouped _).append _

/-! ### Between brackets -/

/-- The tokens of the expression are read as it is, where a bracket or mark closes it. -/
def ReadsWithin (depth : Nat) (e : TypeExpr) : Prop :=
  ∃ t, normal t = normal e ∧
    ∀ rest, Follows closers rest → typeWithin depth (tokensOf e ++ rest) = some (t, rest)

lemma readsWithin_of_readsUnion (h : ReadsUnion (typeWithin depth) (tokensOf e) e) :
    ReadsWithin (depth + 1) e :=
  ReadsOperands.operated h

lemma closed_eq {α : Type} {mark : Char} {item : Reading α} {x : α}
    (h : item ts = some (x, .mark mark :: rest)) : closed mark item ts = some (x, rest) := by
  simp [closed, h]

lemma ReadsPostfixed.of_primary {t : TypeExpr} (ht : normal t = normal e)
    (h : ∀ rest, rest.head? ≠ some (.mark '<') → primary type (ts ++ rest) = some (t, rest)) :
    ReadsPostfixed type ts e :=
  ⟨t, ht, fun rest hrest => by rw [postfixed, h rest hrest, Option.map_some]⟩

lemma readsPostfixed_word (text : String) : ReadsPostfixed type [.word text] (.literal text) := by
  refine ReadsPostfixed.of_primary rfl fun rest hrest => ?_
  rw [List.singleton_append]
  unfold primary
  split <;> simp_all

lemma readsPostfixed_literal {text : String} (h : isLiteral text = true) :
    ReadsPostfixed type (literalTokens text) (.literal text) := by
  unfold literalTokens
  split
  · exact readsPostfixed_word text
  · split
    · exact ReadsPostfixed.of_primary rfl fun rest _ => rfl
    · split
      · exact ReadsPostfixed.of_primary rfl fun rest _ => rfl
      · obtain rfl : text = "\x7b\x7d" := by simp_all [isLiteral]
        exact ReadsPostfixed.of_primary (t := .object .inline []) rfl fun rest _ => rfl

lemma readsPostfixed_parentheses (h : ReadsWithin depth e) :
    ReadsPostfixed (typeWithin depth) (grouped true (tokensOf e)) e := by
  obtain ⟨t, ht, hread⟩ := h
  refine ReadsPostfixed.of_primary ht fun rest _ => ?_
  have hclose := hread (.mark ')' :: rest) (follows_cons (by decide))
  rw [grouped, if_pos rfl, List.append_assoc, List.singleton_append]
  exact closed_eq hclose

lemma ReadsPostfixed.array (h : ReadsPostfixed type ts e) :
    ReadsPostfixed type (ts ++ [.mark '[', .mark ']']) (.array e) := by
  obtain ⟨t, ht, hread⟩ := h
  refine ⟨.array t, by rw [normal, normal, ht], fun rest _ => ?_⟩
  rw [List.append_assoc, hread _ (by simp)]
  rfl

/-- A list between brackets is read item by item. -/
lemma closed_many_joined {α β γ : Type} (mark close : Char) {item : Reading α}
    {tokens : β → List Token} {f : α → γ} {g : β → γ} {items : List β} (hne : items ≠ [])
    (hmark : mark ∈ closers) (hclose : close ∈ closers) (hdiff : mark ≠ close)
    (htokens : ∀ b ∈ items, tokens b ≠ [])
    (h : ∀ b ∈ items, ∃ x, f x = g b ∧
      ∀ rest, Follows closers rest → item (tokens b ++ rest) = some (x, rest)) :
    ∃ xs, xs.map f = items.map g ∧ ∀ rest,
      closed close (many mark item) (joined mark (items.map tokens) ++ .mark close :: rest) =
        some (xs, rest) := by
  have hsub : [mark, close] ⊆ closers := by simp [hmark, hclose]
  have hlists : ListsAs mark item [close] (fun x => [f x]) (joined mark (items.map tokens))
      (items.flatMap fun b => [g b]) := by
    refine listsAs_joined hne fun b hb => ?_
    obtain ⟨x, hx, hread⟩ := h b hb
    exact ⟨[x], by simp [hx], lists_singleton (htokens b hb) (by simpa using hdiff)
      fun rest hrest => hread rest (hrest.mono hsub)⟩
  obtain ⟨xs, hxs, hlists⟩ := hlists
  refine ⟨xs, by rw [List.map_eq_flatMap, hxs, List.map_eq_flatMap], fun rest => ?_⟩
  exact closed_eq (hlists.last _ (follows_cons (List.mem_singleton_self close)))

lemma primary_generic (name : String) (h : Opens ts) :
    primary type (.word name :: .mark '<' :: ts) =
      (closed '>' (many ',' type) ts).map fun (arguments, rest) =>
        (.generic name arguments, rest) := by
  obtain ⟨t, rest, rfl, ht⟩ := h
  rw [primary]
  rintro rest' heq
  cases heq
  exact ht (by decide)

lemma readsPostfixed_generic {name : String} {arguments : List TypeExpr}
    (h : ∀ a ∈ arguments, ReadsWithin depth a) :
    ReadsPostfixed (typeWithin depth) (tokensOf (.generic name arguments))
      (.generic name arguments) := by
  cases arguments with
  | nil => exact ReadsPostfixed.of_primary (t := .generic name []) rfl fun rest _ => rfl
  | cons a more =>
    obtain ⟨types, htypes, hread⟩ := closed_many_joined ',' '>' (List.cons_ne_nil a more)
      (by decide) (by decide) (by decide) (fun b _ => (opens_tokensOf b).ne_nil) h
    refine ReadsPostfixed.of_primary (t := .generic name types) ?_ fun rest _ => ?_
    · rw [normal, normal, TypeExpr.normalAll_eq_map, TypeExpr.normalAll_eq_map, htypes]
    · have hopens : Opens (joined ',' ((a :: more).map tokensOf)) :=
        (opens_tokensOf a).joined ',' _
      simp only [tokensOf, tokensOfAll_eq_map, List.cons_append, List.append_assoc,
        List.nil_append]
      rw [primary_generic name (hopens.append _), hread, Option.map_some]

lemma keyText?_quote (text : String) : keyText? (.quoted (Json.quote text)) = some text := by
  have hbody := Json.stringBody_flatMap_quoteChar [] text.toList []
  simp only [keyText?, Json.quote, String.toList_ofList, List.cons_append, hbody]
  simp

lemma keyText?_keyToken (key : Key) : keyText? (keyToken key) = some key.text := by
  unfold keyToken
  split
  · exact keyText?_quote key.text
  · split
    · rfl
    · split
      · rfl
      · exact keyText?_quote key.text

lemma member_memberTokens {m : Member TypeExpr} (h : ReadsWithin depth m.type) :
    ∃ m', normalMember m' = normalMember m ∧ ∀ rest, Follows closers rest →
      member (typeWithin depth) (memberTokens m.key m.optional (tokensOf m.type) ++ rest) =
        some (m', rest) := by
  obtain ⟨key, optional, e⟩ := m
  obtain ⟨t, ht, hread⟩ := h
  refine ⟨⟨⟨key.text, false⟩, optional, t⟩, ?_, fun rest hrest => ?_⟩
  · simp [normalMember, Member.name, ht]
  · cases optional with
    | true =>
      simp [memberTokens, member, keyText?_keyToken, hread rest hrest, Member.optionalField]
    | false => simp [memberTokens, member, keyText?_keyToken, hread rest hrest, Member.field]

lemma opens_memberTokens (key : Key) (optional : Bool) (us : List Token) :
    Opens (memberTokens key optional us) := by
  refine ⟨keyToken key, _, rfl, ?_⟩
  unfold keyToken
  repeat' split
  all_goals simp

lemma primary_object (h : Opens ts) :
    primary type (.mark '{' :: ts) =
      (closed '}' (many ';' (member type)) ts).map fun (members, rest) =>
        (.object .inline members, rest) := by
  obtain ⟨t, rest, rfl, ht⟩ := h
  rw [primary]
  rintro rest' heq
  cases heq
  exact ht (by decide)

lemma readsPostfixed_object {layout : ObjectLayout} {members : List (Member TypeExpr)}
    (h : ∀ m ∈ members, ReadsWithin depth m.type) :
    ReadsPostfixed (typeWithin depth) (tokensOf (.object layout members))
      (.object layout members) := by
  cases members with
  | nil => exact ReadsPostfixed.of_primary (t := .object .inline []) rfl fun rest _ => rfl
  | cons m more =>
    obtain ⟨read, hread, hclosed⟩ := closed_many_joined ';' '}' (List.cons_ne_nil m more)
      (by decide) (by decide) (by decide)
      (fun m _ => (opens_memberTokens m.key m.optional (tokensOf m.type)).ne_nil)
      fun m hm => member_memberTokens (h m hm)
    have hne : read ≠ [] := by
      rintro rfl
      cases hread
    refine ReadsPostfixed.of_primary (t := .object .inline read) ?_ fun rest _ => ?_
    · rw [TypeExpr.normal_object hne, TypeExpr.normal_object (List.cons_ne_nil m more), hread]
    · have hopens : Opens (joined ';' (tokensOfMembers (m :: more))) :=
        (opens_memberTokens m.key m.optional (tokensOf m.type)).joined ';' _
      simp only [tokensOf, List.cons_append, List.append_assoc, List.nil_append]
      rw [primary_object (hopens.append _), tokensOfMembers_eq_map, hclosed, Option.map_some]

/-! ### Every type -/

lemma length_le_joined {mark : Char} {tss : List (List Token)} (h : ts ∈ tss) :
    ts.length ≤ (joined mark tss).length := by
  induction tss with
  | nil => cases h
  | cons us rest ih =>
    cases rest with
    | nil => simp_all [joined]
    | cons vs rest =>
      rw [joined, List.length_append, List.length_cons]
      rcases List.mem_cons.mp h with rfl | h
      · omega
      · have := ih h
        omega
      · simp

lemma length_tokensOf_member (layout : ObjectLayout) {members : List (Member TypeExpr)}
    {m : Member TypeExpr} (hm : m ∈ members) :
    (tokensOf m.type).length < (tokensOf (.object layout members)).length := by
  have hmem : memberTokens m.key m.optional (tokensOf m.type) ∈ tokensOfMembers members := by
    rw [tokensOfMembers_eq_map]
    exact List.mem_map.mpr ⟨m, hm, rfl⟩
  have hjoined : (memberTokens m.key m.optional (tokensOf m.type)).length ≤
      (joined ';' (tokensOfMembers members)).length := length_le_joined hmem
  simp only [memberTokens, List.length_cons, List.length_append] at hjoined
  simp only [tokensOf, List.length_cons, List.length_append]
  omega

lemma length_tokensOf_argument (name : String) {arguments : List TypeExpr} (he : e ∈ arguments) :
    (tokensOf e).length < (tokensOf (.generic name arguments)).length := by
  have hjoined : (tokensOf e).length ≤ (joined ',' (tokensOfAll arguments)).length :=
    length_le_joined (by rw [tokensOfAll_eq_map]; exact List.mem_map_of_mem he)
  simp only [tokensOf, List.length_cons, List.length_append]
  omega

lemma length_tokensOf_union {members : List TypeExpr} (he : e ∈ members) :
    (tokensOf e).length ≤ (tokensOf (.union members)).length := by
  cases members with
  | nil => cases he
  | cons first rest =>
    rw [tokensOf, tokensOfAll_eq_map]
    exact length_le_joined (List.mem_map_of_mem he)

lemma length_tokensOf_intersection {members : List TypeExpr} (he : e ∈ members) :
    (grouped e.isUnion (tokensOf e)).length ≤ (tokensOf (.intersection members)).length := by
  cases members with
  | nil => cases he
  | cons first rest =>
    rw [tokensOf, tokensOfGrouped_eq_map]
    exact length_le_joined (List.mem_map.mpr ⟨e, he, rfl⟩)

lemma length_lt_grouped_true (ts : List Token) : ts.length < (grouped true ts).length := by
  rw [grouped, if_pos rfl, List.length_append, List.length_cons]
  omega

lemma length_le_grouped (parentheses : Bool) (ts : List Token) :
    ts.length ≤ (grouped parentheses ts).length := by
  cases parentheses with
  | false => exact Nat.le_refl _
  | true => exact (length_lt_grouped_true ts).le

lemma ReadsBack.of_normal_eq {e' : TypeExpr} (h : ReadsBack type ts e')
    (hnormal : normal e = normal e') (hunion : e.isUnion = e'.isUnion)
    (hcompound : e.isCompound = e'.isCompound) : ReadsBack type ts e := by
  obtain ⟨h1, h2, h3⟩ := h
  refine ⟨?_, fun hnot => ?_, fun hnot => ?_⟩
  · rw [ReadsUnion, ReadsOperands, hnormal]
    exact h1
  · rw [ReadsIntersection, ReadsOperands, hnormal]
    exact h2 (hunion ▸ hnot)
  · rw [ReadsPostfixed, hnormal]
    exact h3 (hcompound ▸ hnot)

/-- Several members with the operator between them are read as the operands of all of them. -/
lemma readsOperands_joined {op : Operator} {item : Reading TypeExpr} {enders : List Char}
    {tokens : TypeExpr → List Token} {members : List TypeExpr} (hne : members ≠ [])
    (h : ∀ m ∈ members, ReadsOperands op item enders (tokens m) m) :
    ReadsOperands op item enders (joined op.mark (members.map tokens)) (op.make members) := by
  have hflat : ∀ t ∈ members.map normal, TypeExpr.Flat t := by
    intro t ht
    obtain ⟨m, -, rfl⟩ := List.mem_map.mp ht
    exact TypeExpr.flat_normal m
  rw [ReadsOperands, TypeExpr.normal_make, Operator.operands_join (by simpa using hne) hflat,
    List.flatMap_map]
  exact listsAs_joined hne h

lemma normal_make_singleton (op : Operator) (e : TypeExpr) :
    normal (op.make [e]) = normal e := by
  rw [TypeExpr.normal_make]
  exact (TypeExpr.normal_ofOperands (List.cons_ne_nil e [])).symm

lemma readsBack_union {members : List TypeExpr}
    (h : ∀ m ∈ members, ReadsBack type (tokensOf m) m) :
    ReadsBack type (tokensOf (.union members)) (.union members) := by
  match members with
  | [] => exact (readsPostfixed_word "never").readsBack (List.cons_ne_nil _ _)
  | [single] =>
    exact (h single (by simp)).of_normal_eq (normal_make_singleton .union single) rfl rfl
  | first :: second :: rest =>
    refine ⟨?_, nofun, nofun⟩
    rw [tokensOf, tokensOfAll_eq_map]
    exact readsOperands_joined (List.cons_ne_nil _ _) fun m hm => (h m hm).union

lemma readsIntersection_grouped {m : TypeExpr}
    (h : ReadsBack (typeWithin depth) (tokensOf m) m)
    (hwithin : m.isUnion = true → ReadsWithin depth m) :
    ReadsIntersection (typeWithin depth) (grouped m.isUnion (tokensOf m)) m := by
  cases hunion : m.isUnion with
  | true => exact (readsPostfixed_parentheses (hwithin hunion)).intersection (List.cons_ne_nil _ _)
  | false => exact h.intersection hunion

lemma readsBack_intersection {members : List TypeExpr}
    (h : ∀ m ∈ members, ReadsBack (typeWithin depth) (tokensOf m) m)
    (hwithin : ∀ m ∈ members, m.isUnion = true → ReadsWithin depth m) :
    ReadsBack (typeWithin depth) (tokensOf (.intersection members)) (.intersection members) := by
  have hne := (opens_tokensOf (.intersection members)).ne_nil
  match members with
  | [] => exact (readsPostfixed_word "unknown").readsBack hne
  | [single] =>
    have hnormal := normal_make_singleton .intersection single
    change ReadsBack (typeWithin depth) (grouped single.isUnion (tokensOf single)) _
    cases hunion : single.isUnion with
    | true =>
      obtain ⟨t, ht, hread⟩ := readsPostfixed_parentheses (hwithin single (by simp) hunion)
      exact ReadsPostfixed.readsBack (List.cons_ne_nil _ _) ⟨t, ht.trans hnormal.symm, hread⟩
    | false => exact (h single (by simp)).of_normal_eq hnormal hunion.symm rfl
  | first :: second :: rest =>
    refine ReadsIntersection.readsBack hne ?_ rfl
    rw [tokensOf, tokensOfGrouped_eq_map]
    exact readsOperands_joined (List.cons_ne_nil _ _) fun m hm =>
      readsIntersection_grouped (h m hm) (hwithin m hm)

lemma ReadsWithin.of_readsBack (hlen : (tokensOf e).length ≤ depth)
    (h : ∀ depth, (tokensOf e).length ≤ depth + 1 → ReadsBack (typeWithin depth) (tokensOf e) e) :
    ReadsWithin depth e := by
  have hpos := List.length_pos_iff.mpr (opens_tokensOf e).ne_nil
  obtain ⟨d, rfl⟩ : ∃ d, depth = d + 1 := ⟨depth - 1, by omega⟩
  exact readsWithin_of_readsUnion (h d hlen).union

/-- Brackets cost tokens, so what stands between them is read with less depth. -/
theorem readsBack (h : isLexical e = true) (hlen : (tokensOf e).length ≤ depth + 1) :
    ReadsBack (typeWithin depth) (tokensOf e) e := by
  induction e using TypeExpr.induction generalizing depth with
  | literal text => exact (readsPostfixed_literal h).readsBack (opens_literalTokens text).ne_nil
  | object layout members ih =>
    rw [isLexical, areLexicalMembers_iff] at h
    refine (readsPostfixed_object fun m hm => ?_).readsBack (List.cons_ne_nil _ _)
    have hm' := length_tokensOf_member layout hm
    exact ReadsWithin.of_readsBack (by omega) fun d => ih m hm (h m hm)
  | union members ih =>
    rw [isLexical, areLexical_iff] at h
    refine readsBack_union fun m hm => ih m hm (h m hm) ?_
    exact (length_tokensOf_union hm).trans hlen
  | intersection members ih =>
    rw [isLexical, areLexical_iff] at h
    refine readsBack_intersection (fun m hm => ih m hm (h m hm) ?_) fun m hm hunion => ?_
    · exact (length_le_grouped _ _).trans ((length_tokensOf_intersection hm).trans hlen)
    · have hm' := length_tokensOf_intersection hm
      have hgrouped := length_lt_grouped_true (tokensOf m)
      rw [hunion] at hm'
      exact ReadsWithin.of_readsBack (by omega) fun d => ih m hm (h m hm)
  | generic name arguments ih =>
    rw [isLexical, Bool.and_eq_true, areLexical_iff] at h
    refine (readsPostfixed_generic fun a ha => ?_).readsBack (List.cons_ne_nil _ _)
    have ha' := length_tokensOf_argument name ha
    exact ReadsWithin.of_readsBack (by omega) fun d => ih a ha (h.2 a ha)
  | array item ih =>
    refine ReadsPostfixed.readsBack (opens_tokensOf (.array item)).ne_nil ?_
    rw [tokensOf] at hlen ⊢
    refine ReadsPostfixed.array ?_
    cases hcompound : item.isCompound with
    | true =>
      have hgrouped := length_lt_grouped_true (tokensOf item)
      rw [hcompound, List.length_append] at hlen
      exact readsPostfixed_parentheses (ReadsWithin.of_readsBack (by omega) fun d => ih h)
    | false =>
      rw [hcompound, List.length_append] at hlen
      exact (ih h ((Nat.le_add_right _ _).trans hlen)).postfixed hcompound

/-- Reading what was rendered gives the expression that was rendered, up to its normal form. -/
theorem read_render (width : Nat) (e : TypeExpr) (h : isLexical e = true) :
    (read (e.render width)).map normal = some (normal e) := by
  have htokens : tokens? (e.render width) = some (tokensOf e) := by
    rw [TypeExpr.render_eq]
    exact tokens?_renderAt h width 0
  obtain ⟨t, ht, hread⟩ := ReadsWithin.of_readsBack (Nat.le_refl _) fun _ => readsBack h
  have hall := hread [] (by simp [Follows])
  rw [List.append_nil] at hall
  rw [read, htokens]
  simp [hall, ht]

/-- An array of a union, with a union and a block object inside an intersection. -/
def sampleType : TypeExpr :=
  .array (.union
    [.intersection
      [.union [.literal "A", .stringLiteral "b"],
       .object .block
        [⟨⟨"x-y", false⟩, true, .literal "1.5"⟩, ⟨⟨"k", true⟩, false, .union []⟩]],
     .generic "Record" [.literal "string", .intersection []]])

def sampleText : String :=
  "((A | \"b\") & \x7b\n  \"x-y\"?: 1.5;\n  \"k\": never\n\x7d | Record<string, unknown>)[]"

theorem read_sampleText :
    isLexical sampleType = true ∧ sampleType.render 2 = sampleText ∧
      (read sampleText).map normal = some (normal sampleType) := by
  have htext : sampleType.render 2 = sampleText := by decide +kernel
  exact ⟨by decide +kernel, htext, htext ▸ read_render 2 sampleType (by decide +kernel)⟩

end ApiTypes.TypeText
