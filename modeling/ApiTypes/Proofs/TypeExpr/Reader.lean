import ApiTypes.Proofs.TypeExpr.Rendered

/-!
Reading types.

From the outside in, a type is written as types between `|`, each of them as types between `&`, each
of those as a type with any number of `[]` behind it; innermost stand names, literals, generic
types, objects and types in parentheses. The grammar is a function from tokens to a type and the
tokens that are left, with the reading of what stands between brackets as an argument; only their
nesting is bounded. A list is read as its parts are, wherever what follows cannot go on with it.
-/

namespace ApiTypes

/-- The mark between the operands. -/
def Operator.mark : Operator → Char
  | .union => '|'
  | .intersection => '&'

namespace TypeText

open TypeExpr (normal)

abbrev Reading (α : Type) := List Token → Option (α × List Token)

variable {α β γ : Type}

/-! ### The grammar -/

/-- At least one and at most `count`, with a mark between them. -/
def separated (mark : Char) (item : Reading α) : Nat → Reading (List α)
  | 0, _ => none
  | count + 1, ts =>
    match item ts with
    | none => none
    | some (x, rest) =>
      if rest.head? = some (.mark mark) then
        (separated mark item count rest.tail).map fun (xs, rest) => (x :: xs, rest)
      else some ([x], rest)

def many (mark : Char) (item : Reading α) : Reading (List α) := fun ts =>
  separated mark item ts.length ts

def closed (mark : Char) (item : Reading α) : Reading α := fun ts =>
  match item ts with
  | none => none
  | some (x, rest) => if rest.head? = some (.mark mark) then some (x, rest.tail) else none

/-- The name that a key stands for. -/
def keyText? : Token → Option String
  | .word text => some text
  | .numeral text => some text
  | .quoted text =>
    match text.toList with
    | '"' :: cs =>
      match Json.Parser.stringBody [] cs with
      | some (key, []) => some key
      | _ => none
    | _ => none
  | .mark _ => none

def member (type : Reading TypeExpr) : Reading (Member TypeExpr)
  | [] => none
  | token :: rest =>
    match keyText? token with
    | none => none
    | some key =>
      match rest with
      | .mark '?' :: .mark ':' :: rest =>
        (type rest).map fun (t, rest) => (.optionalField key t, rest)
      | .mark ':' :: rest => (type rest).map fun (t, rest) => (.field key t, rest)
      | _ => none

/-- What binds tightest; `type` reads what stands between brackets. -/
def primary (type : Reading TypeExpr) : Reading TypeExpr
  | .word name :: .mark '<' :: .mark '>' :: rest => some (.generic name [], rest)
  | .word name :: .mark '<' :: rest =>
    (closed '>' (many ',' type) rest).map fun (arguments, rest) => (.generic name arguments, rest)
  | .word text :: rest => some (.literal text, rest)
  | .numeral text :: rest => some (.literal text, rest)
  | .quoted text :: rest => some (.literal text, rest)
  | .mark '(' :: rest => closed ')' type rest
  | .mark '{' :: .mark '}' :: rest => some (.object .inline [], rest)
  | .mark '{' :: rest =>
    (closed '}' (many ';' (member type)) rest).map fun (members, rest) =>
      (.object .inline members, rest)
  | _ => none

/-- The arrays of a type that the brackets behind it make. -/
def brackets : TypeExpr → List Token → TypeExpr × List Token
  | type, .mark '[' :: .mark ']' :: rest => brackets (.array type) rest
  | type, rest => (type, rest)

def postfixed (type : Reading TypeExpr) : Reading TypeExpr := fun ts =>
  (primary type ts).map fun (t, rest) => brackets t rest

def operated (op : Operator) (item : Reading TypeExpr) : Reading TypeExpr := fun ts =>
  (many op.mark item ts).map fun (types, rest) => (op.ofOperands types, rest)

/-- A type with brackets nested less than `depth` deep. -/
def typeWithin : Nat → Reading TypeExpr
  | 0 => fun _ => none
  | depth + 1 => operated .union (operated .intersection (postfixed (typeWithin depth)))

/-- The type that a text is, with nothing behind it. -/
def read (text : String) : Option TypeExpr :=
  match tokens? text with
  | none => none
  | some ts =>
    match typeWithin ts.length ts with
    | some (type, []) => some type
    | _ => none

/-! ### Lists with a mark between the items -/

section

variable {mark : Char} {item : Reading α} {ts rest : List Token} {x : α} {xs ys : List α}

lemma separated_mono {m n : Nat} {result : List α × List Token}
    (h : separated mark item m ts = some result) (hle : m ≤ n) :
    separated mark item n ts = some result := by
  induction m generalizing n ts result with
  | zero => cases h
  | succ m ih =>
    obtain ⟨k, rfl⟩ : ∃ k, n = k + 1 := ⟨n - 1, by omega⟩
    rw [separated] at h ⊢
    cases hitem : item ts with
    | none => simp [hitem] at h
    | some first =>
      simp only [hitem] at h ⊢
      split
      · next hmark =>
        rw [if_pos hmark, Option.map_eq_some_iff] at h
        obtain ⟨more, hmore, rfl⟩ := h
        rw [ih hmore (by omega), Option.map_some]
      · next hmark => rwa [if_neg hmark] at h

lemma many_last (hne : ts ≠ []) (h : item ts = some (x, rest))
    (hrest : rest.head? ≠ some (.mark mark)) : many mark item ts = some ([x], rest) := by
  obtain ⟨t, ts, rfl⟩ := List.exists_cons_of_ne_nil hne
  rw [many, List.length_cons, separated, h]
  simp [hrest]

lemma many_cons (h : item ts = some (x, .mark mark :: rest)) (hlt : rest.length < ts.length)
    {rest' : List Token} (hrest : many mark item rest = some (xs, rest')) :
    many mark item ts = some (x :: xs, rest') := by
  obtain ⟨n, hn⟩ : ∃ n, ts.length = n + 1 := ⟨ts.length - 1, by omega⟩
  rw [many, hn, separated, h]
  simp [separated_mono hrest (show rest.length ≤ n by omega)]

/-- The text behind is at its end or goes on with one of the marks. -/
def Follows (cs : List Char) (rest : List Token) : Prop :=
  ∀ t ∈ rest.head?, ∃ c ∈ cs, t = .mark c

lemma Follows.mono {cs ds : List Char} (h : Follows cs rest) (hsub : cs ⊆ ds) :
    Follows ds rest := by
  intro t ht
  obtain ⟨c, hc, rfl⟩ := h t ht
  exact ⟨c, hsub hc, rfl⟩

lemma Follows.head?_ne {cs : List Char} {c : Char} (h : Follows cs rest) (hc : c ∉ cs) :
    rest.head? ≠ some (.mark c) := by
  intro hhead
  obtain ⟨d, hd, heq⟩ := h _ hhead
  cases heq
  exact hc hd

lemma follows_cons {cs : List Char} {c : Char} (hc : c ∈ cs) : Follows cs (.mark c :: rest) := by
  intro t ht
  cases ht
  exact ⟨c, hc, rfl⟩

/-- The tokens are read as these items, at the end of a list and inside it. -/
structure Lists (mark : Char) (item : Reading α) (enders : List Char) (ts : List Token)
    (xs : List α) : Prop where
  last : ∀ rest, Follows enders rest → many mark item (ts ++ rest) = some (xs, rest)
  more : ∀ us ys rest, many mark item us = some (ys, rest) →
    many mark item (ts ++ .mark mark :: us) = some (xs ++ ys, rest)

variable {enders : List Char}

lemma lists_singleton (hne : ts ≠ []) (hmark : mark ∉ enders)
    (h : ∀ rest, Follows (mark :: enders) rest → item (ts ++ rest) = some (x, rest)) :
    Lists mark item enders ts [x] where
  last rest hrest := by
    refine many_last (by simp [hne]) (h rest (hrest.mono (List.subset_cons_self ..))) ?_
    exact hrest.head?_ne hmark
  more us ys rest hus := by
    refine many_cons (h _ (follows_cons (List.mem_cons_self ..))) ?_ hus
    simp
    omega

lemma Lists.append (h : Lists mark item enders ts xs) {us : List Token}
    (hus : Lists mark item enders us ys) :
    Lists mark item enders (ts ++ .mark mark :: us) (xs ++ ys) where
  last rest hrest := by
    rw [List.append_assoc, List.cons_append]
    exact h.more _ _ _ (hus.last rest hrest)
  more vs zs rest hvs := by
    rw [List.append_assoc, List.cons_append, List.append_assoc]
    exact h.more _ _ _ (hus.more vs zs rest hvs)

/-- The tokens are read as items that come to `values` between them. -/
def ListsAs (mark : Char) (item : Reading α) (enders : List Char) (value : α → List γ)
    (ts : List Token) (values : List γ) : Prop :=
  ∃ xs, xs.flatMap value = values ∧ Lists mark item enders ts xs

lemma listsAs_joined {value : α → List γ} {tokens : β → List Token} {values : β → List γ}
    {items : List β} (hne : items ≠ [])
    (h : ∀ b ∈ items, ListsAs mark item enders value (tokens b) (values b)) :
    ListsAs mark item enders value (joined mark (items.map tokens)) (items.flatMap values) := by
  induction items with
  | nil => exact absurd rfl hne
  | cons b rest ih =>
    obtain ⟨xs, hxs, hlists⟩ := h b (by simp)
    cases rest with
    | nil => exact ⟨xs, by simpa using hxs, hlists⟩
    | cons b' rest =>
      obtain ⟨ys, hys, hrest⟩ := ih (by simp) fun d hd => h d (List.mem_cons_of_mem b hd)
      exact ⟨xs ++ ys, by rw [List.flatMap_append, hxs, hys, ← List.flatMap_cons],
        hlists.append hrest⟩

end

end TypeText

end ApiTypes
