import ApiTypes.Proofs.TypeExpr.Name
import ApiTypes.Proofs.TypeExpr.Token
import ApiTypes.Proofs.TypeExpr.Writer

/-!
The tokens of rendered types.

Blanks, line breaks and indentation leave no trace among the tokens, so the depth and the width of
the indentation and the layout of objects do not matter.
-/

namespace ApiTypes.TypeText

open ApiTypes.TypeName (isIdentifier)
open TypeExpr (renderAt renderMember)

/-! ### Tokens put together as the text is -/

/-- Lists of tokens with a mark between them. -/
def joined (mark : Char) : List (List Token) → List Token
  | [] => []
  | [ts] => ts
  | ts :: rest => ts ++ .mark mark :: joined mark rest

def grouped (parentheses : Bool) (ts : List Token) : List Token :=
  if parentheses then .mark '(' :: ts ++ [.mark ')'] else ts

def literalTokens (text : String) : List Token :=
  if isIdentifier text then [.word text]
  else if isNumeral text then [.numeral text]
  else if isQuoted text then [.quoted text]
  else [.mark '{', .mark '}']

def keyToken (key : Key) : Token :=
  if key.quoted then .quoted (Json.quote key.text)
  else if isIdentifier key.text then .word key.text
  else if Key.isInteger key.text then .numeral key.text
  else .quoted (Json.quote key.text)

def memberTokens (key : Key) (optional : Bool) (type : List Token) : List Token :=
  keyToken key :: ((if optional then [.mark '?'] else []) ++ .mark ':' :: type)

mutual

def tokensOf : TypeExpr → List Token
  | .literal text => literalTokens text
  | .object _ members => .mark '{' :: joined ';' (tokensOfMembers members) ++ [.mark '}']
  | .union [] => [.word "never"]
  | .union (member :: rest) => joined '|' (tokensOfAll (member :: rest))
  | .intersection [] => [.word "unknown"]
  | .intersection (member :: rest) => joined '&' (tokensOfGrouped (member :: rest))
  | .generic name arguments =>
    .word name :: .mark '<' :: joined ',' (tokensOfAll arguments) ++ [.mark '>']
  | .array item => grouped item.isCompound (tokensOf item) ++ [.mark '[', .mark ']']

def tokensOfAll : List TypeExpr → List (List Token)
  | [] => []
  | type :: rest => tokensOf type :: tokensOfAll rest

def tokensOfGrouped : List TypeExpr → List (List Token)
  | [] => []
  | type :: rest => grouped type.isUnion (tokensOf type) :: tokensOfGrouped rest

def tokensOfMembers : List (Member TypeExpr) → List (List Token)
  | [] => []
  | ⟨key, optional, type⟩ :: rest =>
    memberTokens key optional (tokensOf type) :: tokensOfMembers rest

end

lemma tokensOfAll_eq_map (types : List TypeExpr) : tokensOfAll types = types.map tokensOf := by
  induction types with
  | nil => rfl
  | cons type rest ih => rw [tokensOfAll, ih, List.map_cons]

lemma tokensOfGrouped_eq_map (types : List TypeExpr) :
    tokensOfGrouped types = types.map fun t => grouped t.isUnion (tokensOf t) := by
  induction types with
  | nil => rfl
  | cons type rest ih => rw [tokensOfGrouped, ih, List.map_cons]

lemma tokensOfMembers_eq_map (members : List (Member TypeExpr)) :
    tokensOfMembers members =
      members.map fun m => memberTokens m.key m.optional (tokensOf m.type) := by
  induction members with
  | nil => rfl
  | cons member rest ih => rw [tokensOfMembers, ih, List.map_cons]

/-! ### Types whose literals are tokens -/

def isLiteral (text : String) : Bool :=
  isIdentifier text || isNumeral text || isQuoted text || text == "\x7b\x7d"

mutual

/-- Every literal is a single token or a pair of braces, and every generic type has an identifier
for its name. -/
def isLexical : TypeExpr → Bool
  | .literal text => isLiteral text
  | .object _ members => areLexicalMembers members
  | .union members => areLexical members
  | .intersection members => areLexical members
  | .generic name arguments => isIdentifier name && areLexical arguments
  | .array item => isLexical item

def areLexical : List TypeExpr → Bool
  | [] => true
  | type :: rest => isLexical type && areLexical rest

def areLexicalMembers : List (Member TypeExpr) → Bool
  | [] => true
  | ⟨_, _, type⟩ :: rest => isLexical type && areLexicalMembers rest

end

lemma areLexical_iff {types : List TypeExpr} :
    areLexical types = true ↔ ∀ t ∈ types, isLexical t = true := by
  induction types with
  | nil => simp [areLexical]
  | cons type rest ih => simp [areLexical, ih]

lemma areLexicalMembers_iff {members : List (Member TypeExpr)} :
    areLexicalMembers members = true ↔ ∀ m ∈ members, isLexical m.type = true := by
  induction members with
  | nil => simp [areLexicalMembers]
  | cons member rest ih => simp [areLexicalMembers, ih]

/-! ### Lists of texts -/

lemma tokens?_join {α : Type} {p : String} {c : Char} {items : List α}
    {text : α → String} {ts : α → List Token}
    (hp : isPunctuation p = true) (hmark : punctuation p = [.mark c])
    (h : ∀ x ∈ items, tokens? (text x) = some (ts x)) :
    tokens? (Text.join p (items.map text)) = some (joined c (items.map ts)) := by
  have hne : p ≠ "" := by
    rintro rfl
    cases hmark
  induction items with
  | nil => rfl
  | cons x rest ih =>
    cases rest with
    | nil => exact h x (by simp)
    | cons y rest =>
      have hrest := ih fun z hz => h z (List.mem_cons_of_mem x hz)
      have hall := tokens?_append hp hne (h x (by simp)) hrest
      rwa [hmark] at hall

/-! ### The tokens of a type -/

lemma tokens?_literal {text : String} (h : isLiteral text = true) :
    tokens? text = some (literalTokens text) := by
  unfold literalTokens
  split
  · next hword => exact tokens?_word hword
  · split
    · next hnumeral => exact tokens?_numeral hnumeral
    · split
      · next hquoted => exact tokens?_quoted hquoted
      · -- what is left are the braces
        obtain rfl : text = "\x7b\x7d" := by simp_all [isLiteral]
        rfl

lemma mem_numeralStarts_of_isDigit {c : Char} (h : c.isDigit = true) : c ∈ numeralStarts := by
  have hc : 48 ≤ c.toNat ∧ c.toNat ≤ 57 := by
    simpa [Char.isDigit, Char.le_def, UInt32.le_iff_toNat_le] using h
  rw [← Char.ofNat_toNat c]
  generalize c.toNat = n at hc
  obtain ⟨hlow, hhigh⟩ := hc
  interval_cases n <;> decide

lemma isNumeral_of_isInteger {text : String} (h : Key.isInteger text = true) :
    isNumeral text = true := by
  have hfrom : ∀ (cs read : List Char), (∀ c ∈ cs, c.isDigit = true) →
      numeralFrom read cs = true := by
    intro cs
    induction cs with
    | nil => exact fun _ _ => rfl
    | cons c cs ih =>
      intro read hcs
      have hrest := ih (c :: read) fun d hd => hcs d (List.mem_cons_of_mem c hd)
      simp [numeralFrom, numeralGoesOn, TypeName.isPart_of_isDigit (hcs c (by simp)), hrest]
  unfold Key.isInteger at h
  unfold isNumeral
  split at h
  · cases h
  · next heq => simp [heq, numeralStarts, numeralFrom]
  · next c rest _ heq =>
    simp only [Bool.and_eq_true, List.all_cons, List.all_eq_true] at h
    simp [heq, mem_numeralStarts_of_isDigit h.2.1, hfrom rest [c] h.2.2]

lemma tokens?_key (key : Key) : tokens? key.render = some [keyToken key] := by
  unfold Key.render keyToken
  cases key.quoted with
  | true => simp [tokens?_quoted (isQuoted_quote key.text)]
  | false =>
    by_cases hword : isIdentifier key.text = true
    · simp [hword, tokens?_word hword]
    · by_cases hinteger : Key.isInteger key.text = true
      · simp [hword, hinteger, tokens?_numeral (isNumeral_of_isInteger hinteger)]
      · simp [hword, hinteger, tokens?_quoted (isQuoted_quote key.text)]

lemma tokens?_grouped {text : String} {ts : List Token} (h : tokens? text = some ts)
    (parentheses : Bool) :
    tokens? (TypeExpr.grouped parentheses text) = some (grouped parentheses ts) := by
  cases parentheses with
  | false => exact h
  | true =>
    have hopen := tokens?_punctuation_append (p := "(") (by decide) h
    exact tokens?_append_punctuation (p := ")") (by decide) (by decide) hopen

lemma tokens?_spaces_append {text : String} {ts : List Token} (h : tokens? text = some ts)
    (count : Nat) : tokens? (TypeExpr.spaces count ++ text) = some ts := by
  have hspaces : ∀ c ∈ (TypeExpr.spaces count).toList, c = ' ' := by
    simp [TypeExpr.spaces, List.mem_replicate]
  have hblank : isPunctuation (TypeExpr.spaces count) = true := by
    refine List.all_eq_true.mpr fun c hc => ?_
    rw [hspaces c hc]
    decide
  have hnone : punctuation (TypeExpr.spaces count) = [] := by
    rw [punctuation, List.map_eq_nil_iff, List.filter_eq_nil_iff]
    intro c hc
    rw [hspaces c hc]
    decide
  have hall := tokens?_punctuation_append hblank h
  rwa [hnone] at hall

lemma tokens?_member {width depth : Nat} {m : Member TypeExpr}
    (h : tokens? (renderAt width depth m.type) = some (tokensOf m.type)) :
    tokens? (renderMember width depth m) =
      some (memberTokens m.key m.optional (tokensOf m.type)) := by
  obtain ⟨key, optional, type⟩ := m
  rw [renderMember, TypeExpr.memberHead]
  cases optional with
  | true =>
    have hmark : key.render ++ "?" ++ ": " = key.render ++ "?: " := String.append_assoc
    rw [if_pos rfl, hmark]
    exact tokens?_append (p := "?: ") (by decide) (by decide) (tokens?_key key) h
  | false =>
    rw [if_neg Bool.false_ne_true, String.append_empty]
    exact tokens?_append (p := ": ") (by decide) (by decide) (tokens?_key key) h

lemma tokens?_object {layout : ObjectLayout} {members : List (Member TypeExpr)} {width depth : Nat}
    (hmember : ∀ depth, ∀ m ∈ members, tokens? (renderMember width depth m) =
      some (memberTokens m.key m.optional (tokensOf m.type))) :
    tokens? (renderAt width depth (.object layout members)) =
      some (tokensOf (.object layout members)) := by
  rw [tokensOf, tokensOfMembers_eq_map]
  cases members with
  | nil =>
    rw [renderAt]
    rfl
  | cons member rest =>
    cases layout with
    | inline =>
      have hlist := tokens?_join (p := "; ") (by decide) rfl (hmember depth)
      have hopen := tokens?_punctuation_append (p := "\x7b ") (by decide) hlist
      simp only [renderAt, TypeExpr.renderMembers_eq]
      exact tokens?_append_punctuation (p := " \x7d") (by decide) (by decide) hopen
    | block =>
      have hclose : tokens? (TypeExpr.spaces (depth * width) ++ "\x7d") = some [.mark '}'] :=
        tokens?_spaces_append rfl _
      have hlist := tokens?_join (p := ";\n") (by decide) rfl fun m hm =>
        tokens?_spaces_append (hmember (depth + 1) m hm) ((depth + 1) * width)
      have hlines := tokens?_append (p := "\n") (by decide) (by decide) hlist hclose
      have hopen := tokens?_punctuation_append (p := "\x7b\n") (by decide) hlines
      simp only [renderAt, TypeExpr.renderMembers_eq, List.map_map, String.append_assoc] at hopen ⊢
      exact hopen

theorem tokens?_renderAt {type : TypeExpr} (h : isLexical type = true) (width depth : Nat) :
    tokens? (renderAt width depth type) = some (tokensOf type) := by
  induction type using TypeExpr.induction generalizing depth with
  | literal text => exact tokens?_literal h
  | object layout members ih =>
    rw [isLexical, areLexicalMembers_iff] at h
    have hmember : ∀ depth, ∀ m ∈ members, tokens? (renderMember width depth m) =
        some (memberTokens m.key m.optional (tokensOf m.type)) :=
      fun depth m hm => tokens?_member (ih m hm (h m hm) depth)
    exact tokens?_object hmember
  | union members ih =>
    rw [isLexical, areLexical_iff] at h
    cases members with
    | nil =>
      rw [renderAt]
      exact tokens?_word (by decide +kernel)
    | cons member rest =>
      simp only [renderAt, TypeExpr.renderAll_eq, tokensOf, tokensOfAll_eq_map]
      exact tokens?_join (by decide) rfl fun m hm => ih m hm (h m hm) depth
  | intersection members ih =>
    rw [isLexical, areLexical_iff] at h
    cases members with
    | nil =>
      rw [renderAt]
      exact tokens?_word (by decide +kernel)
    | cons member rest =>
      simp only [renderAt, TypeExpr.renderGrouped_eq, tokensOf, tokensOfGrouped_eq_map]
      exact tokens?_join (by decide) rfl fun m hm =>
        tokens?_grouped (ih m hm (h m hm) depth) m.isUnion
  | generic name arguments ih =>
    rw [isLexical, Bool.and_eq_true, areLexical_iff] at h
    have hlist := tokens?_join (p := ", ") (by decide) rfl
      fun a ha => ih a ha (h.2 a ha) depth
    rw [renderAt, TypeExpr.renderAll_eq, tokensOf, tokensOfAll_eq_map]
    have hname := tokens?_append (p := "<") (by decide) (by decide) (tokens?_word h.1) hlist
    exact tokens?_append_punctuation (p := ">") (by decide) (by decide) hname
  | array item ih =>
    exact tokens?_append_punctuation (p := "[]") (by decide) (by decide)
      (tokens?_grouped (ih h depth) item.isCompound)

end ApiTypes.TypeText
