import ApiTypes.Proofs.Text.Nesting

/-!
Brackets and strings of a text, as a one-pass scan.

The scan keeps the closing brackets that are still to come, skips strings between double quotes and
counts the semicolons that stand outside all brackets. It fails at a closing bracket that is not the
next one. A text keeps the scan where it leaves brackets and count as it found them; such texts can
be put one after another and inside brackets, so a text that is put together that way is scanned
piece by piece, whatever stands in its strings.
-/

namespace ApiTypes.Brackets

open Text (special)

inductive Mode where
  | code
  | quoted
  /-- Behind a backslash in a string. -/
  | escaped
deriving DecidableEq, Repr

structure State where
  mode : Mode
  /-- The closing brackets that are still to come, the next one first. -/
  pending : List Char
  /-- The number of semicolons outside all brackets. -/
  ends : Nat
deriving DecidableEq, Repr

def start : State := ⟨.code, [], 0⟩

def closing? : Char → Option Char
  | '{' => some '}'
  | '(' => some ')'
  | '[' => some ']'
  | '<' => some '>'
  | _ => none

def closers : List Char := ['}', ')', ']', '>']

def codeStep (s : State) (c : Char) : Option State :=
  if c = '"' then some { s with mode := .quoted }
  else if c = ';' then some { s with ends := if s.pending = [] then s.ends + 1 else s.ends }
  else
    match closing? c with
    | some close => some { s with pending := close :: s.pending }
    | none =>
      if c ∈ closers then
        if s.pending.head? = some c then some { s with pending := s.pending.tail } else none
      else some s

def quotedStep (s : State) (c : Char) : State :=
  if c = '"' then { s with mode := .code }
  else if c = '\\' then { s with mode := .escaped }
  else s

def step (s : State) (c : Char) : Option State :=
  match s.mode with
  | .code => codeStep s c
  | .quoted => some (quotedStep s c)
  | .escaped => some { s with mode := .quoted }

def scan (s : State) : List Char → Option State
  | [] => some s
  | c :: rest => (step s c).bind fun t => scan t rest

lemma scan_append (s : State) (cs ds : List Char) :
    scan s (cs ++ ds) = (scan s cs).bind fun t => scan t ds := by
  induction cs generalizing s with
  | nil => rfl
  | cons c cs ih =>
    rw [List.cons_append, scan, scan, Option.bind_assoc]
    exact congrArg _ (funext ih)

lemma scan_append_of {s t : State} {cs ds : List Char} (h : scan s cs = some t) :
    scan s (cs ++ ds) = scan t ds := by
  rw [scan_append, h, Option.bind_some]

/-! ### Texts that keep the scan -/

/-- The scan of the text ends as it began, wherever the brackets to come are as `P` says. -/
def Keeps (P : List Char → Prop) (text : String) : Prop :=
  ∀ pending ends, P pending →
    scan ⟨.code, pending, ends⟩ text.toList = some ⟨.code, pending, ends⟩

/-- Brackets are matched, and no semicolon stands outside them. -/
def Closed : String → Prop := Keeps fun _ => True

/-- Brackets are matched; semicolons may stand outside them, since the text is inside others. -/
def Inner : String → Prop := Keeps fun pending => pending ≠ []

variable {P : List Char → Prop} {a b text : String}

lemma Closed.keeps (h : Closed text) : Keeps P text := fun pending ends _ => h pending ends trivial

lemma Keeps.append (ha : Keeps P a) (hb : Keeps P b) : Keeps P (a ++ b) := by
  intro pending ends hp
  rw [String.toList_append, scan_append_of (ha pending ends hp)]
  exact hb pending ends hp

lemma keeps_empty : Keeps P "" := fun _ _ _ => rfl

lemma joins_keeps : Text.Joins (Keeps P) := ⟨keeps_empty, Keeps.append⟩

lemma Inner.bracketed {left right : String} {o c : Char} (hleft : left.toList = [o])
    (hright : right.toList = [c]) (hclose : closing? o = some c) (h : Inner text) :
    Closed (left ++ text ++ right) := by
  intro pending ends _
  -- one of the four pairs of brackets
  have hpair : (o = '{' ∧ c = '}') ∨ (o = '(' ∧ c = ')') ∨ (o = '[' ∧ c = ']') ∨
      (o = '<' ∧ c = '>') := by
    unfold closing? at hclose
    split at hclose <;> cases hclose <;> simp
  have hopen : scan ⟨.code, pending, ends⟩ [o] = some ⟨.code, c :: pending, ends⟩ := by
    rcases hpair with ⟨rfl, rfl⟩ | ⟨rfl, rfl⟩ | ⟨rfl, rfl⟩ | ⟨rfl, rfl⟩ <;> rfl
  have hback : scan ⟨.code, c :: pending, ends⟩ [c] = some ⟨.code, pending, ends⟩ := by
    rcases hpair with ⟨rfl, rfl⟩ | ⟨rfl, rfl⟩ | ⟨rfl, rfl⟩ | ⟨rfl, rfl⟩ <;> rfl
  have hinside := h (c :: pending) ends (List.cons_ne_nil c pending)
  rw [String.toList_append, String.toList_append, hleft, hright, List.append_assoc,
    scan_append_of hopen, scan_append_of hinside, hback]

lemma Inner.braces (h : Inner text) : Closed (Text.inBraces text) :=
  h.bracketed rfl rfl rfl

/-! ### Texts without brackets -/

lemma step_of_notMem {pending : List Char} {ends : Nat} {c : Char} (h : c ∉ special) :
    step ⟨.code, pending, ends⟩ c = some ⟨.code, pending, ends⟩ := by
  have hnone : closing? c = none := by
    unfold closing?
    split <;> simp_all [special]
  simp only [special, List.mem_cons, List.not_mem_nil, or_false, not_or] at h
  simp [step, codeStep, closers, hnone, h]

lemma closed_of_forall (h : ∀ c ∈ text.toList, c ∉ special) : Closed text := by
  intro pending ends _
  generalize text.toList = cs at h
  induction cs with
  | nil => rfl
  | cons c cs ih =>
    rw [scan, step_of_notMem (h c (by simp)), Option.bind_some]
    exact ih fun d hd => h d (List.mem_cons_of_mem c hd)

/-- Inside brackets semicolons are as good as other characters. -/
lemma inner_semicolon : Inner ";" := by
  intro pending ends hp
  simp [scan, step, codeStep, hp]

/-! ### Strings -/

lemma scan_quoteChar (pending : List Char) (ends : Nat) (c : Char) :
    scan ⟨.quoted, pending, ends⟩ (Json.quoteChar c) = some ⟨.quoted, pending, ends⟩ := by
  induction c using Json.quoteChar_cases with
  | control n hn => interval_cases n <;> rfl
  | quote => rfl
  | backslash => rfl
  | plain c hquote hslash hc heq =>
    rw [heq, scan, step, quotedStep, if_neg hquote, if_neg hslash]
    rfl

lemma scan_flatMap_quoteChar (pending : List Char) (ends : Nat) (cs : List Char) :
    scan ⟨.quoted, pending, ends⟩ (cs.flatMap Json.quoteChar) = some ⟨.quoted, pending, ends⟩ := by
  induction cs with
  | nil => rfl
  | cons c cs ih => rw [List.flatMap_cons, scan_append_of (scan_quoteChar pending ends c), ih]

lemma closed_quote (text : String) : Closed (Json.quote text) := by
  intro pending ends _
  rw [Json.quote, String.toList_ofList, List.cons_append, scan]
  exact scan_append_of (scan_flatMap_quoteChar pending ends text.toList)

lemma nests_closed : Text.Nests Closed Inner where
  outer := joins_keeps
  inner := joins_keeps
  inside h := h.keeps
  plain h := closed_of_forall fun c hc => (h c hc).2
  quoted := closed_quote
  square h := h.bracketed rfl rfl rfl
  braces h := h.braces

end ApiTypes.Brackets
