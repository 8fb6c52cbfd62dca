import ApiTypes.Proofs.Json.Quote
import ApiTypes.Proofs.TypeExpr.Normal
import ApiTypes.TypeExpr.Render

/-!
The tokens of a rendered type.

A text of a type is made of names, numerals, strings between quotes and single marks, with blanks
between them that mean nothing. The scan goes over the text once. Two texts can be scanned apart if
the second one begins with a blank or a mark, since no name or numeral goes on with those; so the
tokens of a rendered type are put together as its text is.
-/

namespace ApiTypes.TypeText

open ApiTypes.TypeName (isStart isPart isIdentifier)

inductive Token where
  | word (text : String)
  | numeral (text : String)
  /-- As written, with its quotes and escapes. -/
  | quoted (text : String)
  | mark (c : Char)
deriving DecidableEq, Repr

def numeralStarts : List Char := ['0', '1', '2', '3', '4', '5', '6', '7', '8', '9', '.', '-']

def quoteMarks : List Char := ['"', '\x27']

def marks : List Char :=
  ['|', '&', '(', ')', '[', ']', '<', '>', '{', '}', ',', ';', ':', '?']

def blanks : List Char := [' ', '\t', '\n', '\r']

/-- Whether a numeral goes on with the character; what came before is `read`, last first. A sign
stands only behind the letter of an exponent. -/
def numeralGoesOn (read : List Char) (c : Char) : Bool :=
  isPart c || c == '.' ||
    ((c == '+' || c == '-') && (read.head? == some 'e' || read.head? == some 'E'))

/-! ### The scan -/

/-- Between two tokens or inside one, with the characters of it so far, last first. -/
inductive Mode where
  | between
  | word (read : List Char)
  | numeral (read : List Char)
  /-- Inside a string that `mark` closes, behind a backslash or not. -/
  | quoted (mark : Char) (escaped : Bool) (read : List Char)

/-- What the first character of a token leads to. -/
def start (c : Char) : Option (List Token × Mode) :=
  if isStart c then some ([], .word [c])
  else if c ∈ numeralStarts then some ([], .numeral [c])
  else if c ∈ quoteMarks then some ([], .quoted c false [c])
  else if c ∈ marks then some ([.mark c], .between)
  else if c ∈ blanks then some ([], .between)
  else none

/-- The token that ends where the text ends. -/
def Mode.finish : Mode → Option (List Token)
  | .between => some []
  | .word read => some [.word (String.ofList read.reverse)]
  | .numeral read => some [.numeral (String.ofList read.reverse)]
  | .quoted _ _ _ => none

/-- The tokens that one character completes, and the mode behind it. -/
def Mode.step : Mode → Char → Option (List Token × Mode)
  | .between, c => start c
  | .word read, c =>
    if isPart c then some ([], .word (c :: read))
    else (start c).map fun (tokens, mode) =>
      (.word (String.ofList read.reverse) :: tokens, mode)
  | .numeral read, c =>
    if numeralGoesOn read c then some ([], .numeral (c :: read))
    else (start c).map fun (tokens, mode) =>
      (.numeral (String.ofList read.reverse) :: tokens, mode)
  | .quoted mark true read, c => some ([], .quoted mark false (c :: read))
  | .quoted mark false read, c =>
    if c = mark then some ([.quoted (String.ofList (c :: read).reverse)], .between)
    else some ([], .quoted mark (c == '\\') (c :: read))

def scan : Mode → List Char → Option (List Token)
  | mode, [] => mode.finish
  | mode, c :: rest =>
    match mode.step c with
    | none => none
    | some (tokens, mode) => (scan mode rest).map (tokens ++ ·)

def tokens? (text : String) : Option (List Token) := scan .between text.toList

/-! ### Scanning one text behind another -/

/-- No token before the text reaches into it. -/
def Delimits (cs : List Char) : Prop := ∀ c ∈ cs.head?, c ∈ blanks ++ marks

lemma isPart_of_delimiter {c : Char} (h : c ∈ blanks ++ marks) : isPart c = false := by
  have hall : ∀ d ∈ blanks ++ marks, (!isPart d) = true := List.all_eq_true.mp (by decide +kernel)
  simpa using hall c h

lemma numeralGoesOn_of_delimiter {c : Char} (h : c ∈ blanks ++ marks) (read : List Char) :
    numeralGoesOn read c = false := by
  have hne : c ≠ '.' ∧ c ≠ '+' ∧ c ≠ '-' := by
    refine ⟨?_, ?_, ?_⟩ <;> rintro rfl <;> revert h <;> decide
  simp [numeralGoesOn, isPart_of_delimiter h, hne]

lemma Mode.step_of_finish {mode : Mode} {ts : List Token} {c : Char}
    (h : mode.finish = some ts) (hc : c ∈ blanks ++ marks) :
    mode.step c = (start c).map fun (tokens, mode) => (ts ++ tokens, mode) := by
  cases mode with
  | between =>
    cases h
    simp [step]
  | word read =>
    cases h
    simp [step, isPart_of_delimiter hc]
  | numeral read =>
    cases h
    simp [step, numeralGoesOn_of_delimiter hc]
  | quoted mark escaped read => cases h

lemma scan_append {mode : Mode} {cs rest : List Char} {ts : List Token}
    (h : scan mode cs = some ts) (hrest : Delimits rest) :
    scan mode (cs ++ rest) = (scan .between rest).map (ts ++ ·) := by
  induction cs generalizing mode ts with
  | nil =>
    rw [scan] at h
    cases rest with
    | nil => simp [scan.eq_1, h, Mode.finish.eq_1]
    | cons c rest =>
      rw [List.nil_append, scan, scan, Mode.step_of_finish h (hrest c rfl), Mode.step]
      cases start c with
      | none => rfl
      | some result => simp [Function.comp_def, List.append_assoc]
  | cons c cs ih =>
    rw [scan] at h
    rw [List.cons_append, scan]
    cases hstep : mode.step c with
    | none => simp [hstep] at h
    | some result =>
      obtain ⟨tokens, mode'⟩ := result
      simp only [hstep, Option.map_eq_some_iff] at h
      obtain ⟨us, hus, rfl⟩ := h
      simp [ih hus, Function.comp_def, List.append_assoc]

def isPunctuation (text : String) : Bool := text.toList.all fun c => decide (c ∈ blanks ++ marks)

/-- The marks in a text of blanks and marks. -/
def punctuation (text : String) : List Token :=
  (text.toList.filter (· ∈ marks)).map .mark

lemma start_of_delimiter {c : Char} (h : c ∈ blanks ++ marks) :
    start c = some (([c].filter (· ∈ marks)).map .mark, .between) := by
  have hall : ∀ d ∈ blanks ++ marks,
      (!isStart d && decide (d ∉ numeralStarts) && decide (d ∉ quoteMarks)) = true :=
    List.all_eq_true.mp (by decide +kernel)
  have hother : (isStart c = false ∧ c ∉ numeralStarts) ∧ c ∉ quoteMarks := by
    simpa only [Bool.and_eq_true, Bool.not_eq_true', decide_eq_true_eq] using hall c h
  by_cases hmark : c ∈ marks
  · simp [start, hother, hmark]
  · have hblank : c ∈ blanks := (List.mem_append.mp h).resolve_right hmark
    simp [start, hother, hmark, hblank]

lemma scan_punctuation {cs rest : List Char} (h : ∀ c ∈ cs, c ∈ blanks ++ marks) :
    scan .between (cs ++ rest) =
      (scan .between rest).map ((cs.filter (· ∈ marks)).map .mark ++ ·) := by
  induction cs with
  | nil => simp
  | cons c cs ih =>
    have hcs := ih fun d hd => h d (List.mem_cons_of_mem c hd)
    rw [List.cons_append, scan, Mode.step, start_of_delimiter (h c (by simp))]
    by_cases hmark : c ∈ marks <;> simp [hmark, hcs, Function.comp_def]

section

variable {a b p : String} {s t : List Token}

lemma mem_of_isPunctuation (hp : isPunctuation p = true) : ∀ c ∈ p.toList, c ∈ blanks ++ marks :=
  fun c hc => of_decide_eq_true (List.all_eq_true.mp hp c hc)

lemma tokens?_punctuation_append (hp : isPunctuation p = true)
    (hb : tokens? b = some t) : tokens? (p ++ b) = some (punctuation p ++ t) := by
  unfold tokens? at *
  rw [String.toList_append, scan_punctuation (mem_of_isPunctuation hp), hb, Option.map_some,
    punctuation]

lemma tokens?_append (hp : isPunctuation p = true) (hne : p ≠ "")
    (ha : tokens? a = some s) (hb : tokens? b = some t) :
    tokens? (a ++ p ++ b) = some (s ++ (punctuation p ++ t)) := by
  have hpb := tokens?_punctuation_append hp hb
  have hdelimits : Delimits (p ++ b).toList := by
    obtain ⟨c, cs, hcs⟩ : ∃ c cs, p.toList = c :: cs :=
      List.exists_cons_of_ne_nil (by simpa using hne)
    intro d hd
    rw [String.toList_append, hcs, List.cons_append, List.head?_cons, Option.mem_some_iff] at hd
    exact mem_of_isPunctuation hp d (by simp [hcs, hd])
  unfold tokens? at *
  rw [String.append_assoc, String.toList_append, scan_append ha hdelimits, hpb, Option.map_some]

lemma tokens?_append_punctuation (hp : isPunctuation p = true) (hne : p ≠ "")
    (ha : tokens? a = some s) : tokens? (a ++ p) = some (s ++ punctuation p) := by
  have h := tokens?_append (b := "") (t := []) hp hne ha rfl
  rwa [String.append_empty, List.append_nil] at h

end

/-! ### Texts of one token -/

def numeralFrom (read : List Char) : List Char → Bool
  | [] => true
  | c :: rest => numeralGoesOn read c && numeralFrom (c :: read) rest

/-- A numeral, with its sign; letters may stand in it, as they do in an exponent. -/
def isNumeral (text : String) : Bool :=
  match text.toList with
  | [] => false
  | c :: rest => decide (c ∈ numeralStarts) && numeralFrom [c] rest

/-- The mark comes once outside of escapes, at the end. -/
def closesWith (mark : Char) (escaped : Bool) : List Char → Bool
  | [] => false
  | c :: rest =>
    if escaped then closesWith mark false rest
    else if c = mark then rest.isEmpty
    else closesWith mark (c == '\\') rest

/-- A string between two quotes of one kind. -/
def isQuoted (text : String) : Bool :=
  match text.toList with
  | [] => false
  | c :: rest => decide (c ∈ quoteMarks) && closesWith c false rest

lemma scan_word {cs : List Char} (read : List Char) (h : ∀ c ∈ cs, isPart c = true) :
    scan (.word read) cs = some [.word (String.ofList (read.reverse ++ cs))] := by
  induction cs generalizing read with
  | nil => simp [scan, Mode.finish]
  | cons c cs ih =>
    have hcs := ih (c :: read) fun d hd => h d (List.mem_cons_of_mem c hd)
    simp [scan, Mode.step, h c (by simp), hcs]

lemma tokens?_word {text : String} (h : isIdentifier text = true) :
    tokens? text = some [.word text] := by
  unfold isIdentifier at h
  unfold tokens?
  cases htext : text.toList with
  | nil => simp [htext] at h
  | cons c rest =>
    simp only [htext, Bool.and_eq_true, List.all_eq_true] at h
    rw [scan, Mode.step, start, if_pos h.1]
    simp [scan_word [c] h.2, ← htext]

lemma scan_numeral {cs : List Char} (read : List Char) (h : numeralFrom read cs = true) :
    scan (.numeral read) cs = some [.numeral (String.ofList (read.reverse ++ cs))] := by
  induction cs generalizing read with
  | nil => simp [scan, Mode.finish]
  | cons c cs ih =>
    rw [numeralFrom, Bool.and_eq_true] at h
    simp [scan, Mode.step, h.1, ih (c :: read) h.2]

lemma start_numeral {c : Char} (hc : c ∈ numeralStarts) : start c = some ([], .numeral [c]) := by
  have hall : ∀ d ∈ numeralStarts, (!isStart d) = true := List.all_eq_true.mp (by decide +kernel)
  have hother : isStart c = false := by simpa using hall c hc
  simp [start, hother, hc]

lemma tokens?_numeral {text : String} (h : isNumeral text = true) :
    tokens? text = some [.numeral text] := by
  unfold isNumeral at h
  unfold tokens?
  cases htext : text.toList with
  | nil => simp [htext] at h
  | cons c rest =>
    simp only [htext, Bool.and_eq_true, decide_eq_true_eq] at h
    rw [scan, Mode.step, start_numeral h.1]
    simp [scan_numeral [c] h.2, ← htext]

lemma scan_quoted {mark : Char} {escaped : Bool} {cs : List Char} (read : List Char)
    (h : closesWith mark escaped cs = true) :
    scan (.quoted mark escaped read) cs =
      some [.quoted (String.ofList (read.reverse ++ cs))] := by
  induction cs generalizing read escaped with
  | nil => simp [closesWith] at h
  | cons c rest ih =>
    cases escaped with
    | true =>
      rw [closesWith, if_pos rfl] at h
      simp [scan, Mode.step, ih (c :: read) h]
    | false =>
      rw [closesWith, if_neg (by decide)] at h
      rw [scan, Mode.step]
      by_cases hc : c = mark
      · rw [if_pos hc, List.isEmpty_iff] at h
        simp [hc, h, scan, Mode.finish]
      · rw [if_neg hc] at h
        simp [hc, ih (c :: read) h]

lemma start_quoted {c : Char} (hc : c ∈ quoteMarks) :
    start c = some ([], .quoted c false [c]) := by
  have hall : ∀ d ∈ quoteMarks, (!isStart d && decide (d ∉ numeralStarts)) = true :=
    List.all_eq_true.mp (by decide +kernel)
  have hother : isStart c = false ∧ c ∉ numeralStarts := by
    simpa only [Bool.and_eq_true, Bool.not_eq_true', decide_eq_true_eq] using hall c hc
  simp [start, hother, hc]

lemma tokens?_quoted {text : String} (h : isQuoted text = true) :
    tokens? text = some [.quoted text] := by
  unfold isQuoted at h
  unfold tokens?
  cases htext : text.toList with
  | nil => simp [htext] at h
  | cons c rest =>
    simp only [htext, Bool.and_eq_true, decide_eq_true_eq] at h
    rw [scan, Mode.step, start_quoted h.1]
    simp [scan_quoted [c] h.2, ← htext]

lemma closesWith_quoteChar (c : Char) (rest : List Char) :
    closesWith '"' false (Json.quoteChar c ++ rest) = closesWith '"' false rest := by
  induction c using Json.quoteChar_cases with
  | control n hn => interval_cases n <;> rfl
  | quote => rfl
  | backslash => rfl
  | plain c hquote hslash hc heq =>
    rw [heq, List.singleton_append, closesWith, if_neg (by decide), if_neg hquote,
      beq_false_of_ne hslash]

lemma isQuoted_quote (text : String) : isQuoted (Json.quote text) = true := by
  have hclose : ∀ cs : List Char,
      closesWith '"' false (cs.flatMap Json.quoteChar ++ ['"']) = true := by
    intro cs
    induction cs with
    | nil => rfl
    | cons c cs ih => rw [List.flatMap_cons, List.append_assoc, closesWith_quoteChar, ih]
  rw [isQuoted, Json.quote, String.toList_ofList, List.cons_append]
  simp [quoteMarks, hclose]

end ApiTypes.TypeText
