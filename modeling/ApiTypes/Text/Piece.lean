/-!
Cutting a text at a character, digits of a text, and braces around a text.
-/

namespace ApiTypes.Text

/-- The pieces between the separators; there is always at least one. -/
def split (separator : Char) : List Char → List (List Char)
  | [] => [[]]
  | c :: rest =>
    if c = separator then [] :: split separator rest
    else
      match split separator rest with
      | [] => [[c]]
      | piece :: pieces => (c :: piece) :: pieces

/-- What stands before the first such character, and what stands behind it. -/
def cut? (mark : Char) : List Char → Option (List Char × List Char)
  | [] => none
  | c :: rest =>
    if c = mark then some ([], rest)
    else (cut? mark rest).map fun (front, back) => (c :: front, back)

theorem length_lt_of_cut? {mark : Char} {cs front back : List Char}
    (h : cut? mark cs = some (front, back)) : back.length < cs.length := by
  induction cs generalizing front with
  | nil => cases h
  | cons c rest ih =>
    rw [cut?] at h
    split at h
    · cases h
      exact Nat.lt_succ_self _
    · obtain ⟨⟨front', back'⟩, hrest, heq⟩ := Option.map_eq_some_iff.mp h
      cases heq
      exact Nat.lt_succ_of_lt (ih hrest)

/-- Puts the separator between the texts. -/
def join (separator : String) : List String → String
  | [] => ""
  | [text] => text
  | text :: rest => text ++ separator ++ join separator rest

def inBraces (text : String) : String := "\x7b" ++ text ++ "\x7d"

def digit? (c : Char) : Option Nat :=
  if '0' ≤ c ∧ c ≤ '9' then some (c.toNat - '0'.toNat) else none

def isDigit (c : Char) : Bool := (digit? c).isSome

def hexDigit? (c : Char) : Option Nat :=
  if '0' ≤ c ∧ c ≤ '9' then some (c.toNat - '0'.toNat)
  else if 'a' ≤ c ∧ c ≤ 'f' then some (c.toNat - 'a'.toNat + 10)
  else if 'A' ≤ c ∧ c ≤ 'F' then some (c.toNat - 'A'.toNat + 10)
  else none

/-- The value of a non-empty run of digits in the given base, at most sixteen. -/
def ofDigits? (base : Nat) (cs : List Char) : Option Nat :=
  if cs.isEmpty then none
  else
    cs.foldl (fun value c =>
      match value, hexDigit? c with
      | some n, some d => if d < base then some (n * base + d) else none
      | _, _ => none) (some 0)

/-- The character with this code point, unless it is a surrogate or out of range. -/
def char? (code : Nat) : Option Char :=
  if code.isValidChar then some (Char.ofNat code) else none

end ApiTypes.Text
