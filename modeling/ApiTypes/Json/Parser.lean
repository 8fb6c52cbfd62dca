import ApiTypes.Json.Basic
import ApiTypes.Keyed
import ApiTypes.Text.Piece

/-!
Reading JSON text.

The grammar is strict: one value, blanks around tokens, no trailing commas. A repeated key keeps
its first place and takes its last value. At most 127 arrays and objects may be open at once.

A number without fraction and exponent is an integer when it lies in range, except that `-0` is a
floating point number. Of any other number the leading digits that fit 64 bits are kept, and are
scaled by a power of ten in floating point arithmetic; a number too large is refused.
-/

namespace ApiTypes.Json.Parser

abbrev Step (α : Type) := Option (α × List Char)

def skipBlanks : List Char → List Char
  | [] => []
  | c :: rest =>
    if c = ' ' ∨ c = '\n' ∨ c = '\t' ∨ c = '\r' then skipBlanks rest else c :: rest

/-! ### Numbers -/

def significandLimit : Nat := Nat.pow 2 64

/-- Appends digits to a significand while it fits 64 bits; also counts them. -/
def readDigits (significand count : Nat) : List Char → Nat × Nat × List Char
  | [] => (significand, count, [])
  | c :: rest =>
    match Text.digit? c with
    | none => (significand, count, c :: rest)
    | some d =>
      if significand * 10 + d < significandLimit then
        readDigits (significand * 10 + d) (count + 1) rest
      else (significand, count, c :: rest)

/-- Passes over digits, counting them. -/
def skipDigits (count : Nat) : List Char → Nat × List Char
  | [] => (count, [])
  | c :: rest => if Text.isDigit c then skipDigits (count + 1) rest else (count, c :: rest)

def startsWithDigit : List Char → Bool
  | [] => false
  | c :: _ => Text.isDigit c

/-- The largest power of ten that is a number of the format, as an exponent. -/
def greatestPower : Nat := 308

def powerOfTen (k : Nat) : Double :=
  (Double.ofRatio? false (Nat.pow 10 k) 1).getD (Double.zero false)

def times? (a b : Double) : Option Double := a.scale? b.ratio.1 b.ratio.2

def over? (a b : Double) : Option Double := a.scale? b.ratio.2 b.ratio.1

/-- Divides by a power of ten, in several steps when the power is beyond the format. -/
def shrink : Nat → Double → Nat → Option Double
  | 0, d, _ => some (Double.zero d.negative)
  | steps + 1, d, k =>
    if k ≤ greatestPower then over? d (powerOfTen k)
    else
      match over? d (powerOfTen greatestPower) with
      | none => none
      | some smaller =>
        if smaller.isZero then some smaller else shrink steps smaller (k - greatestPower)

/-- The significand scaled by a power of ten. -/
def scaled? (negative : Bool) (significand : Nat) (exponent : Int) : Option Double :=
  match Double.ofRatio? negative significand 1 with
  | none => none
  | some d =>
    if d.isZero then some d
    else if exponent < 0 then shrink 4 d (-exponent).toNat
    else if greatestPower < exponent.toNat then none
    else times? d (powerOfTen exponent.toNat)

/-- Exponents beyond this are refused, or give zero. -/
def exponentLimit : Nat := Nat.pow 2 31

/-- The rest of a number after its exponent mark. -/
def exponentPart (negative : Bool) (significand : Nat) (exponent : Int) (cs : List Char) :
    Step Double :=
  let (down, cs) :=
    match cs with
    | '+' :: rest => (false, rest)
    | '-' :: rest => (true, rest)
    | rest => (false, rest)
  let digits := cs.takeWhile Text.isDigit
  let rest := cs.dropWhile Text.isDigit
  match Text.ofDigits? 10 digits with
  | none => none
  | some e =>
    if exponentLimit ≤ e then
      if significand ≠ 0 ∧ !down then none else some (Double.zero negative, rest)
    else
      (scaled? negative significand (if down then exponent - e else exponent + e)).map (·, rest)

/-- The rest of a number after its significand, which stands for `significand * 10 ^ exponent`. -/
def afterDigits (negative : Bool) (significand : Nat) (exponent : Int) (cs : List Char) :
    Step Double :=
  match cs with
  | 'e' :: rest => exponentPart negative significand exponent rest
  | 'E' :: rest => exponentPart negative significand exponent rest
  | rest => (scaled? negative significand exponent).map (·, rest)

/-- The rest of a number after its point. -/
def fractionPart (negative : Bool) (significand : Nat) (exponent : Int) (cs : List Char) :
    Step Double :=
  let (significand, count, rest) := readDigits significand 0 cs
  if startsWithDigit rest then
    afterDigits negative significand (exponent - count) (skipDigits 0 rest).2
  else if count = 0 then none
  else afterDigits negative significand (exponent - count) rest

def integer (negative : Bool) (significand : Nat) : Option Number :=
  if !negative then some (.int significand)
  else if significand = 0 ∨ Nat.pow 2 63 < significand then
    (Double.ofRatio? true significand 1).map .real
  else some (.int (-significand))

/-- A number after its sign. -/
def unsigned (negative : Bool) (cs : List Char) : Step Number :=
  let real (step : Step Double) : Step Number := step.map fun (d, rest) => (.real d, rest)
  let (significand, count, rest) := readDigits 0 0 cs
  if count = 0 ∨ (cs.head? = some '0' ∧ 1 < count) then none
  else
    let (dropped, rest) := skipDigits 0 rest
    match rest with
    | '.' :: rest => real (fractionPart negative significand dropped rest)
    | 'e' :: rest => real (exponentPart negative significand dropped rest)
    | 'E' :: rest => real (exponentPart negative significand dropped rest)
    | rest =>
      if dropped = 0 then (integer negative significand).map (·, rest)
      else real ((scaled? negative significand dropped).map (·, rest))

def number : List Char → Step Number
  | '-' :: rest => unsigned true rest
  | cs => unsigned false cs

/-! ### Strings -/

def hex4? (a b c d : Char) : Option Nat := Text.ofDigits? 16 [a, b, c, d]

def simpleEscape? (c : Char) : Option Char :=
  if c = '"' ∨ c = '\\' ∨ c = '/' then some c
  else if c = 'b' then some (Char.ofNat 8)
  else if c = 'f' then some (Char.ofNat 12)
  else if c = 'n' then some '\n'
  else if c = 'r' then some '\r'
  else if c = 't' then some '\t'
  else none

/-- The rest of a string after its opening quote; `read` holds what came before, last first. A
code point beyond the first plane is written as two escapes. -/
def stringBody (read : List Char) : List Char → Step String
  | [] => none
  | '"' :: rest => some (String.ofList read.reverse, rest)
  | '\\' :: 'u' :: a :: b :: c :: d :: rest =>
    match hex4? a b c d with
    | none => none
    | some high =>
      if 0xD800 ≤ high ∧ high < 0xDC00 then
        match rest with
        | '\\' :: 'u' :: e :: f :: g :: h :: rest =>
          match hex4? e f g h with
          | none => none
          | some low =>
            if 0xDC00 ≤ low ∧ low < 0xE000 then
              let code := 0x10000 + (high - 0xD800) * 0x400 + (low - 0xDC00)
              stringBody (Char.ofNat code :: read) rest
            else none
        | _ => none
      else
        match Text.char? high with
        | none => none
        | some ch => stringBody (ch :: read) rest
  | '\\' :: c :: rest =>
    match simpleEscape? c with
    | none => none
    | some ch => stringBody (ch :: read) rest
  | c :: rest => if c.toNat < 32 ∨ c = '\\' then none else stringBody (c :: read) rest

/-! ### Values -/

/-- Takes a word off the front. -/
def word? : List Char → List Char → Option (List Char)
  | [], cs => some cs
  | w :: ws, c :: cs => if w = c then word? ws cs else none
  | _ :: _, [] => none

mutual

/-- A value at the front of the text. `depth` more arrays and objects may be opened; `fuel` bounds
the number of tokens. -/
def value (fuel depth : Nat) (cs : List Char) : Step Json :=
  match fuel with
  | 0 => none
  | fuel + 1 =>
    match cs with
    | [] => none
    | '"' :: rest => (stringBody [] rest).map fun (text, rest) => (.string text, rest)
    | '[' :: rest =>
      match depth with
      | 0 => none
      | depth + 1 =>
        match skipBlanks rest with
        | ']' :: rest => some (.array [], rest)
        | rest => (items fuel depth rest).map fun (xs, rest) => (.array xs, rest)
    | '{' :: rest =>
      match depth with
      | 0 => none
      | depth + 1 =>
        match skipBlanks rest with
        | '}' :: rest => some (.object [], rest)
        | rest =>
          (members fuel depth rest).map fun (es, rest) =>
            (.object (Keyed.gather Prod.fst es), rest)
    | 'n' :: rest => (word? ['u', 'l', 'l'] rest).map (.null, ·)
    | 't' :: rest => (word? ['r', 'u', 'e'] rest).map (.bool true, ·)
    | 'f' :: rest => (word? ['a', 'l', 's', 'e'] rest).map (.bool false, ·)
    | cs => (number cs).map fun (n, rest) => (.number n, rest)

/-- The items of an array up to its closing bracket. -/
def items (fuel depth : Nat) (cs : List Char) : Step (List Json) :=
  match fuel with
  | 0 => none
  | fuel + 1 =>
    match value fuel depth cs with
    | none => none
    | some (item, rest) =>
      match skipBlanks rest with
      | ']' :: rest => some ([item], rest)
      | ',' :: rest =>
        (items fuel depth (skipBlanks rest)).map fun (more, rest) => (item :: more, rest)
      | _ => none

/-- The entries of an object up to its closing brace. -/
def members (fuel depth : Nat) (cs : List Char) : Step (List (String × Json)) :=
  match fuel with
  | 0 => none
  | fuel + 1 =>
    match cs with
    | '"' :: rest =>
      match stringBody [] rest with
      | none => none
      | some (key, rest) =>
        match skipBlanks rest with
        | ':' :: rest =>
          match value fuel depth (skipBlanks rest) with
          | none => none
          | some (item, rest) =>
            match skipBlanks rest with
            | '}' :: rest => some ([(key, item)], rest)
            | ',' :: rest =>
              (members fuel depth (skipBlanks rest)).map fun (more, rest) =>
                ((key, item) :: more, rest)
            | _ => none
        | _ => none
    | _ => none

end

/-- How many arrays and objects may be open at once. -/
def maxDepth : Nat := 127

end Parser

/-- Reads one JSON value, with nothing but blanks around it. -/
def parse? (text : String) : Option Json :=
  let cs := text.toList
  match Parser.value (2 * cs.length + 2) Parser.maxDepth (Parser.skipBlanks cs) with
  | none => none
  | some (json, rest) => if (Parser.skipBlanks rest).isEmpty then some json else none

end ApiTypes.Json
