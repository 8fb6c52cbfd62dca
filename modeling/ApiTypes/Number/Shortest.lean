import ApiTypes.Number.Double

/-!
The shortest decimal that reads back as a given floating point number, and its layout as text.

A decimal reads back exactly when it lies between the midpoints to the neighbouring numbers, the
midpoints included when the mantissa is even. For one digit, then two, and so on, the two
decimals next to the number on that grid are tried; of two that read back the nearer is taken, and
of two equally near the one with the even last digit.
-/

namespace ApiTypes

/-- `digits * 10 ^ exponent`. -/
structure Decimal where
  digits : Nat
  exponent : Int
deriving DecidableEq, Repr, Inhabited

namespace Decimal

/-- Moves trailing zeros of the digits into the exponent, at most `fuel` of them. -/
def stripZeros : Nat → Decimal → Decimal
  | 0, d => d
  | fuel + 1, d =>
    if d.digits % 10 = 0 ∧ d.digits ≠ 0 then stripZeros fuel ⟨d.digits / 10, d.exponent + 1⟩ else d

end Decimal

namespace Double

/-- The number of decimal digits before the point of `num / den`; zero or negative when it is
below one. -/
def pointOf (num den : Nat) : Int :=
  let k : Int := ((Nat.toDigits 10 num).length : Int) - ((Nat.toDigits 10 den).length : Int)
  if num * Nat.pow 10 (-k).toNat < den * Nat.pow 10 k.toNat then k else k + 1

/-- The midpoints to the neighbouring numbers and the number itself, over one denominator. -/
structure Bounds where
  low : Nat
  value : Nat
  high : Nat
  den : Nat
  closed : Bool

def bounds (d : Double) : Bounds :=
  let up := Nat.pow 2 d.exponent.toNat
  let lowGap := if d.mantissa = Nat.pow 2 52 ∧ minExponent < d.exponent then 1 else 2
  { low := (4 * d.mantissa - lowGap) * up
    value := 4 * d.mantissa * up
    high := (4 * d.mantissa + 2) * up
    den := 4 * Nat.pow 2 (-d.exponent).toNat
    closed := d.mantissa % 2 == 0 }

/-- Whether `n * num / den` reads back, where `num / den` is the step of a decimal grid. -/
def Bounds.holds (b : Bounds) (n num den : Nat) : Bool :=
  let x := n * num * b.den
  if b.closed then b.low * den ≤ x && x ≤ b.high * den else b.low * den < x && x < b.high * den

/-- The decimal of `count` digits nearest to the number, if one of that length reads back. -/
def decimalOf? (b : Bounds) (count : Nat) : Option Decimal :=
  let e : Int := pointOf b.value b.den - count
  let num := Nat.pow 10 e.toNat
  let den := Nat.pow 10 (-e).toNat
  let below := b.value * den / (num * b.den)
  let above := below + 1
  match b.holds below num den, b.holds above num den with
  | false, false => none
  | true, false => some ⟨below, e⟩
  | false, true => some ⟨above, e⟩
  | true, true =>
    let down := b.value * den - below * num * b.den
    let up := above * num * b.den - b.value * den
    if down < up ∨ (down = up ∧ below % 2 = 0) then some ⟨below, e⟩ else some ⟨above, e⟩

/-- The shortest decimal of the absolute value, without trailing zeros. -/
def shortest (d : Double) : Decimal :=
  if d.isZero then ⟨0, 0⟩
  else
    let found := (List.range 17).findSome? fun n => decimalOf? d.bounds (n + 1)
    (found.getD ⟨d.mantissa, d.exponent⟩).stripZeros 20

/-- How a floating point number is laid out: positional while its leading digit stands at a power
of ten in `[lowest, highest]`, scientific otherwise. -/
structure Layout where
  lowest : Int
  highest : Int
  plusSign : Bool

def Layout.exponentText (layout : Layout) (e : Int) : String :=
  if 0 ≤ e ∧ layout.plusSign then "e+" ++ e.repr else "e" ++ e.repr

/-- Whether a number whose leading digit stands at this power of ten has an exponent. -/
def Layout.hasExponent (layout : Layout) (lead : Int) : Bool :=
  lead < layout.lowest || layout.highest < lead

/-- The digits with a point behind the first. -/
def pointedDigits : List Char → List Char
  | c :: d :: rest => c :: '.' :: d :: rest
  | digits => digits

/-- The digits with the point at its place; there is a fraction always, `.0` if nothing else. -/
def placedDigits (digits : List Char) (point : Int) : List Char :=
  if point ≤ 0 then '0' :: '.' :: (List.replicate (-point).toNat '0' ++ digits)
  else if (digits.length : Int) ≤ point then
    digits ++ List.replicate (point - digits.length).toNat '0' ++ ['.', '0']
  else digits.take point.toNat ++ '.' :: digits.drop point.toNat

def Layout.text (layout : Layout) (d : Double) : String :=
  let sign := if d.negative then "-" else ""
  if d.isZero then sign ++ "0.0"
  else
    let s := d.shortest
    let digits := Nat.toDigits 10 s.digits
    let point : Int := digits.length + s.exponent
    if layout.hasExponent (point - 1) then
      sign ++ String.ofList (pointedDigits digits) ++ layout.exponentText (point - 1)
    else sign ++ String.ofList (placedDigits digits point)

end Double

end ApiTypes
