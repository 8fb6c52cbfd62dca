/-!
Finite 64-bit floating point numbers as exact integers.

A number is `± mantissa * 2 ^ exponent` with a mantissa below `2 ^ 53`. Reading a ratio of
integers rounds to the nearest number, a half going to the even mantissa; a ratio too large for
the format has no number.
-/

namespace ApiTypes

structure Double where
  negative : Bool
  mantissa : Nat
  exponent : Int
deriving DecidableEq, Repr, Inhabited

/-- The integer nearest to `num / den`, a half going to the even neighbour. -/
def roundHalfEven (num den : Nat) : Nat :=
  let quotient := num / den
  let rest := num % den
  if 2 * rest < den ∨ (2 * rest = den ∧ quotient % 2 = 0) then quotient else quotient + 1

namespace Double

def minExponent : Int := -1074

def maxExponent : Int := 971

def zero (negative : Bool) : Double := ⟨negative, 0, minExponent⟩

/-- The largest `k` with `2 ^ k ≤ num / den`, for positive `num` and `den`. -/
def floorLog2 (num den : Nat) : Int :=
  let k : Int := (num.log2 : Int) - (den.log2 : Int)
  if num * Nat.pow 2 (-k).toNat < den * Nat.pow 2 k.toNat then k - 1 else k

/-- The number nearest to `num / den`, or none when it lies beyond the largest one. -/
def ofRatio? (negative : Bool) (num den : Nat) : Option Double :=
  if num = 0 then some (zero negative)
  else
    let e := max (floorLog2 num den - 52) minExponent
    let m := roundHalfEven (num * Nat.pow 2 (-e).toNat) (den * Nat.pow 2 e.toNat)
    let (m, e) := if m = Nat.pow 2 53 then (Nat.pow 2 52, e + 1) else (m, e)
    if maxExponent < e then none else some ⟨negative, m, e⟩

/-- The absolute value as a ratio of integers. -/
def ratio (d : Double) : Nat × Nat :=
  (d.mantissa * Nat.pow 2 d.exponent.toNat, Nat.pow 2 (-d.exponent).toNat)

def isZero (d : Double) : Bool := d.mantissa == 0

/-- Equality as numbers: the two zeros are equal. -/
def same (a b : Double) : Bool := a == b || (a.isZero && b.isZero)

/-- The absolute value times `num / den`, rounded. -/
def scale? (d : Double) (num den : Nat) : Option Double :=
  ofRatio? d.negative (d.ratio.1 * num) (d.ratio.2 * den)

/-- The number nearest to `digits * 10 ^ exponent`. Exponents far outside the format are settled
by size alone. -/
def ofDecimal? (negative : Bool) (digits : Nat) (exponent : Int) : Option Double :=
  let size : Int := ((Nat.toDigits 10 digits).length : Int) + exponent
  if digits = 0 ∨ size < -330 then some (zero negative)
  else if 330 < size then none
  else ofRatio? negative (digits * Nat.pow 10 exponent.toNat) (Nat.pow 10 (-exponent).toNat)

end Double

end ApiTypes
