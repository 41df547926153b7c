/-!
# Epilogue — binary floating point

Non-negative numbers of the 64-bit binary format, held exactly as a mantissa and an exponent of two.
Every operation is the exact rational result, rounded once to the nearest number of the format, a
tie to the even mantissa.

* `Binary64.ofRatio` — the nearest number to a fraction, `none` if it is too large;
* `Binary64.ofDecimal` — a whole number scaled by a power of ten, one operation on two rounded
  numbers, so the result may be a unit in the last place from the nearest.
-/

namespace Epilogue

/-- The number `mantissa * 2 ^ exponent`. The mantissa is below `2 ^ 53`, and below `2 ^ 52` only
where the exponent is the least one, `-1074`. -/
structure Binary64 where
  mantissa : Nat
  exponent : Int
  deriving DecidableEq

namespace Binary64

/-- The least mantissa of a number whose exponent is not the least one. -/
def leastNormal : Nat := 0x10000000000000

/-- The nearest whole number to `num / den`, of two the even one. -/
def roundDiv (num den : Nat) : Nat :=
  let q := num / den
  let r := num % den
  if 2 * r < den then q
  else if den < 2 * r then q + 1
  else q + q % 2

/-- The fraction `num / den`, divided by two to the power `e`. -/
def shift (num den : Nat) (e : Int) : Nat × Nat :=
  if 0 ≤ e then (num, den * Nat.pow 2 e.toNat) else (num * Nat.pow 2 (-e).toNat, den)

/-- The exponent at which a positive fraction has a mantissa of 53 bits, or the least exponent. -/
def exponentFor (num den : Nat) : Int :=
  let upper : Int := num.log2 - den.log2 - 52
  let (n, d) := shift num den (upper - 1)
  max (-1074) (if n / d < 2 * leastNormal then upper - 1 else upper)

/-- The number nearest to `num / den`, unless it is `2 ^ 1024` or more. -/
def ofRatio (num den : Nat) : Option Binary64 :=
  let e := exponentFor num den
  let (n, d) := shift num den e
  let m := roundDiv n d
  let x : Binary64 := if m = 2 * leastNormal then ⟨leastNormal, e + 1⟩ else ⟨m, e⟩
  if 971 < x.exponent then none else some x

/-- The number as a fraction. -/
def ratio (x : Binary64) : Nat × Nat :=
  if 0 ≤ x.exponent then (x.mantissa * Nat.pow 2 x.exponent.toNat, 1)
  else (x.mantissa, Nat.pow 2 (-x.exponent).toNat)

/-- The rounded product. -/
def mul (x y : Binary64) : Option Binary64 :=
  ofRatio (x.ratio.1 * y.ratio.1) (x.ratio.2 * y.ratio.2)

/-- The rounded quotient. -/
def div (x y : Binary64) : Option Binary64 :=
  ofRatio (x.ratio.1 * y.ratio.2) (x.ratio.2 * y.ratio.1)

/-- The number nearest to a power of ten. -/
def pow10 (n : Nat) : Option Binary64 := ofRatio (Nat.pow 10 n) 1

/-- The greatest power of ten of the format. -/
def maxPower : Nat := 308

/-- Divides by ten to the power `n`, in steps of at most the greatest power. -/
def dividePow10 (x : Binary64) (n : Nat) : Option Binary64 :=
  if n ≤ maxPower then (pow10 n).bind x.div
  else if x.mantissa = 0 then some x
  else ((pow10 maxPower).bind x.div).bind fun y => dividePow10 y (n - maxPower)
  termination_by n
  decreasing_by unfold maxPower at *; omega

/-- Multiplies by ten to the power `n`; only zero can be scaled by more than the greatest power. -/
def multiplyPow10 (x : Binary64) (n : Nat) : Option Binary64 :=
  if n ≤ maxPower then (pow10 n).bind x.mul
  else if x.mantissa = 0 then some x
  else none

/-- The whole number `significand`, rounded, scaled by a power of ten. -/
def ofDecimal (significand : Nat) (power : Int) : Option Binary64 :=
  (ofRatio significand 1).bind fun x =>
    if 0 ≤ power then x.multiplyPow10 power.toNat else x.dividePow10 (-power).toNat

end Binary64

end Epilogue
