import Epilogue.Decimal.Binary64

/-!
# Epilogue — shortest decimals

The decimal with the fewest digits that reads back as a given binary number. The reals that round to
the number form an interval, whose ends belong to it iff the mantissa is even. For one digit, two
digits and so on, the number lies between two neighbours on the grid of decimals with that many
digits; the first grid with a neighbour inside the interval decides, and there the nearer neighbour.
-/

namespace Epilogue.Decimal

/-- The decimal `digits * 10 ^ power`. -/
structure Scaled where
  digits : Nat
  power : Int
  deriving DecidableEq

/-- The fraction `num / den`, divided by ten to the power `p`. -/
def unscale (num den : Nat) (p : Int) : Nat × Nat :=
  if 0 ≤ p then (num, den * Nat.pow 10 p.toNat) else (num * Nat.pow 10 (-p).toNat, den)

/-- The power of ten of the leading digit of a positive number. -/
def magnitude (x : Binary64) : Int :=
  let estimate := (x.mantissa.log2 + x.exponent) * 30103 / 100000
  let (n, d) := unscale x.ratio.1 x.ratio.2 (estimate + 1)
  if d ≤ n then estimate + 1 else estimate

/-- The fractions that end the interval of reals rounding to the number. Below a power of two the
grid is twice as fine. -/
def interval (x : Binary64) : (Nat × Nat) × (Nat × Nat) :=
  let below := if x.mantissa = Binary64.leastNormal ∧ -1074 < x.exponent then 1 else 2
  let quarter (n : Nat) : Nat × Nat := (Binary64.mk n (x.exponent - 2)).ratio
  (quarter (4 * x.mantissa - below), quarter (4 * x.mantissa + 2))

/-- Whether a decimal reads back as the number. -/
def readsBack (x : Binary64) (s : Scaled) : Bool :=
  let (low, high) := interval x
  let (l, ld) := unscale low.1 low.2 s.power
  let (h, hd) := unscale high.1 high.2 s.power
  if x.mantissa % 2 = 0 then l ≤ s.digits * ld && s.digits * hd ≤ h
  else l < s.digits * ld && s.digits * hd < h

/-- The nearest decimal to the number among its neighbours with `count` digits that read back; a tie
goes to the even one. -/
def neighbour? (x : Binary64) (count : Nat) : Option Scaled :=
  let p := magnitude x - (count - 1 : Nat)
  let (n, d) := unscale x.ratio.1 x.ratio.2 p
  let q := n / d
  let nearest := Binary64.roundDiv n d
  let other := if nearest = q then q + 1 else q
  [⟨nearest, p⟩, ⟨other, p⟩].find? (readsBack x)

/-- Drops trailing zeros, at most `fuel` of them. -/
def Scaled.trim : (fuel : Nat) → Scaled → Scaled
  | 0, s => s
  | fuel + 1, s =>
    if s.digits % 10 = 0 ∧ s.digits ≠ 0 then trim fuel ⟨s.digits / 10, s.power + 1⟩ else s

/-- The shortest decimal that reads back as the number. Seventeen digits always do. -/
def shortest (x : Binary64) : Scaled :=
  if x.mantissa = 0 then ⟨0, 0⟩
  else (((List.range 17).findSome? fun k => neighbour? x (k + 1)).getD ⟨0, 0⟩).trim 17

end Epilogue.Decimal
