/-!
# Double precision numbers

The finite numbers of 64-bit floating point, as a sign and an exact value `mantissa * 2 ^ exponent`.
All arithmetic is on natural numbers.

* `Double.round` is the number nearest to a ratio, an exact half going to the even mantissa;
* `Double.mul` and `Double.div` are the exact results, rounded once;
* `Double.ofScaled` evaluates `significand * 10 ^ power` by one multiplication or division with the
  nearest power of ten, which is not always the nearest number.
-/

namespace Autofix.Decimal

/-- A finite number: below `2 ^ 53` in the mantissa, the exponent between `-1074` and `971`, and as
    small as the mantissa allows. -/
structure Double where
  negative : Bool
  mantissa : Nat
  exponent : Int
  deriving DecidableEq, Repr, Inhabited

namespace Double

def zero : Double := ⟨false, 0, -1074⟩

def neg (x : Double) : Double := { x with negative := !x.negative }

/-- The quotient nearest to `num / den`, an exact half going to the even one. -/
def nearest (num den : Nat) : Nat :=
  let q := num / den
  let r := num % den
  if 2 * r < den then q
  else if 2 * r = den then (if q % 2 = 0 then q else q + 1)
  else q + 1

/-- `num / den * 2 ^ (-e)`, as a quotient of natural numbers. -/
def shifted (num den : Nat) (e : Int) : Nat × Nat :=
  (num * Nat.pow 2 (-e).toNat, den * Nat.pow 2 e.toNat)

/-- The number nearest to `num / den * 2 ^ scale`, unless that is too large. -/
def round (num den : Nat) (scale : Int) : Option Double :=
  if num = 0 then some zero
  else
    let guess : Int := (num.log2 : Int) - (den.log2 : Int) - 53
    let (n, d) := shifted num den guess
    -- `guess` may be one below the exponent that leaves 53 bits.
    let e₁ := if n / d ≥ Nat.pow 2 53 then guess + 1 else guess
    let e := max e₁ (-1074 - scale)
    let (n, d) := shifted num den e
    let m := nearest n d
    let (m, e) := if m = Nat.pow 2 53 then (Nat.pow 2 52, e + 1) else (m, e)
    if e + scale > 971 then none
    else if m = 0 then some zero
    else some ⟨false, m, e + scale⟩

def ofNat (n : Nat) : Option Double := round n 1 0

def mul (x y : Double) : Option Double :=
  (round (x.mantissa * y.mantissa) 1 (x.exponent + y.exponent)).map fun z =>
    { z with negative := x.negative != y.negative }

/-- The quotient by a number other than zero. -/
def div (x y : Double) : Option Double :=
  (round x.mantissa y.mantissa (x.exponent - y.exponent)).map fun z =>
    { z with negative := x.negative != y.negative }

/-- The number nearest to a power of ten. -/
def powerOfTen (k : Nat) : Option Double := round (Nat.pow 10 k) 1 0

/-- Divides by `10 ^ 308` until at most 308 powers of ten are left to divide by. -/
def scaleDown : Nat → Double → Nat → Option Double
  | 0, _, _ => some zero
  | steps + 1, x, k =>
    if x.mantissa = 0 then some zero
    else if k ≤ 308 then do x.div (← powerOfTen k)
    else do scaleDown steps (← x.div (← powerOfTen 308)) (k - 308)

/-- `significand * 10 ^ power` for a significand below `2 ^ 64`, by a single operation with a power
    of ten where the power is in range; none when the result is too large. -/
def ofScaled (significand : Nat) (power : Int) : Option Double := do
  let x ← ofNat significand
  if power ≥ 0 then
    if power.toNat ≤ 308 then x.mul (← powerOfTen power.toNat)
    else if significand = 0 then some zero
    else none
  -- Two steps of `10 ^ -308` take any significand to zero.
  else scaleDown 4 x (-power).toNat

end Double

end Autofix.Decimal
