import Autofix.Decimal.Double

/-!
# Shortest decimals

The text of a double is the decimal with the fewest digits that is nearer to it than to any other
double; among decimals of that length, the nearest one.

* `shortest` finds the digits and the power of ten;
* `Layout` says how they are written down, and `Double.write` writes them.
-/

namespace Autofix.Decimal

/-- The decimal `digits * 10 ^ power`. -/
structure Scientific where
  digits : Nat
  power : Int
  deriving DecidableEq, Repr

/-- Compares `a * 10 ^ p` with `b * 2 ^ e`. -/
def compareScaled (a : Nat) (p : Int) (b : Nat) (e : Int) : Ordering :=
  let left := a * Nat.pow 10 p.toNat * Nat.pow 2 (-e).toNat
  let right := b * Nat.pow 2 e.toNat * Nat.pow 10 (-p).toNat
  compare left right

/-- The whole part of `b * 2 ^ e / 10 ^ p`. -/
def floorScaled (b : Nat) (e p : Int) : Nat :=
  b * Nat.pow 2 e.toNat * Nat.pow 10 (-p).toNat / (Nat.pow 2 (-e).toNat * Nat.pow 10 p.toNat)

/-- Whether `a * 10 ^ p` reads back as the double with this mantissa and exponent. The reals that do
    lie between the midpoints to the two neighbours, which count when the mantissa is even. The
    lower neighbour of a power of two is half as far away. -/
def readsBack (m : Nat) (e : Int) (a : Nat) (p : Int) : Bool :=
  let closer := m = Nat.pow 2 52 && e > -1074
  let low := if closer then 4 * m - 1 else 4 * m - 2
  let high := 4 * m + 2
  let aboveLow := compareScaled a p low (e - 2)
  let belowHigh := compareScaled a p high (e - 2)
  if m % 2 = 0 then aboveLow != .lt && belowHigh != .gt
  else aboveLow == .gt && belowHigh == .lt

/-- The multiple of `10 ^ p` that is nearest to the double among those that read back as it. -/
def onGrid? (m : Nat) (e p : Int) : Option Nat :=
  let below := floorScaled m e p
  let above := below + 1
  match readsBack m e below p, readsBack m e above p with
  | true, false => some below
  | false, true => some above
  | false, false => none
  | true, true =>
    -- Twice the double against the sum of the two candidates.
    match compareScaled (below + above) p (2 * m) e with
    | .lt => some above
    | .gt => some below
    | .eq => some (if below % 2 = 0 then below else above)

/-- Tries the grids from the coarsest on. -/
def shortestFrom (m : Nat) (e : Int) : Nat → Int → Scientific
  | 0, p => ⟨floorScaled m e p, p⟩
  | finer + 1, p =>
    match onGrid? m e p with
    | some a => if a = 0 then shortestFrom m e finer (p - 1) else ⟨a, p⟩
    | none => shortestFrom m e finer (p - 1)

/-- The shortest decimal of a positive double. -/
def shortest (x : Double) : Scientific :=
  -- `top` is at least the power of the leading digit: 10 > 2 ^ 3.
  let bits : Int := (x.mantissa.log2 : Int) + x.exponent
  let top : Int := if bits ≥ 0 then bits / 3 + 1 else bits / 4 + 1
  shortestFrom x.mantissa x.exponent 400 top

/-- How the digits of a number are written down. -/
structure Layout where
  /-- Powers of the leading digit at which the number is written without an exponent. -/
  positionalFrom : Int
  positionalUpTo : Int
  /-- What marks an exponent that is not negative. -/
  exponentSign : String

/-- Drops the zeros at the end of the digits. -/
def Scientific.trim : Nat → Scientific → Scientific
  | 0, s => s
  | steps + 1, s =>
    if s.digits ≠ 0 ∧ s.digits % 10 = 0 then trim steps ⟨s.digits / 10, s.power + 1⟩ else s

/-- Writes a double: without an exponent, and then with a point and at least one digit after it, or
    as one digit, the rest after a point, and an exponent. -/
def Double.write (layout : Layout) (x : Double) : String :=
  let sign := if x.negative then "-" else ""
  if x.mantissa = 0 then sign ++ "0.0"
  else
    let s := (shortest x).trim 400
    let digits := (toString s.digits).toList
    let count : Int := digits.length
    let lead : Int := s.power + count - 1
    let body : List Char :=
      if layout.positionalFrom ≤ lead ∧ lead ≤ layout.positionalUpTo then
        if s.power ≥ 0 then digits ++ List.replicate s.power.toNat '0' ++ ['.', '0']
        else if lead ≥ 0 then
          digits.take (lead.toNat + 1) ++ ['.'] ++ digits.drop (lead.toNat + 1)
        else ['0', '.'] ++ List.replicate (-lead - 1).toNat '0' ++ digits
      else
        let mantissa := match digits with
          | [d] => [d]
          | d :: rest => d :: '.' :: rest
          | [] => []
        let power := if lead ≥ 0 then layout.exponentSign ++ toString lead.toNat
          else "-" ++ toString (-lead).toNat
        mantissa ++ ['e'] ++ power.toList
    sign ++ String.ofList body

end Autofix.Decimal
