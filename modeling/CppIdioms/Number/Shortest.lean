import CppIdioms.Number.Binary64

/-!
# Shortest decimal digits

The fewest decimal digits that read back as a given binary64 value and, of those, the ones nearest
to it. The reals that round to the value form an interval; for one digit, two digits and so on the
two neighbours of the value on that decimal grid are tested against it, in whole numbers.

## Contents

* `Decimal`: a whole number scaled by a power of ten.
* `Interval`, `roundingInterval`: the reals that round to a value, in quarter units.
* `pointPlace`: how many digits stand before the decimal point.
* `candidate?`, `shortest`: the digits of a given number, and the fewest that do.
-/

namespace CppIdioms.Number

/-- The decimal `coefficient * 10 ^ exponent`. -/
structure Decimal where
  coefficient : Nat
  exponent : Int
  deriving DecidableEq, Repr

/-- The reals between two bounds, in quarters of a unit, with or without the bounds. -/
structure Interval where
  low : Nat
  high : Nat
  closed : Bool

/-- The reals that round to `units`: half a step to either side, a quarter of a step below where
the steps become smaller, the ends included for an even significand. -/
def roundingInterval (units : Nat) : Interval :=
  let step := Nat.pow 2 (Binary64.excessBits units)
  let significand := units / step
  let below := if significand = Nat.pow 2 52 ∧ 1 < step then step else 2 * step
  ⟨4 * units - below, 4 * units + 2 * step, significand % 2 = 0⟩

/-- Membership of `num / den` units, in quarters. -/
def Interval.contains (i : Interval) (num den : Nat) : Bool :=
  if i.closed then i.low * den ≤ num && num ≤ i.high * den
  else i.low * den < num && num < i.high * den

/-- The number of digits before the decimal point, negative for leading zeros after it. -/
def pointPlace (units : Nat) : Int :=
  let whole := units / unitsInOne
  if whole = 0 then
    match (List.range 330).find? fun j => unitsInOne ≤ units * Nat.pow 10 (j + 1) with
    | some j => -(j : Int)
    | none => 0
  else (Nat.toDigits 10 whole).length

/-- The decimal with `count` digits nearest to the value among its two neighbours, if one of them
reads back; of two equally near ones the even one. -/
def candidate? (units : Nat) (point : Int) (count : Nat) : Option Decimal :=
  let exponent := point - count
  let up := Nat.pow 10 exponent.toNat
  let down := Nat.pow 10 (-exponent).toNat
  let num := units * down
  let den := unitsInOne * up
  let n := num / den
  let inside (k : Nat) := (roundingInterval units).contains (4 * k * up * unitsInOne) down
  if inside n && inside (n + 1) then some ⟨roundDiv num den, exponent⟩
  else if inside n then some ⟨n, exponent⟩
  else if inside (n + 1) then some ⟨n + 1, exponent⟩
  else none

/-- The shortest decimal that reads back as a positive value; seventeen digits always do. -/
def shortest (units : Nat) : Decimal :=
  let point := pointPlace units
  ((List.range 17).findSome? fun i => candidate? units point (i + 1)).getD ⟨0, 0⟩

end CppIdioms.Number
