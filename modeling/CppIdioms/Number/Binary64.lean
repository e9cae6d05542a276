/-!
# Numbers with fifty-three significant bits

The values of the binary64 format. Every finite one is a whole multiple of the smallest positive
one, `2 ^ -1074`, so a finite value is a sign and that multiple, and comparing, truncating and
rounding are questions about natural numbers.

## Contents

* `Binary64`: finite values, infinities and the value that is no number.
* `roundDiv`: the whole number nearest to a quotient, an exact half going to the even neighbour.
* `Binary64.ofRatio`: the value nearest to a quotient.
* `Binary64.add`, `Binary64.mul`: sum and product, rounded once.
* `Binary64.eq`, `Binary64.eqInt`, `Binary64.ltInt`, `Binary64.intLt`, `Binary64.lt`: comparison.
* `Binary64.truncate?`: the whole part.
-/

namespace CppIdioms.Number

/-- A binary64 value; `finite negative units` is `units * 2 ^ -1074` with a sign. -/
inductive Binary64 where
  | finite (negative : Bool) (units : Nat)
  | infinite (negative : Bool)
  | nan
  deriving DecidableEq, Repr, Inhabited

/-- The number of units in one. -/
def unitsInOne : Nat := Nat.pow 2 1074

/-- Magnitudes from here on are infinite. -/
def unitsLimit : Nat := Nat.pow 2 2098

/-- The whole number nearest to `num / den`; an exact half goes to the even neighbour. -/
def roundDiv (num den : Nat) : Nat :=
  let q := num / den
  let r := num % den
  if 2 * r < den then q
  else if den < 2 * r then q + 1
  else if q % 2 = 0 then q
  else q + 1

namespace Binary64

/-! ## §1 Rounding -/

/-- The binary places by which `units` exceeds fifty-three significant bits. -/
def excessBits (units : Nat) : Nat := units.log2 - 52

/-- The multiple of the unit nearest to `num / den` units that has fifty-three significant bits. -/
def roundUnits (num den : Nat) : Nat :=
  let shift := Nat.pow 2 (excessBits (num / den))
  roundDiv num (den * shift) * shift

/-- A magnitude in units, infinite beyond the largest finite value. -/
def ofUnits (negative : Bool) (units : Nat) : Binary64 :=
  if units < unitsLimit then .finite negative units else .infinite negative

/-- The value nearest to `num / den`, with the sign given. -/
def ofRatio (negative : Bool) (num den : Nat) : Binary64 :=
  ofUnits negative (roundUnits (num * unitsInOne) den)

/-- The value nearest to a whole number. -/
def ofInt (n : Int) : Binary64 := ofRatio (n < 0) n.natAbs 1

/-- Zero without a sign. -/
def zero : Binary64 := .finite false 0

/-! ## §2 Arithmetic -/

/-- The value with its sign turned. -/
def neg : Binary64 → Binary64
  | .finite s u => .finite (!s) u
  | .infinite s => .infinite (!s)
  | .nan => .nan

/-- The signed multiple of the unit that a finite value is. -/
def signedUnits (negative : Bool) (units : Nat) : Int := if negative then -units else units

/-- The sum, rounded once. -/
def add : Binary64 → Binary64 → Binary64
  | .nan, _ => .nan
  | _, .nan => .nan
  | .infinite s, .infinite t => if s = t then .infinite s else .nan
  | .infinite s, .finite _ _ => .infinite s
  | .finite _ _, .infinite t => .infinite t
  | .finite s u, .finite t v =>
    let sum := signedUnits s u + signedUnits t v
    if sum = 0 then .finite (s && t) 0
    else ofUnits (sum < 0) (roundUnits sum.natAbs 1)

/-- The product, rounded once. -/
def mul : Binary64 → Binary64 → Binary64
  | .nan, _ => .nan
  | _, .nan => .nan
  | .infinite s, .infinite t => .infinite (s != t)
  | .infinite s, .finite t v => if v = 0 then .nan else .infinite (s != t)
  | .finite s u, .infinite t => if u = 0 then .nan else .infinite (s != t)
  | .finite s u, .finite t v => ofUnits (s != t) (roundUnits (u * v) unitsInOne)

/-! ## §3 Comparison -/

/-- Equality of values: zero equals itself with either sign, and what is no number equals nothing. -/
def eq : Binary64 → Binary64 → Bool
  | .finite s u, .finite t v => signedUnits s u == signedUnits t v
  | .infinite s, .infinite t => s == t
  | _, _ => false

/-- The order of values; what is no number is comparable with nothing. -/
def lt : Binary64 → Binary64 → Bool
  | .nan, _ => false
  | _, .nan => false
  | .finite s u, .finite t v => signedUnits s u < signedUnits t v
  | .finite _ _, .infinite t => !t
  | .infinite s, .finite _ _ => s
  | .infinite s, .infinite t => s && !t

/-- Equality with a whole number, exact for whole numbers of any size. -/
def eqInt (x : Binary64) (n : Int) : Bool :=
  match x with
  | .finite s u => signedUnits s u == n * unitsInOne
  | _ => false

/-- The value lies below a whole number. -/
def ltInt (x : Binary64) (n : Int) : Bool :=
  match x with
  | .finite s u => signedUnits s u < n * unitsInOne
  | .infinite s => s
  | .nan => false

/-- A whole number lies below the value. -/
def intLt (n : Int) (x : Binary64) : Bool :=
  match x with
  | .finite s u => n * unitsInOne < signedUnits s u
  | .infinite s => !s
  | .nan => false

/-- The whole part of a finite value, rounded towards zero. -/
def truncate? : Binary64 → Option Int
  | .finite s u => some (signedUnits s (u / unitsInOne))
  | _ => none

/-- Zero of either sign. -/
def isZero : Binary64 → Bool
  | .finite _ u => u == 0
  | _ => false

end Binary64

end CppIdioms.Number
