import CppIdioms.Number.Shortest
import CppIdioms.Text.Numeral

/-!
# Decimal text of binary64 values

Writing a value with its shortest digits, and reading the value nearest to a decimal.

## Contents

* `DecimalStyle`: the decisions of a written form.
* `DecimalStyle.write`: a value in that form.
* `ofDecimal`: the value nearest to a decimal.
* `readDecimal?`: reading a decimal with sign, point and exponent, or the name of a value that has
  no digits.
-/

namespace CppIdioms.Number

open CppIdioms.Text

/-! ## §1 Writing -/

/-- How a value is written: which decimal exponents are written out in full, the least number of
digits of an exponent, and the names of the values that have no digits. -/
structure DecimalStyle where
  leastPositional : Int
  mostPositional : Int
  exponentWidth : Nat
  infinity : String
  notANumber : String

/-- The digits of a decimal without zeros at their end, and the place of its point before them. -/
def Decimal.significant (d : Decimal) : List Char × Int :=
  let digits := Nat.toDigits 10 d.coefficient
  (dropEndWhile (· == '0') digits, d.exponent + digits.length)

/-- The digits with the point written in its place and at least one digit on either side of it. -/
def positional (digits : List Char) (point : Int) : List Char :=
  if point ≤ 0 then '0' :: '.' :: List.replicate (-point).toNat '0' ++ digits
  else
    let before := point.toNat
    let whole := digits.take before ++ List.replicate (before - digits.length) '0'
    let fraction := digits.drop before
    whole ++ '.' :: (if fraction.isEmpty then ['0'] else fraction)

/-- The digits with the point after the first one and the exponent written out. -/
def scientific (width : Nat) (digits : List Char) (exponent : Int) : List Char :=
  let power := Nat.toDigits 10 exponent.natAbs
  let padded := List.replicate (width - power.length) '0' ++ power
  let lead :=
    match digits with
    | d :: e :: rest => d :: '.' :: e :: rest
    | short => short
  lead ++ 'e' :: (if exponent < 0 then '-' else '+') :: padded

/-- The magnitude of a finite value. -/
def DecimalStyle.magnitude (style : DecimalStyle) (units : Nat) : List Char :=
  if units = 0 then ['0', '.', '0']
  else
    let (digits, point) := (shortest units).significant
    let exponent := point - 1
    if style.leastPositional ≤ exponent && exponent ≤ style.mostPositional then
      positional digits point
    else scientific style.exponentWidth digits exponent

/-- A value in its written form. -/
def DecimalStyle.write (style : DecimalStyle) : Binary64 → String
  | .finite s u => String.ofList ((if s then ['-'] else []) ++ style.magnitude u)
  | .infinite s => (if s then "-" else "") ++ style.infinity
  | .nan => style.notANumber

/-! ## §2 Reading -/

/-- The value nearest to `coefficient * 10 ^ exponent`. Decimals beyond the range of finite values
on either side are settled by their number of digits. -/
def ofDecimal (negative : Bool) (coefficient : Nat) (exponent : Int) : Binary64 :=
  if coefficient = 0 then .finite negative 0
  else
    let place := (Nat.toDigits 10 coefficient).length + exponent
    if 400 < place then .infinite negative
    else if place < -400 then .finite negative 0
    else .ofRatio negative (coefficient * Nat.pow 10 exponent.toNat) (Nat.pow 10 (-exponent).toNat)

/-- The exponent part of a decimal: nothing, or a mark, a sign and digits. -/
def readExponent? : List Char → Option Int
  | [] => some 0
  | mark :: cs =>
    if mark == 'e' || mark == 'E' then
      readSigned (fun ds => (digitRun? 10 ds).map (ofDigits 10)) cs
    else none

/-- A decimal without sign: digits before or after a point, and an exponent. -/
def readMagnitude? (negative : Bool) (cs : List Char) : Option Binary64 :=
  let isPart (c : Char) := c.isDigit || c == '_'
  let whole := cs.takeWhile isPart
  let rest := cs.dropWhile isPart
  let (fraction, tail) :=
    match rest with
    | '.' :: more => (more.takeWhile isPart, more.dropWhile isPart)
    | _ => ([], rest)
  let part (ds : List Char) : Option (List Nat) := if ds.isEmpty then some [] else digitRun? 10 ds
  match part whole, part fraction, readExponent? tail with
  | some a, some b, some e =>
    if a.isEmpty && b.isEmpty then none
    else some (ofDecimal negative (ofDigits 10 (a ++ b)) (e - b.length))
  | _, _, _ => none

/-- A decimal without sign, or the name of an infinity or of the value that is no number. -/
def readUnsigned? (negative : Bool) (cs : List Char) : Option Binary64 :=
  let name := String.ofList (cs.map Char.toLower)
  if name == "inf" || name == "infinity" then some (.infinite negative)
  else if name == "nan" then some .nan
  else readMagnitude? negative cs

/-- The value nearest to the decimal that a text denotes, blanks around it aside. -/
def readDecimal? (cs : List Char) : Option Binary64 :=
  match dropEndWhile isNumeralBlank (cs.dropWhile isNumeralBlank) |>.map plainDigit with
  | '-' :: rest => readUnsigned? true rest
  | '+' :: rest => readUnsigned? false rest
  | rest => readUnsigned? false rest

end CppIdioms.Number
