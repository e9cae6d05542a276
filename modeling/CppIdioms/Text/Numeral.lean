import CppIdioms.Text.Blank
import CppIdioms.Text.Digit

/-!
# Numerals

Reading a whole number from text: blanks around it, a sign, a radix mark, digits of any script and
single low lines between digits.

## Contents

* `plainDigit`: a decimal digit of any script as its ASCII form.
* `numeralDigit?`: the value of a digit in radix sixteen or less.
* `digitRun?`: a run of digits with single low lines between them.
* `ofDigits`, `decimalNat`: the number a run of digits denotes.
* `digitLimit`, `decimal?`: decimal numbers are read up to a number of digits.
* `Radix`: the radix a reader was asked for; `Radix.resolve` finds the one a text is written in.
* `readInt?`: the reader.
-/

namespace CppIdioms.Text

/-! ## §1 Digits -/

/-- A decimal digit of any script as its ASCII form; other characters as they are. -/
def plainDigit (c : Char) : Char :=
  match digitValue? c with
  | some d => Char.ofNat ('0'.toNat + d)
  | none => c

/-- The value of a digit: `0` to `9`, or a letter from `a` to `f` in either case. -/
def numeralDigit? (c : Char) : Option Nat :=
  if '0' ≤ c && c ≤ '9' then some (c.toNat - '0'.toNat)
  else if 'a' ≤ c && c ≤ 'f' then some (c.toNat - 'a'.toNat + 10)
  else if 'A' ≤ c && c ≤ 'F' then some (c.toNat - 'A'.toNat + 10)
  else none

/-- The digit's value when the radix has it. -/
def digitBelow? (radix : Nat) (c : Char) : Option Nat :=
  (numeralDigit? c).filter (· < radix)

/-- What may follow a digit: nothing, another digit, or a low line and a digit. -/
def digitTail? (radix : Nat) : List Char → Option (List Nat)
  | [] => some []
  | '_' :: c :: cs =>
    match digitBelow? radix c with
    | some d => (digitTail? radix cs).map (d :: ·)
    | none => none
  | c :: cs =>
    match digitBelow? radix c with
    | some d => (digitTail? radix cs).map (d :: ·)
    | none => none

/-- A non-empty run of digits with single low lines between them. -/
def digitRun? (radix : Nat) : List Char → Option (List Nat)
  | [] => none
  | c :: cs =>
    match digitBelow? radix c with
    | some d => (digitTail? radix cs).map (d :: ·)
    | none => none

/-- The number that a run of digits denotes, most significant digit first. -/
def ofDigits (radix : Nat) (digits : List Nat) : Nat :=
  digits.foldl (fun n d => n * radix + d) 0

/-- The number that decimal digits of any script denote. -/
def decimalNat (digits : List Char) : Nat := ofDigits 10 (digits.filterMap digitValue?)

/-- The number of decimal digits up to which numbers are read and written. Zeros in front count, signs
and low lines do not; numbers in a radix that is a power of two have no such limit. -/
def digitLimit : Nat := 4300

/-- The number that decimal digits denote, unless there are too many of them (`int` of a run of
digits). -/
def decimal? (digits : List Char) : Option Nat :=
  if digits.length ≤ digitLimit then some (decimalNat digits) else none

/-! ## §2 Radix -/

/-- The radix a reader is asked for: a fixed one, or the one that the text marks. -/
inductive Radix where
  | binary
  | octal
  | decimal
  | hexadecimal
  | marked
  deriving DecidableEq, Repr

/-- The radix that the letter after a leading zero marks. -/
def Radix.ofMark? (c : Char) : Option Radix :=
  if c == 'x' || c == 'X' then some .hexadecimal
  else if c == 'o' || c == 'O' then some .octal
  else if c == 'b' || c == 'B' then some .binary
  else none

/-- The number of digits of a radix. -/
def Radix.size : Radix → Nat
  | .binary => 2
  | .octal => 8
  | .decimal => 10
  | .hexadecimal => 16
  | .marked => 10

/-- Numerals of this radix are read up to a number of digits only. What no radix is marked in is
decimal. -/
def Radix.isLimited : Radix → Bool
  | .decimal | .marked => true
  | .binary | .octal | .hexadecimal => false

/-- A low line may stand between a radix mark and the first digit. -/
def dropLowLine : List Char → List Char
  | '_' :: cs => cs
  | cs => cs

/-- The radix a text without sign is written in, and its digits. A mark of the radix asked for is
passed over; a text that marks none is decimal, and then only zero may start with a zero. -/
def Radix.resolve (asked : Radix) (cs : List Char) : Radix × List Char :=
  match cs with
  | '0' :: mark :: rest =>
    match Radix.ofMark? mark with
    | some found =>
      if asked = .marked || asked = found then (found, dropLowLine rest) else (asked, cs)
    | none => (asked, cs)
  | _ => (asked, cs)

/-! ## §3 Reading -/

/-- The natural number a text without sign denotes. -/
def readNat? (asked : Radix) (cs : List Char) : Option Nat :=
  let (radix, body) := asked.resolve cs
  match digitRun? radix.size body with
  | none => none
  | some digits =>
    let n := ofDigits radix.size digits
    if radix.isLimited && digitLimit < digits.length then none
    else if radix = .marked && body.head? == some '0' && n != 0 then none
    else some n

/-- The blanks that may surround a numeral: not the separators U+001C to U+001F. -/
def isNumeralBlank (c : Char) : Bool := isBlank c && !(0x1c ≤ c.toNat && c.toNat ≤ 0x1f)

/-- A number with a sign in front of it. -/
def readSigned (read : List Char → Option Nat) : List Char → Option Int
  | '-' :: cs => (read cs).map fun n => -(n : Int)
  | '+' :: cs => (read cs).map Int.ofNat
  | cs => (read cs).map Int.ofNat

/-- The whole number that a text denotes, blanks around it aside (`int` of a text, with a radix). -/
def readInt? (asked : Radix) (cs : List Char) : Option Int :=
  readSigned (readNat? asked)
    (dropEndWhile isNumeralBlank (cs.dropWhile isNumeralBlank) |>.map plainDigit)

end CppIdioms.Text
