import CppIdioms.Literal.Token

/-!
# Number literals

Integer and floating literals, with digit separators wherever digits stand and any run of suffix
letters: hexadecimal with an optional fraction and binary exponent, binary, and decimal with an
optional fraction and exponent.

## Contents

* `exponent?`: the rest of a text after an optional exponent.
* `hexNumber?`, `binaryNumber?`, `decimalNumber?`: the rest of a text after a number of that form.
* `isNumber`: the whole text is a number with suffixes.
* `isString`, `isChar`: the whole text is a string or character literal.
-/

namespace CppIdioms.Literal

open CppIdioms.Text

/-! ## §1 Forms -/

/-- Hexadecimal digits and digit separators. -/
def isHexPart (c : Char) : Bool :=
  ('0' ≤ c && c ≤ '9') || ('a' ≤ c && c ≤ 'f') || ('A' ≤ c && c ≤ 'F') || c == charMark

/-- Binary digits and digit separators. -/
def isBinaryPart (c : Char) : Bool := c == '0' || c == '1' || c == charMark

/-- Decimal digits and digit separators. -/
def isDecimalPart (c : Char) : Bool := isDigit c || c == charMark

/-- Letters that may follow a number. -/
def isSuffixLetter (c : Char) : Bool := "uUlLfFzZ".toList.contains c

/-- What follows an optional exponent: its mark, a sign or none, and at least one digit. -/
def exponent? (isMark : Char → Bool) (cs : List Char) : Option (List Char) :=
  match cs with
  | c :: rest =>
    if isMark c then
      let digits :=
        match rest with
        | '+' :: more => more
        | '-' :: more => more
        | _ => rest
      if (digits.takeWhile isDigit).isEmpty then none else some (digits.dropWhile isDigit)
    else some cs
  | [] => some []

/-- What follows a hexadecimal number. -/
def hexNumber? : List Char → Option (List Char)
  | '0' :: x :: cs =>
    if (x == 'x' || x == 'X') && !(cs.takeWhile isHexPart).isEmpty then
      let rest :=
        match cs.dropWhile isHexPart with
        | '.' :: more => more.dropWhile isHexPart
        | other => other
      exponent? (fun c => c == 'p' || c == 'P') rest
    else none
  | _ => none

/-- What follows a binary number. -/
def binaryNumber? : List Char → Option (List Char)
  | '0' :: b :: cs =>
    if (b == 'b' || b == 'B') && !(cs.takeWhile isBinaryPart).isEmpty then
      some (cs.dropWhile isBinaryPart)
    else none
  | _ => none

/-- What follows a decimal number: digits before the point, or at least one after it. -/
def decimalNumber? : List Char → Option (List Char)
  | '.' :: d :: cs =>
    if isDigit d then exponent? (fun c => c == 'e' || c == 'E') (cs.dropWhile isDecimalPart)
    else none
  | d :: cs =>
    if isDigit d then
      let rest :=
        match cs.dropWhile isDecimalPart with
        | '.' :: more => more.dropWhile isDecimalPart
        | other => other
      exponent? (fun c => c == 'e' || c == 'E') rest
    else none
  | [] => none

/-! ## §2 Whole texts -/

/-- Only suffix letters are left. -/
def onlySuffix (rest : Option (List Char)) : Bool :=
  match rest with
  | some cs => atLineEnd (cs.dropWhile isSuffixLetter)
  | none => false

/-- The whole text is a number (`NUMBER_PATTERN`). -/
def isNumber (cs : List Char) : Bool :=
  onlySuffix (hexNumber? cs) || onlySuffix (binaryNumber? cs) || onlySuffix (decimalNumber? cs)

/-- The literal that starts a text is the whole text. -/
def isWhole (tail? : Char → List Char → Option Nat) : List Char → Bool
  | [] => false
  | c :: cs =>
    match tail? c cs with
    | some n => atLineEnd (cs.drop n)
    | none => false

/-- The whole text is a string literal (`STRING_PATTERN`). -/
def isString (cs : List Char) : Bool := isWhole stringTail? cs

/-- The whole text is a character literal (`CHAR_PATTERN`). -/
def isChar (cs : List Char) : Bool := isWhole charTail? cs

end CppIdioms.Literal
