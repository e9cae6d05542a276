import CppIdioms.Literal.Token
import CppIdioms.Text.Numeral
import CppIdioms.Tree.Node

/-!
# Values of literals

The value of an integer, character or truth literal, so that constants written in different ways
can be compared. What cannot be read keeps its text.

## Contents

* `Constant`: a value or an unreadable text.
* `escapeValue?`: the value of an escape sequence.
* `characterValue`, `integerValue`: the value of a literal by its text.
* `literalValue`: the value of a literal node.
-/

namespace CppIdioms.Literal

open CppIdioms.Text

/-- The value of a literal, or its text if it cannot be read. -/
inductive Constant where
  | number (n : Int)
  | text (s : String)
  deriving DecidableEq, Repr

/-! ## §1 Characters -/

/-- The escapes of one letter and their values (`ESCAPES`). -/
def simpleEscapes : List (Char × Nat) := [
  ('n', 10), ('t', 9), ('r', 13), ('0', 0), ('a', 7), ('b', 8), ('f', 12), ('v', 11), ('\\', 92),
  (charMark, 39), (stringMark, 34), ('?', 63)]

/-- The value of an escape sequence after its backslash: one letter, hexadecimal after an `x`, or
octal. -/
def escapeValue? (cs : List Char) : Option Int :=
  let simple :=
    match cs with
    | [c] => simpleEscapes.lookup c
    | _ => none
  match simple, cs with
  | some n, _ => some n
  | none, 'x' :: digits => readInt? .hexadecimal digits
  | none, _ => readInt? .octal cs

/-- What stands between single quotes, encoding letters in front of them aside. -/
def characterBody? (cs : List Char) : Option (List Char) :=
  match cs.dropWhile fun c => "u8UL".toList.contains c with
  | c :: rest =>
    if c == charMark && rest.getLast? == some charMark && 2 ≤ rest.length then some rest.dropLast
    else none
  | [] => none

/-- The value of a character literal (`_character_value`). -/
def characterValue (cs : List Char) : Constant :=
  let value :=
    match characterBody? cs with
    | some [c] => some (c.toNat : Int)
    | some ('\\' :: escape) => escapeValue? escape
    | _ => none
  match value with
  | some n => .number n
  | none => .text (String.ofList cs)

/-! ## §2 Integers -/

/-- Letters that may follow an integer (`INTEGER_SUFFIXES`). -/
def isIntegerSuffix (c : Char) : Bool := "uUlLzZ".toList.contains c

/-- The value of an integer literal: suffixes and digit separators aside, a leading zero makes it
octal and other radices are marked. -/
def integerValue (cs : List Char) : Constant :=
  let digits := (dropEndWhile isIntegerSuffix cs).filter (· != charMark)
  let asked : Radix :=
    if 1 < digits.length && digits.head? == some '0' && digits.all isDigitLike then .octal
    else .marked
  match readInt? asked digits with
  | some n => .number n
  | none => .text (String.ofList cs)

/-! ## §3 Literals -/

/-- The value of a literal by its trimmed text. -/
def textValue (isCharacter : Bool) (cs : List Char) : Constant :=
  if cs == "true".toList then .number 1
  else if cs == "false".toList then .number 0
  else if isCharacter || cs.getLast? == some charMark then characterValue cs
  else integerValue cs

/-- The value of a literal node (`literal_value`). -/
def literalValue (n : Node) : Constant :=
  match n.attr "value" with
  | .bool b => .number (if b then 1 else 0)
  | .int i => .number i
  | v => textValue ((n.attr "literal_kind").isText "character") (trim v.text.toList)

end CppIdioms.Literal
