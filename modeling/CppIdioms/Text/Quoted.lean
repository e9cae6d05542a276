import CppIdioms.Text.Printable

/-!
# Quoted text

A text in quotes, with everything that is not printable written as an escape. Single quotes are
used unless the text holds one and no double quote.

## Contents

* `hexDigits`: a number in hexadecimal, padded to a width.
* `escapeChar`: one character as it stands between quotes.
* `quoteMark`, `quoted`: the choice of quote and the whole text.
-/

namespace CppIdioms.Text

/-- The number in lower-case hexadecimal, with leading zeros up to `width` digits. -/
def hexDigits (width n : Nat) : List Char :=
  let digits := Nat.toDigits 16 n
  List.replicate (width - digits.length) '0' ++ digits

/-- One character between quotes `mark`: the quote and the backslash are marked, tab, line feed and
carriage return have short names, other unprintable characters give their number. -/
def escapeChar (mark c : Char) : List Char :=
  if c == mark || c == '\\' then ['\\', c]
  else if c == '\t' then ['\\', 't']
  else if c == '\n' then ['\\', 'n']
  else if c == '\r' then ['\\', 'r']
  else if isPrintable c then [c]
  else if c.toNat < 0x100 then '\\' :: 'x' :: hexDigits 2 c.toNat
  else if c.toNat < 0x10000 then '\\' :: 'u' :: hexDigits 4 c.toNat
  else '\\' :: 'U' :: hexDigits 8 c.toNat

/-- The quote that surrounds a text: single, unless only single quotes occur in it. -/
def quoteMark (cs : List Char) : Char :=
  if cs.contains '\x27' && !cs.contains '"' then '"' else '\x27'

/-- The text between quotes, printable throughout. -/
def quoted (s : String) : String :=
  let cs := s.toList
  let mark := quoteMark cs
  String.ofList (mark :: cs.flatMap (escapeChar mark) ++ [mark])

end CppIdioms.Text
