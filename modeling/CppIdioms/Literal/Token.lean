import CppIdioms.Text.Blank
import CppIdioms.Text.Digit
import CppIdioms.Text.Word

/-!
# Preprocessing tokens

A replacement text is cut into string and character literals, numbers, identifiers and single other
characters; blanks between tokens are dropped. A quote that is never closed is a token of its own.

## Contents

* `quotedTail?`, `literalTail?`: how far a literal between quotes reaches.
* `numberTail?`, `wordTail?`: how far a number or an identifier reaches.
* `tokenTail`: how far the token that starts with a character reaches.
* `tokens`: the tokens of a text.
-/

namespace CppIdioms.Literal

open CppIdioms.Text

/-! ## §1 Literals between quotes -/

/-- The number of characters up to the closing quote, that quote included. A backslash protects the
character after it, which must not be a line feed. -/
def quotedTail? (mark : Char) : List Char → Option Nat
  | [] => none
  | '\\' :: c :: cs => if c == '\n' then none else (quotedTail? mark cs).map (· + 2)
  | c :: cs =>
    if c == mark then some 1
    else if c == '\\' then none
    else (quotedTail? mark cs).map (· + 1)

/-- The number of characters after the first one of a literal between quotes `mark`, which may have
an encoding letter or `u8` in front. -/
def literalTail? (mark c : Char) (cs : List Char) : Option Nat :=
  if c == mark then quotedTail? mark cs
  else if c == 'u' || c == 'U' || c == 'L' then
    match cs with
    | d :: rest =>
      if d == mark then (quotedTail? mark rest).map (· + 1)
      else
        match c, d, rest with
        | 'u', '8', e :: rest => if e == mark then (quotedTail? mark rest).map (· + 2) else none
        | _, _, _ => none
    | [] => none
  else none

/-- The quote of string literals. -/
def stringMark : Char := '"'

/-- The quote of character literals. -/
def charMark : Char := '\x27'

/-- The number of characters after the first one of a string literal. -/
def stringTail? (c : Char) (cs : List Char) : Option Nat := literalTail? stringMark c cs

/-- The characters of a literal before its first quote. -/
def encodingLength (c : Char) (cs : List Char) : Nat :=
  if c == charMark then 0 else if cs.head? == some charMark then 1 else 2

/-- The number of characters after the first one of a character literal, which is not empty. -/
def charTail? (c : Char) (cs : List Char) : Option Nat :=
  (literalTail? charMark c cs).filter fun n => encodingLength c cs + 1 < n

/-! ## §2 Numbers and identifiers -/

/-- The letters after which a number goes on with a sign. -/
def isExponentMark (c : Char) : Bool := c == 'e' || c == 'E' || c == 'p' || c == 'P'

/-- The number of characters by which a number goes on. -/
def numberRest : List Char → Nat
  | [] => 0
  | [c] => if isWord c || c == '.' || c == charMark then 1 else 0
  | c :: d :: cs =>
    if isExponentMark c && (d == '+' || d == '-') then numberRest cs + 2
    else if isWord c || c == '.' || c == charMark then numberRest (d :: cs) + 1
    else 0

/-- The number of characters after the first one of a number. -/
def numberTail? (c : Char) (cs : List Char) : Option Nat :=
  if isDigit c then some (numberRest cs)
  else
    match c, cs with
    | '.', d :: rest => if isDigit d then some (numberRest rest + 1) else none
    | _, _ => none

/-- The number of characters after the first one of an identifier. -/
def wordTail? (c : Char) (cs : List Char) : Option Nat :=
  if c.isAlpha || c == '_' then some (cs.takeWhile isWord).length else none

/-! ## §3 Tokens -/

/-- The number of characters after the first one of the token that starts with `c`: the first form
that fits decides, and any other character is a token by itself (`TOKEN_PATTERN`). -/
def tokenTail (c : Char) (cs : List Char) : Nat :=
  (stringTail? c cs <|> charTail? c cs <|> numberTail? c cs <|> wordTail? c cs).getD 0

/-- The tokens of a text (`tokenize`). -/
def tokens : List Char → List (List Char)
  | [] => []
  | c :: cs =>
    if isBlank c then tokens cs
    else (c :: cs.take (tokenTail c cs)) :: tokens (cs.drop (tokenTail c cs))
termination_by cs => cs.length
decreasing_by
  · simp
  · simp only [List.length_drop, List.length_cons]
    omega

end CppIdioms.Literal
