import CppIdioms.Error
import CppIdioms.Text.Numeral
import CppIdioms.Yaml.Point

/-!
# Quoted scalars

A text in single quotes writes a quote twice and has no escapes; a text in double quotes has
escapes. In both, the end of a line and the blanks around it are folded.

## Contents

* `Quoting`: the two kinds of quotes.
* `escapes`: the characters that escapes of one letter stand for.
* `quotedScalar`: the text up to the closing quote, and what comes after it.
-/

namespace CppIdioms.Yaml

open CppIdioms.Text

/-- The two kinds of quotes. -/
inductive Quoting where
  | single
  | double
  deriving DecidableEq, Repr

/-- The character that encloses a text. -/
def Quoting.mark : Quoting → Char
  | .single => '\x27'
  | .double => '"'

/-- The characters that escapes of one letter stand for. -/
def escapes : List (Char × Char) :=
  [('0', '\x00'), ('a', '\x07'), ('b', '\x08'), ('t', '\t'), ('\t', '\t'), ('n', '\n'),
   ('v', '\x0b'), ('f', '\x0c'), ('r', '\r'), ('e', '\x1b'), (' ', ' '), ('"', '"'),
   ('\\', '\\'), ('/', '/'), ('N', '\x85'), ('_', '\xa0'), ('L', '\u2028'), ('P', '\u2029')]

/-- The number of digits after the letter of an escape by number. -/
def escapeDigits : List (Char × Nat) := [('x', 2), ('u', 4), ('U', 8)]

/-- The first half of a pair of numbers that together stand for one character. -/
def isHighHalf (n : Nat) : Bool := 0xd800 ≤ n && n ≤ 0xdbff

/-- The second half of such a pair. -/
def isLowHalf (n : Nat) : Bool := 0xdc00 ≤ n && n ≤ 0xdfff

/-- What is being read inside a quoted text. -/
inductive QuotedState where
  | text
  /-- A quote was read that ends the text unless another one follows. -/
  | quote
  /-- Blanks were read, latest first. They count unless the line ends. -/
  | blanks (read : List Char)
  /-- The end of a line was read, and empty lines after it, latest first. An escaped end of a line
  stands for nothing itself. -/
  | breaks (first : Option Char) (more : List Char) (atStart : Bool)
  | escape
  /-- Digits of an escape by number are to be read. -/
  | number (digits : Nat) (value : Nat)
  deriving Repr

/-- The text, latest first, and the first half of a pair that waits for its second half. -/
structure QuotedText where
  read : List Char := []
  half : Option Nat := none

namespace QuotedText

/-- The text after some characters. -/
def append (t : QuotedText) (cs : List Char) : QuotedText :=
  if cs.isEmpty then t
  else
    let waiting := if t.half.isSome then ['\ufffd'] else []
    ⟨cs.reverse ++ waiting ++ t.read, none⟩

/-- The text after a character given by its number, which may be half of a pair. -/
def appendNumber (t : QuotedText) (n : Nat) : Except Error QuotedText :=
  match t.half with
  | some high =>
    if isLowHalf n then
      .ok ⟨Char.ofNat (0x10000 + (high - 0xd800) * 0x400 + (n - 0xdc00)) :: t.read, none⟩
    else if isHighHalf n then .ok ⟨'\ufffd' :: t.read, some n⟩
    else if 0x110000 ≤ n then .error (.fault .badValue)
    else .ok (t.append [Char.ofNat n])
  | none =>
    if isHighHalf n then .ok { t with half := some n }
    else if isLowHalf n then .ok (t.append ['\ufffd'])
    else if 0x110000 ≤ n then .error (.fault .badValue)
    else .ok (t.append [Char.ofNat n])

/-- The whole text. -/
def toText (t : QuotedText) : List Char :=
  (if t.half.isSome then '\ufffd' :: t.read else t.read).reverse

end QuotedText

/-- What a character does to a quoted text. -/
inductive QuotedStep where
  | go (state : QuotedState) (text : QuotedText)
  | close
  | fail (cause : Error)

/-- A character inside the text, where no blanks or escapes are pending. -/
def textStep (q : Quoting) (t : QuotedText) (c : Char) : QuotedStep :=
  if c == q.mark then (if q = .single then .go .quote t else .close)
  else if q = .double && c == '\\' then .go .escape t
  else if c == ' ' || c == '\t' then .go (.blanks [c]) t
  else if isBreak c then .go (.breaks (some c) [] true) t
  else if c == stop then .fail .malformedDocument
  else .go .text (t.append [c])

/-- A character after the backslash. -/
def escapeStep (t : QuotedText) (c : Char) : QuotedStep :=
  match escapes.lookup c, escapeDigits.lookup c with
  | some d, _ => .go .text (t.append [d])
  | none, some n => .go (.number n 0) t
  | none, none =>
    if isBreak c then .go (.breaks none [] true) t else .fail .malformedDocument

/-- A digit of an escape by number. -/
def numberStep (t : QuotedText) (digits value : Nat) (c : Char) : QuotedStep :=
  match numeralDigit? c with
  | none => .fail .malformedDocument
  | some d =>
    let value := value * 16 + d
    if 1 < digits then .go (.number (digits - 1) value) t
    else
      match t.appendNumber value with
      | .ok t => .go .text t
      | .error e => .fail e

/-- What ended lines stand for. -/
def brokenText (first : Option Char) (more : List Char) : List Char :=
  match first with
  | some c => foldBreaks c more.reverse
  | none => more.reverse

/-- The text up to the closing quote, and what comes after it. -/
def quotedFrom (q : Quoting) :
    QuotedState → QuotedText → List Point → Except Error (List Char × List Point)
  | _, _, [] => .error .malformedDocument
  | state, t, p :: rest =>
    let resume (step : QuotedStep) : Except Error (List Char × List Point) :=
      match step with
      | .go state t => quotedFrom q state t rest
      | .close => .ok (t.toText, rest)
      | .fail e => .error e
    match state with
    | .text => resume (textStep q t p.char)
    | .quote =>
      if p.char == q.mark then quotedFrom q .text (t.append [q.mark]) rest
      else .ok (t.toText, p :: rest)
    | .blanks read =>
      if p.char == ' ' || p.char == '\t' then quotedFrom q (.blanks (p.char :: read)) t rest
      else if isBreak p.char then quotedFrom q (.breaks (some p.char) [] true) t rest
      else
        let t := t.append read.reverse
        match textStep q t p.char with
        | .go state t => quotedFrom q state t rest
        | .close => .ok (t.toText, rest)
        | .fail e => .error e
    | .breaks first more atStart =>
      if atStart && atSeparator (p :: rest) then .error .malformedDocument
      else if p.char == ' ' || p.char == '\t' then quotedFrom q (.breaks first more false) t rest
      else if isBreak p.char then quotedFrom q (.breaks first (p.char :: more) true) t rest
      else
        let t := t.append (brokenText first more)
        match textStep q t p.char with
        | .go state t => quotedFrom q state t rest
        | .close => .ok (t.toText, rest)
        | .fail e => .error e
    | .escape => resume (escapeStep t p.char)
    | .number digits value => resume (numberStep t digits value p.char)

/-- The text after an opening quote, up to the closing one, and what comes after that. -/
def quotedScalar (q : Quoting) (s : List Point) : Except Error (List Char × List Point) :=
  quotedFrom q .text {} s

end CppIdioms.Yaml
