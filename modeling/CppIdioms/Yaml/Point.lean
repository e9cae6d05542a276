/-!
# Characters with their places

A document is laid out by lines and columns, so its text is read as a list of characters that know
their places. The list ends with a mark that no document contains.

## Contents

* `isPrintable`: the characters that a document may contain.
* `joinBreaks`: line ends in one form.
* `Point`, `points`: characters with their places.
* `isBreak`, `isGap`, `isLineEnd`, `isSpaceOrEnd`: classes of characters.
* `takeBreak`, `closeLine?`, `atSeparator`, `foldBreaks`: ends of lines.
-/

namespace CppIdioms.Yaml

/-! ## §1 Characters -/

/-- The characters that a document may contain. -/
def isPrintable (c : Char) : Bool :=
  let n := c.toNat
  n = 0x09 || n = 0x0a || n = 0x0d || (0x20 ≤ n && n ≤ 0x7e) || n = 0x85
    || (0xa0 ≤ n && n ≤ 0xfffd) || 0x10000 ≤ n

/-- The mark after the last character of a document. -/
def stop : Char := '\x00'

/-- The mark that may stand in front of a document and takes no room. -/
def orderMark : Char := '\ufeff'

/-- The end of a line, once line ends have one form. -/
def isBreak (c : Char) : Bool := c == '\n' || c == '\u2028' || c == '\u2029'

/-- The end of a line or of the document. -/
def isLineEnd (c : Char) : Bool := c == stop || isBreak c

/-- A space, or the end of a line or of the document. -/
def isSpaceOrEnd (c : Char) : Bool := c == ' ' || isLineEnd c

/-- What divides words: a space, a tab, or the end of a line or of the document. -/
def isGap (c : Char) : Bool := c == '\t' || isSpaceOrEnd c

/-- The characters of names: letters and digits of ASCII, dashes and low lines. -/
def isNameChar (c : Char) : Bool := c.isAlphanum || c == '-' || c == '_'

/-- Line ends in one form: a return, with or without a feed after it, and the old mark for a next
line are line feeds. The separators of lines and of paragraphs stay what they are. -/
def joinBreaks : List Char → List Char
  | [] => []
  | '\r' :: '\n' :: cs => '\n' :: joinBreaks cs
  | c :: cs => (if c == '\r' || c == '\x85' then '\n' else c) :: joinBreaks cs

/-! ## §2 Places -/

/-- A character with its place. -/
structure Point where
  char : Char
  line : Nat
  column : Nat
  index : Nat
  deriving Repr, Inhabited

/-- Characters from a place on, with their places, and the mark after them. -/
def pointsFrom (line column index : Nat) : List Char → List Point
  | [] => [⟨stop, line, column, index⟩]
  | c :: cs =>
    ⟨c, line, column, index⟩ ::
      if isBreak c then pointsFrom (line + 1) 0 (index + 1) cs
      else if c == orderMark then pointsFrom line column (index + 1) cs
      else pointsFrom line (column + 1) (index + 1) cs

/-- The characters of a text with their places. -/
def points (text : String) : List Point := pointsFrom 0 0 0 (joinBreaks text.toList)

/-- The next character. -/
def here (s : List Point) : Char := (s.head?.map (·.char)).getD stop

/-- The character after the next one. -/
def next (s : List Point) : Char := here s.tail

/-- The column of the next character. -/
def column (s : List Point) : Nat := (s.head?.map (·.column)).getD 0

/-- The characters of some points. -/
def chars (s : List Point) : List Char := s.map (·.char)

/-! ## §3 Ends of lines -/

/-- The end of a line, if it comes next. -/
def takeBreak (s : List Point) : List Char × List Point :=
  match s with
  | p :: rest => if isBreak p.char then ([p.char], rest) else ([], s)
  | [] => ([], [])

/-- What comes after the next spaces. -/
def skipSpaces (s : List Point) : List Point := s.dropWhile (·.char == ' ')

/-- What comes after the rest of a line, which holds at most spaces and a comment. -/
def closeLine? (s : List Point) : Option (List Point) :=
  let s := skipSpaces s
  let s := if here s == '#' then s.dropWhile (fun p => !isLineEnd p.char) else s
  if isLineEnd (here s) then some (takeBreak s).2 else none

/-- The marks that divide documents, followed by a gap. -/
def atSeparator (s : List Point) : Bool :=
  let mark := chars (s.take 3)
  (mark == ['-', '-', '-'] || mark == ['.', '.', '.']) && isGap (here (s.drop 3))

/-- What the end of a line and the empty lines after it stand for inside a text: a lone line feed is
a space, and in front of empty lines it is nothing. -/
def foldBreaks (first : Char) (more : List Char) : List Char :=
  if first ≠ '\n' then first :: more
  else if more.isEmpty then [' ']
  else more

end CppIdioms.Yaml
