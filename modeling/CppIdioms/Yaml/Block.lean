import CppIdioms.Yaml.Point

/-!
# Block scalars

A block scalar is the lines that stand further to the right than the block it is in. It is taken
literally or folded, and its header says what becomes of the line ends after it.

## Contents

* `Chomping`, `blockHeader?`: the header of a block scalar.
* `leadingLines`, `blankLines`: the lines that hold no text.
* `blockScalar?`: the text of a block scalar and what comes after it.
-/

namespace CppIdioms.Yaml

/-- What becomes of the line ends after the last line of text: none is kept, one is, or all are. -/
inductive Chomping where
  | strip
  | clip
  | keep
  deriving DecidableEq, Repr

/-- The line ends that are kept. -/
def Chomping.tail (c : Chomping) (ending breaks : List Char) : List Char :=
  match c with
  | .strip => []
  | .clip => ending
  | .keep => ending ++ breaks

/-- The chomping that a sign in a header asks for. -/
def Chomping.ofSign? (c : Char) : Option Chomping :=
  if c == '+' then some .keep else if c == '-' then some .strip else none

/-- The signs of a header: a chomping sign and a digit for the indentation, in either order. -/
def blockSigns (s : List Point) : Chomping × Option Nat × List Point :=
  let digit? (c : Char) : Option Nat := if c.isDigit then some (c.toNat - '0'.toNat) else none
  match Chomping.ofSign? (here s) with
  | some chomping =>
    match digit? (next s) with
    | some n => (chomping, some n, s.drop 2)
    | none => (chomping, none, s.drop 1)
  | none =>
    match digit? (here s) with
    | none => (.clip, none, s)
    | some n =>
      match Chomping.ofSign? (next s) with
      | some chomping => (chomping, some n, s.drop 2)
      | none => (.clip, some n, s.drop 1)

/-- The header of a block scalar up to the end of its line. -/
def blockHeader? (s : List Point) : Option (Chomping × Option Nat × List Point) :=
  let (chomping, indent, rest) := blockSigns s
  if indent == some 0 || !isSpaceOrEnd (here rest) then none
  else (closeLine? rest).map fun rest => (chomping, indent, rest)

/-- The lines of spaces in front of the text: their ends, the width of the widest indentation, and
what comes after them. -/
def leadingLines (widest : Nat) : List Point → List Char × Nat × List Point
  | [] => ([], widest, [])
  | p :: rest =>
    if p.char == ' ' then leadingLines (max widest (p.column + 1)) rest
    else if isBreak p.char then
      let (breaks, widest, rest) := leadingLines widest rest
      (p.char :: breaks, widest, rest)
    else ([], widest, p :: rest)

/-- The ends of lines that hold nothing but an indentation, and the indentation after them. -/
def blankLines (indent : Nat) : List Point → List Char × List Point
  | [] => ([], [])
  | p :: rest =>
    if p.char == ' ' && p.column < indent then blankLines indent rest
    else if isBreak p.char then
      let (breaks, rest) := blankLines indent rest
      (p.char :: breaks, rest)
    else ([], p :: rest)

/-- A line of the text comes next. -/
def onBlockLine (indent : Nat) (s : List Point) : Bool := column s == indent && here s != stop

/-- The next line starts with a blank, so it is not folded. -/
def startsBlank (s : List Point) : Bool := here s == ' ' || here s == '\t'

/-- The text of a block scalar from a line on, with the line ends in front of the line. Each line
takes at least one character, so the length of the text is enough for `fuel`. -/
def blockLines (folded : Bool) (chomping : Chomping) (indent : Nat) :
    Nat → List Char → List Point → List Char × List Point
  | 0, breaks, s => (breaks, s)
  | fuel + 1, breaks, s =>
    let line := chars (s.takeWhile fun p => !isLineEnd p.char)
    let (ending, rest) := takeBreak (s.dropWhile fun p => !isLineEnd p.char)
    let (breaks', rest) := blankLines indent rest
    if onBlockLine indent rest then
      let joint :=
        if folded && ending == ['\n'] && !startsBlank s && !startsBlank rest then
          (if breaks'.isEmpty then [' '] else [])
        else ending
      let (more, rest) := blockLines folded chomping indent fuel breaks' rest
      (breaks ++ line ++ joint ++ more, rest)
    else (breaks ++ line ++ chomping.tail ending breaks', rest)

/-- The text of a block scalar after its mark, in a block of the given indentation, and what comes
after it. -/
def blockScalar? (folded : Bool) (outer : Int) (s : List Point) :
    Option (List Char × List Point) :=
  (blockHeader? s).map fun (chomping, increment, rest) =>
    let least := (max (outer + 1) 1).toNat
    let (indent, breaks, rest) :=
      match increment with
      | some n =>
        let indent := least + n - 1
        (indent, blankLines indent rest)
      | none =>
        let (breaks, widest, rest) := leadingLines 0 rest
        (max least widest, breaks, rest)
    if onBlockLine indent rest then
      blockLines folded chomping indent rest.length breaks rest
    else (chomping.tail [] breaks, rest)

end CppIdioms.Yaml
