import CppIdioms.Yaml.Point

/-!
# Plain scalars

A plain scalar has no marks around it. It ends where a mark of the layout begins, and it may go on
on lines that stand far enough to the right.

## Contents

* `startsPlain`, `endsPlain`: where plain scalars begin and end.
* `plainGap`: what stands between two words of a plain scalar.
* `plainScalar`: the text, whether the last line was left, and what comes after it.
-/

namespace CppIdioms.Yaml

/-- The marks that divide the parts of flow collections. -/
def isFlowMark (c : Char) : Bool :=
  c == ',' || c == '[' || c == ']' || c == '\x7b' || c == '\x7d'

/-- The characters that start other tokens. -/
def isIndicator (c : Char) : Bool :=
  isFlowMark c || "-?:#&*!|>%@\x27\"\x60".toList.contains c

/-- A plain scalar may start with a character before another one. -/
def startsPlain (flow : Bool) (c d : Char) : Bool :=
  !(isGap c || isIndicator c)
    || (!isGap d && (c == '-' || (!flow && (c == '?' || c == ':'))))

/-- A plain scalar ends in front of a character before another one. -/
def endsPlain (flow : Bool) (c d : Char) : Bool :=
  isGap c || (c == ':' && (isGap d || (flow && isFlowMark d)))
    || (flow && (isFlowMark c || c == '?'))

/-- The characters up to the end of a word. -/
def plainRun (flow : Bool) : List Point → List Char × List Point
  | [] => ([], [])
  | p :: rest =>
    if endsPlain flow p.char (here rest) then ([], p :: rest)
    else
      let (cs, rest) := plainRun flow rest
      (p.char :: cs, rest)

/-- The ends of empty lines and the spaces in front of the next word; nothing if a mark between
documents stands there. -/
def emptyLines : List Point → Option (List Char) × List Point
  | [] => (some [], [])
  | p :: rest =>
    if p.char == ' ' then emptyLines rest
    else if isBreak p.char then
      if atSeparator rest then (none, rest)
      else
        let (breaks, rest) := emptyLines rest
        (breaks.map (p.char :: ·), rest)
    else (some [], p :: rest)

/-- What stands between two words. -/
structure PlainGap where
  /-- What it stands for in the text; empty where the scalar ends. -/
  text : List Char
  leftLine : Bool
  rest : List Point

/-- What stands after a word. -/
def plainGap (s : List Point) : PlainGap :=
  let spaces := chars (s.takeWhile (·.char == ' '))
  let rest := skipSpaces s
  match rest with
  | p :: after =>
    if !isBreak p.char then ⟨spaces, false, rest⟩
    else if atSeparator after then ⟨[], true, after⟩
    else
      match emptyLines after with
      | (some more, rest) => ⟨foldBreaks p.char more, true, rest⟩
      | (none, rest) => ⟨[], true, rest⟩
  | [] => ⟨spaces, false, rest⟩

/-- The words of a plain scalar from a place on, with the gap in front of it. Each word takes at least
one character, so the length of the text is enough for `fuel`. -/
def plainWords (flow : Bool) (indent : Int) :
    Nat → List Char → Bool → List Point → List Char × Bool × List Point
  | 0, _, left, s => ([], left, s)
  | fuel + 1, gap, left, s =>
    let (run, rest) := plainRun flow s
    if here s == '#' || run.isEmpty then ([], left, s)
    else
      let after := plainGap rest
      if after.text.isEmpty || here after.rest == '#'
          || (!flow && (column after.rest : Int) < indent) then
        (gap ++ run, after.leftLine, after.rest)
      else
        let (more, left, rest) := plainWords flow indent fuel after.text after.leftLine after.rest
        (gap ++ run ++ more, left, rest)

/-- The text of a plain scalar in a block of the given indentation, whether its last line was left,
and what comes after it. -/
def plainScalar (flow : Bool) (outer : Int) (s : List Point) : List Char × Bool × List Point :=
  plainWords flow (outer + 1) s.length [] false s

end CppIdioms.Yaml
