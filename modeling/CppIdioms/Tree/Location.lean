import CppIdioms.Error
import CppIdioms.Text.Numeral
import CppIdioms.Value.Compare
import CppIdioms.Value.Text

/-!
# Locations of nodes

A node mapping gives its place as a mapping of numbers (`span`) or as text (`loc`): a file and a
colon, then `line:column`, then optionally `-line:column` for the end. File and end may be left
out; the file may itself hold colons and digits, and ends before the first colon after which the
rest reads as positions. A text is cut first, and the numbers are read from its parts.

## Contents

* `Position`, `takePosition?`: the digits of a line and a column.
* `readPositions?`: start and end, up to the end of the text.
* `LocationText`, `readLocation?`: a location with its file.
* `readNumber`, `LocationText.span`: the numbers of a location.
* `Span.ofLocation`, `Span.ofFields`, `Span.ofNode`: the span of a node.
-/

namespace CppIdioms

open CppIdioms.Text

/-! ## §1 Positions -/

/-- A line and a column, by their digits. -/
structure Position where
  line : List Char
  column : List Char
  deriving DecidableEq, Repr

/-- The digits that a text starts with, at least one, and the rest of the text. -/
def takeDigits? (cs : List Char) : Option (List Char × List Char) :=
  if (cs.takeWhile isDigit).isEmpty then none else some (cs.takeWhile isDigit, cs.dropWhile isDigit)

/-- The position `line:column` that a text starts with, and the rest of the text. -/
def takePosition? (cs : List Char) : Option (Position × List Char) :=
  match takeDigits? cs with
  | some (line, ':' :: rest) => (takeDigits? rest).map fun (column, tail) => (⟨line, column⟩, tail)
  | _ => none

/-- A start position and, after a dash, an end position, up to the end of the text. -/
def readPositions? (cs : List Char) : Option (Position × Option Position) :=
  match takePosition? cs with
  | none => none
  | some (start, '-' :: rest) =>
    match takePosition? rest with
    | some (finish, tail) => if atLineEnd tail then some (start, some finish) else none
    | none => none
  | some (start, tail) => if atLineEnd tail then some (start, none) else none

/-! ## §2 Locations -/

/-- A location: the file, empty if none is named, and the positions. -/
structure LocationText where
  file : List Char
  start : Position
  finish : Option Position
  deriving DecidableEq, Repr

/-- A location with a file: the file ends before the first colon after which positions follow, and
holds no line feed. `passed` is the part of the file already passed, last character first. -/
def readAfterFile? (passed : List Char) : List Char → Option LocationText
  | [] => none
  | c :: cs =>
    if c == '\n' then none
    else if c == ':' then
      match readPositions? cs with
      | some (start, finish) => some ⟨passed.reverse, start, finish⟩
      | none => readAfterFile? (c :: passed) cs
    else readAfterFile? (c :: passed) cs

/-- A location, with or without a file (`LOC_PATTERN`). -/
def readLocation? (cs : List Char) : Option LocationText :=
  match readAfterFile? [] cs with
  | some location => some location
  | none => (readPositions? cs).map fun (start, finish) => ⟨[], start, finish⟩

/-! ## §3 Spans of nodes -/

/-- The number that digits denote; a number with too many digits is not read. -/
def readNumber (digits : List Char) : Except Fault Int :=
  match decimal? digits with
  | some n => .ok n
  | none => .error .badValue

/-- The numbers of a line and a column. -/
def Position.numbers (p : Position) : Except Fault (Int × Int) :=
  match readNumber p.line with
  | .error e => .error e
  | .ok line => (readNumber p.column).map fun column => (line, column)

/-- The span of a location; a location that names no file takes the inherited one, and one that has
no end ends where it starts. -/
def LocationText.span (l : LocationText) (inherited : String) : Except Fault Span :=
  let file := if l.file.isEmpty then inherited else String.ofList l.file
  match l.start.numbers with
  | .error e => .error e
  | .ok (line, column) =>
    ((l.finish.getD l.start).numbers).map fun (endLine, endColumn) =>
      ⟨file, line, column, endLine, endColumn⟩

/-- The span that a location text denotes. -/
def Span.ofLocation (text inherited : String) : Except Error Span :=
  match readLocation? text.toList with
  | some location => (location.span inherited).mapError .fault
  | none => .error (.dump (.badLocation text))

/-- The whole number under a key, or `default` if there is none. -/
def Entries.intOr (fields : Entries) (key : String) (default : Int) : Except Fault Int :=
  match fields.get? key with
  | some v => v.toInt
  | none => .ok default

/-- The span that a mapping of numbers denotes: parts left out are zero at the start, and equal to
the start at the end. -/
def Span.ofFields (fields : Entries) (inherited : String) : Except Fault Span :=
  match fields.intOr "line" 0 with
  | .error e => .error e
  | .ok line =>
    match fields.intOr "column" 0 with
    | .error e => .error e
    | .ok column =>
      match fields.intOr "end_line" line with
      | .error e => .error e
      | .ok endLine =>
        match fields.intOr "end_column" column with
        | .error e => .error e
        | .ok endColumn =>
          let file := fields.find "file"
          .ok ⟨if file.isTrue then file.text else inherited, line, column, endLine, endColumn⟩

/-- The span of a node mapping (`parse_span`): from its `span` if that is a mapping, else from its
`loc` if that is a text, else the start of the inherited file. -/
def Span.ofNode (node : Entries) (inherited : String) : Except Error Span :=
  match node.find "span" with
  | .map fields => (Span.ofFields fields inherited).mapError .fault
  | _ =>
    match node.find "loc" with
    | .str text => Span.ofLocation text inherited
    | _ => .ok ⟨inherited, 0, 0, 0, 0⟩

end CppIdioms
