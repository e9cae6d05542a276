/-!
# Places in a source text

A span is the stretch of a file that a node or a finding covers. Spans are ordered by file, then by
their start, then by their end.

## Contents

* `Span`: file, start and end.
* `Span.text`: file and start, as messages give them.
* `Span.precedes`: the order of spans.
-/

namespace CppIdioms

/-- A stretch of a source file (`SourceSpan`). -/
structure Span where
  file : String
  line : Int
  column : Int
  endLine : Int
  endColumn : Int
  deriving DecidableEq, Repr, Inhabited

/-- File, line and column of the start. -/
def Span.text (s : Span) : String := s.file ++ ":" ++ toString s.line ++ ":" ++ toString s.column

/-- The order of spans, by all their parts in turn. -/
def Span.compare (a b : Span) : Ordering :=
  (Ord.compare a.file b.file).then <| (Ord.compare a.line b.line).then <|
    (Ord.compare a.column b.column).then <| (Ord.compare a.endLine b.endLine).then <|
      Ord.compare a.endColumn b.endColumn

/-- The span does not come after the other. -/
def Span.precedes (a b : Span) : Bool := (a.compare b).isLE

end CppIdioms
