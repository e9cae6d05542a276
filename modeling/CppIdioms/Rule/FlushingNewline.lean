import CppIdioms.Rule.Basic

/-!
# Flushing newlines

Inserting `std::endl` into a stream flushes it; the finding stands at the operand and names the
stream that a chain of insertions starts from.

## Contents

* `flushingNewlineRule`, `flushingNewline`: the rule and its detector.
* `isEndl`: the operand is the flushing newline.
* `innermostStream?`: the stream a chain starts from.
-/

namespace CppIdioms.Rules

/-- Prefer a newline character over the flushing newline. -/
def flushingNewlineRule : Rule where
  id := "R02"
  title := "Prefer '\\n' over std::endl"
  rationale := "std::endl writes a newline and then flushes the stream. Flushing on every line "
    ++ "defeats output buffering and is a common hidden cost in loops. Insert '\\n' and "
    ++ "flush explicitly (std::flush) where it is actually needed."
  severity := .info
  kinds := [.streamInsertExpr]

/-- The operand refers to the flushing newline of the standard library: by its qualified name if
that is given, else by name and namespace (`_is_endl`). -/
def isEndl (n : Node) : Bool :=
  n.kind == .declRefExpr && !n.denies "resolved" &&
    if n.has "qualified_name" then
      ["std::endl", "::std::endl"].contains (n.attr "qualified_name").text
    else n.name? == some "endl" && (n.attr "namespace").isText "std"

/-- The stream that a chain of insertions starts from, if every insertion names its stream. -/
def innermostStream? (n : Node) : Option Node :=
  if n.kind = .streamInsertExpr then
    match _h : n.peeled? "stream" with
    | some s => innermostStream? s
    | none => none
  else some n
termination_by n.size
decreasing_by exact Node.size_peeled?_lt _h

/-- How the message names the stream (`_stream_label`). -/
def streamLabel (stream : Option Node) : String :=
  match stream.bind innermostStream? with
  | some s =>
    if s.properName?.isSome then "'" ++ s.called "qualified_name" "" ++ "'" else "the stream"
  | none => "the stream"

/-- Report an inserted flushing newline (`FlushingNewlineDetector`). -/
def flushingNewline : Detector where
  rule := flushingNewlineRule
  inspect c :=
    match c.node.peeled? "operand" with
    | some operand =>
      if isEndl operand then
        .ok [flushingNewlineRule.finding operand
          ("std::endl flushes " ++ streamLabel (c.node.peeled? "stream")
            ++ " after the newline; insert '\\n' instead")]
      else .ok []
    | none => .ok []

end CppIdioms.Rules
