import CppIdioms.Error

/-!
# Tokens of a document

## Contents

* `Directive`: the instructions in front of a document.
* `Token`: the tokens.
-/

namespace CppIdioms.Yaml

/-- An instruction in front of a document. -/
inductive Directive where
  /-- The version of the format; only its first number counts. -/
  | version (major : Nat)
  /-- A handle that stands for the start of a tag. -/
  | handle (name start : String)
  | unknown
  deriving DecidableEq, Repr

/-- A token of a document. Indentation has become tokens: a block starts where a line stands further
to the right, and ends where a line stands further to the left. -/
inductive Token where
  | directive (d : Directive)
  | documentStart
  | documentEnd
  | blockSequence
  | blockMapping
  | blockEnd
  | flowSequence
  | flowSequenceEnd
  | flowMapping
  | flowMappingEnd
  | dash
  | comma
  | key
  | value
  | alias (name : String)
  | anchor (name : String)
  /-- A tag as it is written: its handle, if it has one, and the rest. -/
  | tag (handle : Option String) (suffix : String)
  | scalar (text : String) (plain : Bool)
  | streamEnd
  /-- The place at which the text cannot be read on. -/
  | broken (cause : Error)
  deriving DecidableEq, Repr

end CppIdioms.Yaml
