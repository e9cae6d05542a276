import CppIdioms.Rule.Basic
import CppIdioms.Text.Digit

/-!
# Raw arrays

Arrays declared with brackets inside functions and records are reported, with the standard array
that would replace them where element and extent are known.

## Contents

* `rawArrayRule`, `rawArray`: the rule and its detector.
* `finalExtent?`: the extent in the last brackets of a spelling.
* `arrayReplacement`: the standard array to use instead.
-/

namespace CppIdioms.Rules

open CppIdioms.Text

/-- Prefer the standard array over raw arrays. -/
def rawArrayRule : Rule where
  id := "R05"
  title := "Prefer std::array over raw arrays"
  rationale := "Raw arrays decay to pointers, lose their size when passed around, cannot be "
    ++ "copied or compared with the usual operators and offer no bounds-checked access. "
    ++ "std::array has the same layout and cost while behaving like a regular value."
  severity := .warning
  kinds := [.rawArrayDecl, .variableDecl, .fieldDecl]

/-- The digits in the brackets at the end of a spelling (`EXTENT_PATTERN`). -/
def finalExtent? (spelling : String) : Option String :=
  match spelling.toList.reverse.dropWhile isBlank with
  | ']' :: rest =>
    let digits := rest.takeWhile isDigit
    if !digits.isEmpty && (rest.dropWhile isDigit).head? == some '[' then
      some (String.ofList digits.reverse)
    else none
  | _ => none

/-- The extent that the declaration states, or that the spelling of its type ends with. -/
def declaredExtent? (n : Node) (t : Option CppType) : Option String :=
  match n.attr "extent" with
  | .null => t.bind fun t => finalExtent? t.base
  | v => some v.text

/-- The standard array to use instead (`_replacement`). -/
def arrayReplacement (n : Node) (t : Option CppType) : String :=
  match (t.bind (·.element)).map (·.spelling), declaredExtent? n t with
  | some element, some extent =>
    if element.isEmpty then "std::array" else "std::array<" ++ element ++ ", " ++ extent ++ ">"
  | _, _ => "std::array"

/-- Report a raw array of a function or record (`RawArrayDetector`). -/
def rawArray : Detector where
  rule := rawArrayRule
  inspect c := do
    let n := c.node
    if n.has "adjusted_parameter" then return []
    if c.scope ≠ .inFunction && c.scope ≠ .inRecord then return []
    let t ← n.typeAt "type"
    if n.kind ≠ .rawArrayDecl && (t.map (·.category)) ≠ some .array then return []
    let ofPointers := ((t.bind (·.element)).map (·.category)) == some .pointer
    let form := if ofPointers then "an array of pointers" else "a raw array"
    let spelling := ((t.map (·.spelling)).filter (· != "")).map fun s => " (" ++ s ++ ")"
    return [rawArrayRule.finding n
      ("'" ++ n.nameOr "<anonymous>" ++ "' is " ++ form ++ spelling.getD "" ++ "; use "
        ++ arrayReplacement n t)]

end CppIdioms.Rules
