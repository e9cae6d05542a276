import CppIdioms.Literal.Single
import CppIdioms.Rule.Basic

/-!
# Macros that name a constant

An object-like macro whose replacement is a single literal could be a typed constant.

## Contents

* `macroConstantRule`, `macroConstant`: the rule and its detector.
* `replacementTokens`: the tokens of the replacement.
-/

namespace CppIdioms.Rules

/-- Prefer typed constants over macros. -/
def macroConstantRule : Rule where
  id := "R06"
  title := "Prefer constexpr constants over #define"
  rationale := "A macro constant has no type and no scope: it is substituted textually "
    ++ "everywhere after its definition, is invisible to the debugger and can collide "
    ++ "with any identifier. A constexpr variable is typed, scoped and still a "
    ++ "compile-time value."
  severity := .warning
  kinds := [.macroObjectLikeDecl]

/-- The tokens of the replacement: those listed, blank ones aside, or those of its text
(`_tokens`). -/
def replacementTokens (n : Node) : List String :=
  match n.attr "tokens" with
  | .list items => (items.map (·.text)).filter fun t => !(Text.trim t.toList).isEmpty
  | _ =>
    match n.attr "replacement" with
    | .str text => (Literal.tokens text.toList).map String.ofList
    | _ => []

/-- Report a macro that only names a literal (`MacroConstantDetector`). -/
def macroConstant : Detector where
  rule := macroConstantRule
  inspect c :=
    let n := c.node
    if n.has "predefined" || n.has "system_header" then .ok []
    else
      match Literal.singleLiteral? (replacementTokens n) with
      | none => .ok []
      | some literal =>
        let name := n.nameOr "<macro>"
        .ok [macroConstantRule.finding n
          ("macro '" ++ name ++ "' only names the constant " ++ literal
            ++ "; declare 'constexpr auto " ++ name ++ " = " ++ literal ++ ";' instead")]

end CppIdioms.Rules
