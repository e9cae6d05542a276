import CppIdioms.Rule.Basic

/-!
# Casts in the style of C

A cast that writes the type in parentheses does not say what it does. Discarding a value by a cast
to void is left alone.

## Contents

* `castStyleRule`, `castStyle`: the rule and its detector.
-/

namespace CppIdioms.Rules

/-- Use named casts. -/
def castStyleRule : Rule where
  id := "R13"
  title := "Use named casts instead of C-style casts"
  rationale := "A C-style cast tries static_cast, const_cast and reinterpret_cast in turn and "
    ++ "silently picks whichever compiles, so it can drop const or reinterpret bits "
    ++ "without saying so. Named casts state the intent and are easy to search for."
  severity := .warning
  kinds := [.cStyleCastExpr]

/-- Report a cast to a known type other than void (`CStyleCastDetector`). -/
def castStyle : Detector where
  rule := castStyleRule
  inspect c := do
    match ← c.node.knownType with
    | none => return []
    | some t =>
      if t.base == "void" then return []
      let named := ((c.node.attr "equivalent_cast").orElse (.str "static_cast")).text
      return [castStyleRule.finding c.node
        ("C-style cast to '" ++ t.spelling ++ "'; use " ++ named ++ "<" ++ t.spelling
          ++ "> or another named cast")]

end CppIdioms.Rules
