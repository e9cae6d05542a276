import CppIdioms.Rule.TypedefAlias

/-!
# Unscoped enumerations

The enumerators of a named, unscoped enumeration leak into the scope around it.

## Contents

* `unscopedEnumRule`, `unscopedEnum`: the rule and its detector.
-/

namespace CppIdioms.Rules

/-- Prefer scoped enumerations. -/
def unscopedEnumRule : Rule where
  id := "R16"
  title := "Prefer scoped enums (enum class)"
  rationale := "Enumerators of a plain enum leak into the enclosing scope and convert implicitly "
    ++ "to int. 'enum class' keeps them qualified and strongly typed."
  severity := .info
  kinds := [.enumDecl]

/-- Report a named, unscoped enumeration outside blocks of C linkage (`UnscopedEnumDetector`). -/
def unscopedEnum : Detector where
  rule := unscopedEnumRule
  inspect c :=
    let n := c.node
    match n.properName? with
    | none => .ok []
    | some name =>
      if n.has "scoped" || n.has "anonymous" || n.has "system_header" || inCLinkage c then .ok []
      else
        .ok [unscopedEnumRule.finding n
          ("unscoped enum '" ++ name ++ "' leaks its enumerators into the enclosing scope; "
            ++ "use 'enum class " ++ name ++ "'")]

end CppIdioms.Rules
