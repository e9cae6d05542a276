import CppIdioms.Rule.Basic

/-!
# Locals that never change

An initialized local variable that is never reassigned could be declared const.

## Contents

* `constLocalRule`, `constLocal`: the rule and its detector.
-/

namespace CppIdioms.Rules

/-- Declare locals that never change const. -/
def constLocalRule : Rule where
  id := "R11"
  title := "Declare never-modified locals const"
  rationale := "A local that is assigned once and never changed documents that fact when declared "
    ++ "const, and the compiler then enforces it. Readers no longer have to scan the rest "
    ++ "of the function for later writes."
  severity := .info
  kinds := [.variableDecl]

/-- The declaration is known not to be reassigned, and nothing else speaks against const. -/
def neverChanges (n : Node) : Bool :=
  n.denies "is_reassigned" && !n.has "constexpr" && !n.has "address_taken" && !n.has "static"
    && ((n.child? "init").isSome || n.has "has_init")

/-- Report a local variable that could be const (`ConstLocalDetector`). -/
def constLocal : Detector where
  rule := constLocalRule
  inspect c := do
    let n := c.node
    if !neverChanges n then return []
    if c.scope ≠ .inFunction then return []
    match ← n.knownType with
    | none => return []
    | some t =>
      if t.isConst || t.category = .reference || t.category = .array then return []
      return [constLocalRule.finding n
        ("'" ++ n.nameOr "variable" ++ "' is never modified after initialization; declare it const")]

end CppIdioms.Rules
