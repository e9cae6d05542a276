import CppIdioms.Rule.Basic

/-!
# Signed indices

A container is indexed with an unsigned type; an index of a signed type is reported.

## Contents

* `signedIndexRule`, `signedIndex`: the rule and its detector.
-/

namespace CppIdioms.Rules

/-- Index containers with size types. -/
def signedIndexRule : Rule where
  id := "R08"
  title := "Use size types for container indices"
  rationale := "Standard containers index with an unsigned size_type. A signed 'int' index is "
    ++ "converted on every access, triggers sign-compare warnings against size(), and "
    ++ "cannot address every element of a container larger than INT_MAX. Use std::size_t "
    ++ "(or the container's size_type)."
  severity := .info
  kinds := [.containerIndexExpr]

/-- The container may be an object: its type is unknown or a class. -/
def mayBeObject (container : Option Node) : Except Error Bool := do
  match container with
  | none => return true
  | some n =>
    match ← n.typeAt "type" with
    | none => return true
    | some t => return !t.resolved || t.isClass

/-- Report an index of signed type that is not a literal (`SignedIndexDetector`). -/
def signedIndex : Detector where
  rule := signedIndexRule
  inspect c := do
    match c.node.peeled? "index" with
    | none => return []
    | some index =>
      if index.kind = .literal then return []
      match ← index.knownType with
      | none => return []
      | some t =>
        if !t.isSignedIntegral then return []
        if !(← mayBeObject (c.node.peeled? "container")) then return []
        return [signedIndexRule.finding index
          ("index '" ++ index.called "text" "index" ++ "' has signed type '" ++ t.spelling
            ++ "'; index containers with std::size_t")]

end CppIdioms.Rules
