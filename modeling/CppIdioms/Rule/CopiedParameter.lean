import CppIdioms.Rule.Basic

/-!
# Parameters passed by value

A parameter worth not copying that its function only reads could be passed by constant reference.

## Contents

* `copiedParameterRule`, `copiedParameter`: the rule and its detector.
-/

namespace CppIdioms.Rules

/-- Pass parameters that are only read by constant reference. -/
def copiedParameterRule : Rule where
  id := "R12"
  title := "Pass non-trivial read-only parameters by const reference"
  rationale := "Passing a class object by value copies it on every call. When the function only "
    ++ "reads the parameter, 'const T&' gives the same guarantees without the copy."
  severity := .warning
  kinds := [.parameterDecl]

/-- The kinds that have parameters and a body (`CALLABLES`). -/
def callableKinds : List Kind := [.functionDecl, .methodDecl, .constructorDecl, .lambdaExpr]

/-- The function that the parameter belongs to is defined here. -/
def belongsToDefinition (c : Cursor) : Bool :=
  match c.nearest? callableKinds with
  | some function => (function.child? "body").isSome
  | none => false

/-- Report a parameter that is copied on every call and only read (`ByValueParameterDetector`). -/
def copiedParameter (sizeThreshold : Value) : Detector where
  rule := copiedParameterRule
  inspect c := do
    let n := c.node
    if !belongsToDefinition c then return []
    if !n.denies "is_modified" || n.has "moved_from" then return []
    match ← n.knownType with
    | none => return []
    | some t =>
      if t.category = .reference || t.category = .pointer || t.category = .array then return []
      if !(← (t.isNonTrivial sizeThreshold).mapError Error.fault) then return []
      return [copiedParameterRule.finding n
        ("parameter '" ++ n.nameOr "<unnamed>" ++ "' copies a '" ++ t.spelling
          ++ "' on every call; pass it as 'const " ++ t.base ++ "&'")]

end CppIdioms.Rules
