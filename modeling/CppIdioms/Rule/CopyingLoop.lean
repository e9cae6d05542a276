import CppIdioms.Rule.Basic

/-!
# Loops that copy their elements

A range-for loop that binds its elements by value copies each of them. That is reported for
elements worth not copying, unless the body changes the copy.

## Contents

* `copyingLoopRule`, `copyingLoop`: the rule and its detector.
* `changedOperand?`: the expression that a node changes.
* `isModified`: the bound variable is changed.
-/

namespace CppIdioms.Rules

/-- Bind elements by constant reference. -/
def copyingLoopRule : Rule where
  id := "R07"
  title := "Iterate non-trivial elements by const reference"
  rationale := "'for (auto x : items)' copies every element. For class types or large "
    ++ "aggregates that is a constructor and destructor call per iteration. Bind with "
    ++ "'const auto&' unless the loop deliberately works on a copy."
  severity := .warning
  kinds := [.rangeForStatement]

/-- The expression that a node changes: the target of an assignment, the operand of an increment or
decrement, the object of a call that is not constant. -/
def changedOperand? (n : Node) : Option Node :=
  match n.kind with
  | .assignmentExpr => n.child? "lhs"
  | .preIncrementExpr => n.child? "operand"
  | .preDecrementExpr => n.child? "operand"
  | .postIncrementExpr => n.child? "operand"
  | .postDecrementExpr => n.child? "operand"
  | .memberCallExpr => if n.denies "const_method" then n.child? "object" else none
  | _ => none

/-- A node changes the variable of a given name or a part of it. -/
def changes (name : String) (n : Node) : Bool :=
  match changedOperand? n with
  | some operand => operand.designates name
  | none => false

/-- The variable is changed: as the binding states, or else as the body shows (`_is_modified`). -/
def isModified (binding : Node) (body : Option Node) (name : String) : Bool :=
  match binding.attr "is_modified" with
  | .null =>
    match body with
    | some b => b.walk.any (changes name)
    | none => false
  | declared => declared.isTrue

/-- Report a binding that copies elements worth not copying (`IterationByValueDetector`). -/
def copyingLoop (sizeThreshold : Value) : Detector where
  rule := copyingLoopRule
  inspect c := do
    match c.node.child? "binding" with
    | none => return []
    | some binding =>
      if binding.has "by_reference" then return []
      match ← binding.knownType with
      | none => return []
      | some t =>
        if t.category = .reference || t.category = .pointer then return []
        if !(← (t.isNonTrivial sizeThreshold).mapError Error.fault) then return []
        match binding.properName? with
        | none => return []
        | some name =>
          if isModified binding (c.node.child? "body") name then return []
          return [copyingLoopRule.finding binding
            ("range-for binds '" ++ name ++ "' by value and copies each '" ++ t.spelling
              ++ "' element; use 'const auto& " ++ name ++ "'")]

end CppIdioms.Rules
