import CppIdioms.Rule.Basic

/-!
# Post-increments whose value is discarded

Incrementing an object with the postfix operator copies it; the copy is wasted when nothing uses the
old value. A value is discarded by a statement, by the increment part of a loop, by a cast to void,
and on the left of a comma; on the right of a comma it is discarded where the comma's value is.

## Contents

* `discardedPostfixRule`, `discardedPostfix`: the rule and its detector.
* `isDiscarded`: the value of an expression is discarded.
-/

namespace CppIdioms.Rules

/-- Prefer the prefix operators on objects. -/
def discardedPostfixRule : Rule where
  id := "R04"
  title := "Prefer pre-increment for object types"
  rationale := "For class types, 'it++' must copy the object to return its old value. When that "
    ++ "value is discarded the copy is wasted work the optimizer may not remove across an "
    ++ "overloaded operator call. '++it' advances in place."
  severity := .warning
  kinds := [.postIncrementExpr, .postDecrementExpr]

/-- The value of the node is discarded by what surrounds it, wrappers aside
(`_result_discarded`). -/
def isDiscarded (c : Cursor) : Except Error Bool :=
  match _h : c.climb.path with
  | [] => .ok false
  | step :: rest =>
    let parent := step.parent
    if parent.kind = .exprStatement then .ok true
    else if parent.kind = .forStatement then .ok (step.role == "increment")
    else if parent.kind = .binaryOperator && (parent.attr "operator").isText "," then
      if step.role == "lhs" then .ok true else isDiscarded ⟨parent, rest⟩
    else if parent.kind = .cStyleCastExpr then
      (parent.typeAt "type").map fun t => (t.map (·.base)) == some "void"
    else .ok false
termination_by c.path.length
decreasing_by
  have h := Cursor.length_climb_le c
  rw [_h, List.length_cons] at h
  exact h

/-- Report a postfix operator on an object whose old value is discarded
(`PostIncrementDetector`). -/
def discardedPostfix : Detector where
  rule := discardedPostfixRule
  inspect c := do
    match c.node.peeled? "operand" with
    | none => return []
    | some operand =>
      match ← operand.knownType with
      | none => return []
      | some known =>
        let t := known.referent
        if !t.isClass then return []
        if !(← isDiscarded c) then return []
        let operator := if c.node.kind = .postIncrementExpr then "++" else "--"
        let verb := if c.node.kind = .postIncrementExpr then "increment" else "decrement"
        let name := operand.called "text" "operand"
        return [discardedPostfixRule.finding c.node
          ("post-" ++ verb ++ " of '" ++ name ++ "' (" ++ t.spelling
            ++ ") copies a value that is never used; write '" ++ operator ++ name ++ "'")]

end CppIdioms.Rules
