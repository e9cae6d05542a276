import CppIdioms.Rule.Basic

/-!
# Narrowing initializers

An initializer after `=` or in parentheses may lose information; in braces it would be rejected.

## Contents

* `narrowingInitRule`, `narrowingInit`: the rule and its detector.
* `narrowingCast?`: the narrowing conversion around an initializer.
-/

namespace CppIdioms.Rules

/-- Prefer brace initialization. -/
def narrowingInitRule : Rule where
  id := "R10"
  title := "Prefer brace initialization to catch narrowing"
  rationale := "'int n = 3.7;' or 'char c(300);' compile and silently lose information. "
    ++ "Uniform (brace) initialization rejects narrowing conversions at compile time."
  severity := .warning
  kinds := [.variableDecl]

/-- The first narrowing conversion on the way through wrappers to their operands
(`_narrowing_cast`). -/
def narrowingCast? (n : Node) : Option Node :=
  if !n.kind.isWrapper then none
  else if n.kind = .implicitCastExpr && n.has "narrowing" then some n
  else
    match _h : n.child? "operand" with
    | some operand => narrowingCast? operand
    | none => none
termination_by n.size
decreasing_by exact Node.size_child?_lt _h

/-- The known type of what is converted: the operand of the conversion, or the initializer
(`_source_type`). -/
def sourceType (init cast : Option Node) : Except Error (Option CppType) := do
  match (match cast with | some n => n.child? "operand" | none => init) with
  | none => return none
  | some source => return (← source.typeAt "type").filter (·.resolved)

/-- Report a narrowing initializer that braces would reject (`NarrowingInitDetector`). -/
def narrowingInit : Detector where
  rule := narrowingInitRule
  inspect c := do
    let n := c.node
    if !(← (n.attr "init_style").among ["assignment", "paren"]) then return []
    let init := n.child? "init"
    let cast := init.bind narrowingCast?
    if !n.has "narrowing" && cast.isNone then return []
    let target ← n.typeAt "type"
    let source ← sourceType init cast
    let detail :=
      match source, target with
      | some s, some t => " from '" ++ s.spelling ++ "' to '" ++ t.spelling ++ "'"
      | _, _ => ""
    return [narrowingInitRule.finding n
      ("'" ++ n.nameOr "variable" ++ "' is initialized with a narrowing conversion" ++ detail
        ++ "; brace initialization would reject it")]

end CppIdioms.Rules
