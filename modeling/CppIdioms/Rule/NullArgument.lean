import CppIdioms.Rule.Basic

/-!
# Null macros as integer arguments

`NULL` is an integer constant. Where overload resolution has chosen an integer parameter for it, the
argument is an error.

## Contents

* `nullArgumentRule`, `nullArgument`: the rule and its detector.
* `isNullMacro`: the argument is the null macro.
* `nullFindings`: the findings of the arguments of a call.
-/

namespace CppIdioms.Rules

/-- Use the null pointer literal instead of the null macro. -/
def nullArgumentRule : Rule where
  id := "R09"
  title := "Use nullptr instead of NULL"
  rationale := "NULL is an integer constant. Passed to an overloaded function it can pick the "
    ++ "integer overload instead of the pointer one. nullptr has its own type that only "
    ++ "converts to pointers."
  severity := .error
  kinds := [.callExpr, .memberCallExpr, .constructExpr]

/-- The expression, wrappers aside, comes from the null macro or is a name spelled like it
(`is_null_macro`). -/
def isNullMacro (n : Node) : Except Error Bool := do
  let inner := n.peel
  if ← (inner.attr "macro").among ["NULL"] then return true
  return inner.kind == .declRefExpr && inner.name? == some "NULL"

/-- Some argument is the null macro. -/
def anyNullMacro : List Node → Except Error Bool
  | [] => .ok false
  | n :: ns => do if ← isNullMacro n then return true else anyNullMacro ns

/-- The known type that a value denotes (`_parameter_type`). -/
def parameterType (v : Value) : Except Error (Option CppType) := do
  let t ← (CppType.ofValue v).mapError Error.fault
  return t.filter (·.resolved)

/-- The findings of the arguments from a position on, paired with their parameters. Arguments
without a parameter have none. -/
def nullFindings (callee : String) (position : Nat) :
    List Node → List Value → Except Error (List Finding)
  | [], _ => .ok []
  | n :: ns, [] => do
    let _ ← isNullMacro n
    nullFindings callee (position + 1) ns []
  | n :: ns, p :: ps => do
    if ← isNullMacro n then
      let t ← parameterType p
      let rest ← nullFindings callee (position + 1) ns ps
      match t.filter (·.isIntegral) with
      | some t =>
        return nullArgumentRule.finding n
          ("NULL passed as argument " ++ toString (position + 1) ++ " of '" ++ callee
            ++ "' selects the integer parameter '" ++ t.spelling ++ "'; pass nullptr") :: rest
      | none => return rest
    else nullFindings callee (position + 1) ns ps

/-- How messages name the called function. -/
def calleeName (overload : Entries) (n : Node) : String :=
  (((overload.find "name").orElse (n.attr "callee")).orElse (.str "callee")).text

/-- Report null macros that the chosen overload takes as integers (`NullArgumentDetector`). -/
def nullArgument : Detector where
  rule := nullArgumentRule
  inspect c := do
    let arguments := c.node.childrenOf "arguments"
    if !(← anyNullMacro arguments) then return []
    match c.node.attr "overload" with
    | .map overload =>
      match Entries.find overload "parameter_types" with
      | .list parameters => nullFindings (calleeName overload c.node) 0 arguments parameters
      | _ => return []
    | _ => return []

end CppIdioms.Rules
