import CppIdioms.Rule.Basic

/-!
# Converting constructors

A constructor that can be called with one argument is an implicit conversion unless it is marked
explicit. Copy and move constructors and those that take an initializer list are none.

## Contents

* `implicitConversionRule`, `implicitConversion`: the rule and its detector.
* `constructedClass`: the class that a constructor belongs to.
* `copiesClass`: a parameter refers to that class.
-/

namespace CppIdioms.Rules

/-- Mark converting constructors explicit. -/
def implicitConversionRule : Rule where
  id := "R18"
  title := "Mark single-argument constructors explicit"
  rationale := "A constructor callable with one argument doubles as an implicit conversion. "
    ++ "Calls such as 'draw(42)' then silently build a temporary object. Marking the "
    ++ "constructor explicit keeps conversions visible at the call site."
  severity := .warning
  kinds := [.constructorDecl]

/-- The constructor converts nothing implicitly, whatever its parameters. -/
def isExempt (n : Node) : Bool :=
  n.has "explicit" || n.has "deleted" || n.has "is_copy" || n.has "is_move"

/-- The first parameter of a constructor that can be called with exactly one argument. -/
def singleParameter? (n : Node) : Option Node :=
  let parameters := n.childrenOf "parameters"
  if n.has "variadic" || 1 < parameters.countP (fun p => !p.has "has_default") then none
  else parameters.head?

/-- The class that a constructor belongs to: the record around it, the class it states, or what it
is itself called (`_class_name`). -/
def constructedClass (c : Cursor) : Value :=
  match (c.nearest? [.recordDecl]).bind (·.properName?) with
  | some name => .str name
  | none => (c.node.attr "class_name").orElse ((c.node.name?.map Value.str).getD .null)

/-- The type refers to the class, whose name may be qualified in the type (`_is_copy_or_move`). A
class that is not named by a text cannot be compared. -/
def copiesClass (t : CppType) (className : Value) : Except Error Bool :=
  match t.category, t.element with
  | .reference, some element =>
    if !className.isTrue then .ok false
    else
      match className with
      | .str name =>
        .ok (element.base == name || ("::" ++ name).toList.isSuffixOf element.base.toList)
      | _ => .error (.fault .wrongType)
  | _, _ => .ok false

/-- Report a constructor that converts implicitly (`ImplicitConversionDetector`). -/
def implicitConversion : Detector where
  rule := implicitConversionRule
  inspect c := do
    let n := c.node
    if isExempt n then return []
    match singleParameter? n with
    | none => return []
    | some parameter =>
      match (← parameter.typeAt "type").filter (·.resolved) with
      | none => return []
      | some t =>
        let className := constructedClass c
        if ← copiesClass t className then return []
        if "std::initializer_list".toList.isPrefixOf t.base.toList then return []
        let label := if className.isTrue then className.text else n.nameOr "constructor"
        return [implicitConversionRule.finding n
          ("constructor '" ++ label ++ "(" ++ t.spelling ++ ")' allows implicit conversion from '"
            ++ t.spelling ++ "'; mark it explicit")]

end CppIdioms.Rules
