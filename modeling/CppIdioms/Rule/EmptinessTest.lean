import CppIdioms.Rule.Basic

/-!
# Sizes compared with zero

Comparing the size of a container with zero asks whether it is empty.

## Contents

* `emptinessTestRule`, `emptinessTest`: the rule and its detector.
* `isSizeCall`, `isZero`: the two operands of such a comparison.
* `asksEmpty?`: what a comparison asks.
* `SizeComparison`, `sizeComparison`: the comparison of a node.
-/

namespace CppIdioms.Rules

/-- Ask for emptiness directly. -/
def emptinessTestRule : Rule where
  id := "R17"
  title := "Use empty() to test for emptiness"
  rationale := "empty() states the question directly and is constant time for every standard "
    ++ "container, while size() is not guaranteed to be for all of them (e.g. some "
    ++ "list implementations)."
  severity := .info
  kinds := [.binaryOperator]

/-- A call of the size of a container (`_is_size_call`). -/
def isSizeCall (n : Node) : Except Error Bool := do
  if n.kind ≠ .memberCallExpr then return false
  return (← (n.attr "method").among ["size", "length"]) && (n.childrenOf "arguments").isEmpty

/-- An integer literal spelled as zero, suffixes aside (`_is_zero`). -/
def isZero (n : Node) : Bool :=
  n.kind == .literal && (n.attrOr "literal_kind" (.str "integer")).isText "integer"
    && ["0", "0x0", "00"].contains
      (String.ofList (Text.dropEndWhile (fun c => "uUlLzZ".toList.contains c)
        (n.attr "value").text.toList))

/-- Whether a comparison of a size with zero holds for empty containers only (`true`) or for all
others (`false`), by operator and by the side on which the size stands (`EMPTINESS_TESTS`). -/
def asksEmpty? (operator : String) (sizeOnLeft : Bool) : Option Bool :=
  match operator, sizeOnLeft with
  | "==", _ => some true
  | "!=", _ => some false
  | ">", true => some false
  | "<", false => some false
  | _, _ => none

/-- A comparison of a size with zero. -/
structure SizeComparison where
  call : Node
  operator : String
  sizeOnLeft : Bool
  asksEmpty : Bool

/-- The side on which the size stands in a comparison with zero, and the call of the size. -/
def sizeSide (lhs rhs : Node) : Except Error (Option (Node × Bool)) := do
  if (← isSizeCall lhs) && isZero rhs then return some (lhs, true)
  else if (← isSizeCall rhs) && isZero lhs then return some (rhs, false)
  else return none

/-- The comparison of a size with zero that a node is, if it is one that asks for emptiness. -/
def sizeComparison (n : Node) : Except Error (Option SizeComparison) := do
  match n.peeled? "lhs", n.peeled? "rhs" with
  | some lhs, some rhs =>
    match ← sizeSide lhs rhs with
    | none => return none
    | some (call, onLeft) =>
      match n.attr "operator" with
      | .str operator =>
        return (asksEmpty? operator onLeft).map fun asks => ⟨call, operator, onLeft, asks⟩
      | v => if v.isHashable then return none else throw (.fault .wrongType)
  | _, _ => return none

/-- The comparison as it is written, with the container called `label`. -/
def SizeComparison.written (s : SizeComparison) (label : String) : String :=
  let size := label ++ "." ++ (s.call.attr "method").text ++ "()"
  if s.sizeOnLeft then size ++ " " ++ s.operator ++ " 0" else "0 " ++ s.operator ++ " " ++ size

/-- The question that the comparison asks, with the container called `label`. -/
def SizeComparison.replacement (s : SizeComparison) (label : String) : String :=
  if s.asksEmpty then label ++ ".empty()" else "!" ++ label ++ ".empty()"

/-- Report a size compared with zero (`SizeComparisonDetector`). -/
def emptinessTest : Detector where
  rule := emptinessTestRule
  inspect c := do
    match ← sizeComparison c.node with
    | none => return []
    | some comparison =>
      match comparison.call.peeled? "object" with
      | none => return []
      | some owner =>
        match ← owner.knownType with
        | none => return []
        | some t =>
          if !t.referent.isClass then return []
          let label := owner.called "text" "container"
          return [emptinessTestRule.finding c.node
            ("'" ++ comparison.written label ++ "' tests for emptiness; use '"
              ++ comparison.replacement label ++ "'")]

end CppIdioms.Rules
