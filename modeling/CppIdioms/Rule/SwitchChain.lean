import CppIdioms.Literal.Constant
import CppIdioms.Rule.Basic
import CppIdioms.Tree.Shape

/-!
# Chains that could be a switch

A chain of `if ... else if ...` that compares one expression with distinct constants could be a
switch. The head of the chain is reported if the chain is long enough, every condition is an
equality with exactly one constant operand, the other operands have the same shape and their type
can be switched on.

## Contents

* `switchChainRule`, `switchChain`: the rule and its detector.
* `chainConditions?`: the conditions of a chain.
* `CaseLabel`, `caseLabel?`: the constants that a case may have.
* `splitEquality`: the compared expression and the constant of a condition.
* `commonSubject`: the expression that all conditions compare.
-/

namespace CppIdioms.Rules

/-- Prefer a switch over a long chain of equality tests. -/
def switchChainRule : Rule where
  id := "R03"
  title := "Prefer switch over long else-if chains on one value"
  rationale := "A chain of 'if (x == A) ... else if (x == B) ...' re-evaluates the discriminant "
    ++ "for every branch and hides the fact that the branches are mutually exclusive "
    ++ "constants. A switch states that intent, lets the compiler build a jump table and "
    ++ "warn about unhandled enumerators."
  severity := .info
  kinds := [.ifStatement]

/-! ## §1 Chains -/

/-- The conditions along the `else` branches that are if-statements (`_collect_conditions`). There
are none if a statement is evaluated at compile time, declares a variable or has no condition. -/
def chainConditions? (n : Node) : Option (List Node) :=
  if n.kind ≠ .ifStatement then some []
  else if n.has "constexpr" || (n.child? "init").isSome then none
  else
    match n.child? "condition" with
    | none => none
    | some condition =>
      match _h : n.child? "else" with
      | none => some [condition]
      | some other => (chainConditions? other).map (condition :: ·)
termination_by n.size
decreasing_by exact Node.size_child?_lt _h

/-! ## §2 Conditions -/

/-- A constant that a case may have. -/
inductive CaseLabel where
  | literal (value : Literal.Constant)
  | enumerator (name : String)
  deriving DecidableEq, Repr

/-- The constant that an expression is: a literal of a kind that can be switched on, or an
enumerator (`_constant`). -/
def caseLabel? (n : Node) : Except Error (Option CaseLabel) := do
  if n.kind = .literal then
    let switchable ← (n.attrOr "literal_kind" (.str "integer")).among
      ["integer", "character", "bool"]
    return if switchable then some (.literal (Literal.literalValue n)) else none
  else if n.kind = .declRefExpr && n.has "is_enumerator" then
    let name := if n.has "qualified_name" then (n.attr "qualified_name").text
      else n.name?.getD Value.null.text
    return some (.enumerator name)
  else return none

/-- The compared expression and the constant of a condition that is an equality with exactly one
constant operand (`_split_equality`). -/
def splitEquality (condition : Node) : Except Error (Option (Node × CaseLabel)) := do
  let equality := condition.peel
  if equality.kind = .binaryOperator && (equality.attr "operator").isText "==" then
    match equality.peeled? "lhs", equality.peeled? "rhs" with
    | some lhs, some rhs =>
      match ← caseLabel? lhs, ← caseLabel? rhs with
      | none, some label => return some (lhs, label)
      | some label, none => return some (rhs, label)
      | _, _ => return none
    | _, _ => return none
  else return none

/-! ## §3 The common subject -/

/-- Go through the remaining conditions of a chain: each must compare an expression of the shape of
the first, if there was one, with a constant not seen before. The answer is the expression that the
first condition compares; without any condition there is none to ask for. -/
def commonSubject (first : Option (Node × List ShapePart)) (seen : List CaseLabel) :
    List Node → Except Error (Option Node)
  | [] =>
    match first with
    | some (subject, _) => .ok (some subject)
    | none => .error (.fault .missingPart)
  | condition :: rest => do
    match ← splitEquality condition with
    | none => return none
    | some (subject, label) =>
      let shape ← subject.shape.mapError Error.fault
      match first with
      | some (_, firstShape) =>
        if sameShape shape firstShape && !seen.contains label then
          commonSubject first (label :: seen) rest
        else return none
      | none => commonSubject (some (subject, shape)) (label :: seen) rest

/-- Values of the expression can be switched on, as far as its type is known
(`_switchable_type`). -/
def isSwitchable (subject : Node) : Except Error Bool := do
  match ← subject.typeAt "type" with
  | none => return true
  | some t => return !t.resolved || t.isIntegral || t.category == .enumeration

/-- The statement is the `else` branch of another one. -/
def continuesChain (c : Cursor) : Bool :=
  (c.parent?.map (·.kind)) == some .ifStatement && c.role? == some "else"

/-- Report the head of a chain of at least `minBranches` conditions (`ElseIfChainDetector`). -/
def switchChain (minBranches : Value) : Detector where
  rule := switchChainRule
  inspect c := do
    if continuesChain c then return []
    match chainConditions? c.node with
    | none => return []
    | some conditions =>
      let tooShort ← (minBranches.exceeds conditions.length).mapError Error.fault
      if tooShort then return []
      match ← commonSubject none [] conditions with
      | none => return []
      | some subject =>
        if ← isSwitchable subject then
          return [switchChainRule.finding c.node
            ("if/else-if chain compares '" ++ subject.called "text" "expression" ++ "' against "
              ++ toString conditions.length
              ++ " distinct constants; convert it to a switch statement")]
        else return []

end CppIdioms.Rules
