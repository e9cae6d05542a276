import CppIdioms.Report.Finding
import CppIdioms.Tree.Cursor
import CppIdioms.Tree.Peel

/-!
# Rules and detectors

A rule is the description of one idiom; a detector looks at the nodes of the kinds it is
interested in and reports violations of its rule. A detector may find that the tree does not tell
what it needs to know, or fail on data it cannot handle; both end its inspection of the node.

## Contents

* `Rule`, `Rule.finding`: descriptions, and findings in their name.
* `Detector`: a rule with its inspection.
* `Node.knownType`, `Node.typeAt`: types during an inspection.
* `CppType.isNonTrivial`: types whose copies are worth avoiding.
-/

namespace CppIdioms

/-! ## §1 Rules -/

/-- The description of an idiom. -/
structure Rule where
  id : String
  title : String
  rationale : String
  severity : Severity
  kinds : List Kind
  deriving Inhabited

/-- A violation of the rule at a node (`Rule.finding`). -/
def Rule.finding (r : Rule) (n : Node) (message : String) : Finding :=
  ⟨r.id, n.span, message, r.severity⟩

/-- The names of the kinds that the rule is about, in order. -/
def Rule.kindNames (r : Rule) : List String :=
  (r.kinds.map (·.name)).eraseDups.mergeSort fun a b => a ≤ b

/-! ## §2 Detectors -/

/-- A rule with its inspection. A detector may also ask for the whole analysis to
stop. -/
structure Detector where
  rule : Rule
  /-- The kinds of the nodes that it looks at. -/
  kinds : List Kind := rule.kinds
  inspect : Cursor → Except Error (List Finding)
  halts : Cursor → Bool := fun _ => false
  deriving Inhabited

/-! ## §3 Types during an inspection -/

/-- The type stored in an attribute, if there is one. -/
def Node.typeAt (n : Node) (key : String) : Except Error (Option CppType) :=
  (n.typeOf key).mapError .fault

/-- The type of a node, if it is known. -/
def Node.knownType (n : Node) : Except Error (Option CppType) :=
  match n.requireType "type" with
  | .ok t => .ok (some t)
  | .error (.unresolved _ _) => .ok none
  | .error e => .error e

/-- Copies of the type are worth avoiding: it is a class, or larger than the threshold
(`is_non_trivial`). -/
def CppType.isNonTrivial (t : CppType) (threshold : Value) : Except Fault Bool :=
  if t.isClass then .ok true
  else
    match t.size with
    | some size => threshold.isBelow size
    | none => .ok false

/-- The value is one of the texts, as a question of an inspection. -/
def Value.among (v : Value) (texts : List String) : Except Error Bool :=
  (v.isOneOf texts).mapError .fault

end CppIdioms
