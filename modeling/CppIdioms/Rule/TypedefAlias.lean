import CppIdioms.Rule.Basic
import CppIdioms.Text.Upper

/-!
# Typedefs

A typedef can be written as an alias declaration, except where the header must stay valid C.

## Contents

* `typedefAliasRule`, `typedefAlias`: the rule and its detector.
* `inCLinkage`: the node stands in a block of C linkage.
-/

namespace CppIdioms.Rules

/-- Prefer alias declarations. -/
def typedefAliasRule : Rule where
  id := "R15"
  title := "Prefer 'using' alias declarations over typedef"
  rationale := "'using Name = Type;' reads left to right, handles function pointer types "
    ++ "without the inside-out declarator syntax and, unlike typedef, can be templated."
  severity := .info
  kinds := [.typedefDecl]

/-- The node declares C linkage for what it holds. -/
def declaresCLinkage (n : Node) : Bool :=
  n.kind == .linkageSpecDecl && Text.upper (n.attrOr "language" (.str "")).text == "C"

/-- The node stands in a block of C linkage (`in_c_linkage`). -/
def inCLinkage (c : Cursor) : Bool := c.ancestors.any declaresCLinkage

/-- Report a typedef outside blocks of C linkage (`TypedefDetector`). -/
def typedefAlias : Detector where
  rule := typedefAliasRule
  inspect c := do
    let n := c.node
    if n.has "system_header" || inCLinkage c then return []
    let name := n.nameOr "alias"
    let underlying := (← n.typeAt "underlying").filter fun t => t.resolved && t.spelling != ""
    let aliased := (underlying.map (·.spelling)).getD "..."
    return [typedefAliasRule.finding n
      ("typedef '" ++ name ++ "' can be written as 'using " ++ name ++ " = " ++ aliased ++ ";'")]

end CppIdioms.Rules
