import CppIdioms.Rule.Basic

/-!
# Ownership through raw pointers

Objects made with `new` and destroyed with `delete` are reported, unless the new object is placed in
given storage or handed straight to a smart pointer.

## Contents

* `rawOwnershipRule`, `rawOwnership`: the rule and its detector.
* `isSmartPointer`: a spelling names a smart pointer.
* `isHandedOver`: a new object goes straight to a smart pointer.
-/

namespace CppIdioms.Rules

/-- Manage ownership with smart pointers. -/
def rawOwnershipRule : Rule where
  id := "R14"
  title := "Manage ownership with smart pointers"
  rationale := "A raw 'new' must be matched by exactly one 'delete' on every path, including "
    ++ "exceptions. std::make_unique / std::make_shared tie the lifetime to an object "
    ++ "and make leaks and double deletes structurally impossible."
  severity := .warning
  kinds := [.newExpr, .deleteExpr]

/-- The names of the owning smart pointers (`SMART_POINTERS`). -/
def smartPointers : List String := ["std::unique_ptr", "std::shared_ptr", "unique_ptr", "shared_ptr"]

/-- The spelling, without const and outer blanks, is one of the names or continues it with template
arguments (`is_smart_pointer`). -/
def isSmartPointer (spelling : String) : Bool :=
  let text := Text.trim (Text.erase "const ".toList spelling.toList)
  smartPointers.any fun name =>
    text == name.toList || (name.toList ++ ['<']).isPrefixOf text

/-- The type spells a smart pointer. -/
def spellsSmartPointer (t : Option CppType) : Bool :=
  match t with
  | some t => isSmartPointer t.spelling
  | none => false

/-- The new object, wrappers aside, is an argument of the constructor of a smart pointer or of the
`reset` of one (`_wrapped_in_smart_pointer`). -/
def isHandedOver (c : Cursor) : Except Error Bool :=
  match c.climb.path with
  | [] => .ok false
  | step :: _ =>
    let parent := step.parent
    if step.role != "arguments" then .ok false
    else if parent.kind = .constructExpr then (parent.typeAt "type").map spellsSmartPointer
    else if parent.kind = .memberCallExpr && (parent.attr "method").isText "reset" then
      match parent.peeled? "object" with
      | some owner => (owner.typeAt "type").map spellsSmartPointer
      | none => .ok false
    else .ok false

/-- The message for an owning `new` of a type whose spelling may be known. -/
def newMessage (spelling : Option String) : String :=
  let what := (spelling.map fun s => "'new " ++ s ++ "'").getD "'new'"
  let factory := (spelling.map fun s => "std::make_unique<" ++ s ++ ">").getD "std::make_unique"
  "raw " ++ what ++ " hands out an owning pointer; use " ++ factory ++ " or std::make_shared"

/-- The message for a `delete`. -/
def deleteMessage (n : Node) : String :=
  let operator := if n.has "array" then "delete[]" else "delete"
  "manual '" ++ operator ++ "' releases memory owned through a raw pointer; "
    ++ "hold it in std::unique_ptr instead"

/-- Report owning `new` and `delete` expressions (`RawOwnershipDetector`). -/
def rawOwnership : Detector where
  rule := rawOwnershipRule
  inspect c := do
    let n := c.node
    if n.kind = .deleteExpr then return [rawOwnershipRule.finding n (deleteMessage n)]
    if n.has "placement" then return []
    if ← isHandedOver c then return []
    let allocated := (← n.typeAt "allocated_type").filter (·.resolved)
    let spelling := (allocated.map (·.spelling)).filter (· != "")
    return [rawOwnershipRule.finding n (newMessage spelling)]

end CppIdioms.Rules
