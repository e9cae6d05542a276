import CppIdioms.Rule.Basic

/-!
# Catalogs of rules

A catalog lists detectors in the order of their registration, each rule id once. Freezing a catalog
ends registration.

## Contents

* `Catalog`, `Catalog.register`, `Catalog.freeze`: catalogs and how they grow.
* `Catalog.ids`, `Catalog.get?`, `Catalog.contains`: what is registered.
* `Dispatch`, `Catalog.dispatch`: which detectors look at nodes of which kind.
-/

namespace CppIdioms

/-- Detectors by the kind of the nodes that they look at. -/
abbrev Dispatch := List (Kind × List Detector)

/-- The detectors that look at nodes of a kind, in order. -/
def Dispatch.at (table : Dispatch) (kind : Kind) : List Detector := (table.lookup kind).getD []

/-- The detector looks at nodes of a kind. -/
def Detector.looksAt (d : Detector) (kind : Kind) : Bool := d.kinds.contains kind

/-- Detectors in the order of their registration (`RuleCatalog`). -/
structure Catalog where
  detectors : List Detector := []
  frozen : Bool := false
  deriving Inhabited

namespace Catalog

/-- The ids of the rules, in order. -/
def ids (c : Catalog) : List String := c.detectors.map (·.rule.id)

/-- The detector of a rule. -/
def get? (c : Catalog) (id : String) : Option Detector := c.detectors.find? (·.rule.id == id)

/-- The rule is registered. -/
def contains (c : Catalog) (id : String) : Bool := c.ids.contains id

/-- Register a detector; a frozen catalog takes none, and each id is taken once. -/
def register (c : Catalog) (d : Detector) : Except Error Catalog :=
  if c.frozen then .error (.catalogFrozen d.rule.id)
  else if c.contains d.rule.id then .error (.duplicateRule d.rule.id)
  else .ok { c with detectors := c.detectors ++ [d] }

/-- Register several detectors. -/
def registerAll (c : Catalog) (ds : List Detector) : Except Error Catalog :=
  ds.foldlM register c

/-- End registration. -/
def freeze (c : Catalog) : Catalog := { c with frozen := true }

/-- The detectors of the rules that are not left out, by kind; kinds that no detector looks at are
not listed (`dispatch_table`). -/
def dispatch (c : Catalog) (excluded : List String) : Dispatch :=
  let kept := c.detectors.filter fun d => !excluded.contains d.rule.id
  Kind.all.filterMap fun kind =>
    match kept.filter (·.looksAt kind) with
    | [] => none
    | ds => some (kind, ds)

end Catalog

end CppIdioms
