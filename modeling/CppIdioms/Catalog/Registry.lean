import CppIdioms.Catalog.Basic
import CppIdioms.Table

/-!
# Registries

A registry is how a catalog is kept while an analysis may ask it: the entries in the order of their
registration, an index of them by id, and, once the registry is frozen, the dispatch table of all of
them. The table is built once, entry by entry; a table without some rules is cut out of it.

## Contents

* `Detector.interests`, `Dispatch.enter`, `Dispatch.ofDetectors`: dispatch tables entry by entry.
* `Dispatch.listed`, `Dispatch.without`: a dispatch table without some rules.
* `Registry`, `Registry.ids`, `Registry.get?`, `Registry.contains`: registries, and what is registered.
* `Registry.register`, `Registry.freeze`: the calls that change a registry.
* `Registry.dispatch`: the dispatch table, with or without all rules.
* `Registry.Change`, `Registry.change`, `Registry.changeAll`: such calls one after the other.
* `Registry.catalog`: the catalog that is kept.
-/

namespace CppIdioms

/-! ## §1 Dispatch tables entry by entry -/

/-- The kinds that the detector looks at, each once, in the order of their names. -/
def Detector.interests (d : Detector) : List Kind :=
  d.kinds.eraseDups.mergeSort fun a b => a.name ≤ b.name

namespace Dispatch

/-- The table with a detector entered for a kind, behind those that look at it already. -/
def enter (d : Detector) (table : Dispatch) (kind : Kind) : Dispatch :=
  upsert kind (fun ds => ds.getD [] ++ [d]) table

/-- The table with a detector entered for all kinds that it looks at. -/
def enterAll (table : Dispatch) (d : Detector) : Dispatch := d.interests.foldl (enter d) table

/-- The table of some detectors, entered one after the other (`_build_dispatch`). -/
def ofDetectors (ds : List Detector) : Dispatch := ds.foldl enterAll []

/-- Detectors as a table lists them for a kind: not at all if there is none. -/
def listed (ds : List Detector) : Option (List Detector) := if ds.isEmpty then none else some ds

/-- The table without the detectors of some rules. -/
def without (excluded : List String) (table : Dispatch) : Dispatch :=
  table.filterMap fun (kind, ds) =>
    (listed (ds.filter fun d => !excluded.contains d.rule.id)).map fun kept => (kind, kept)

end Dispatch

/-! ## §2 Registries -/

/-- A catalog as it is kept (`RuleCatalog`). -/
structure Registry where
  /-- In the order of their registration. -/
  entries : List Detector := []
  /-- The entries by their ids. -/
  index : List (String × Detector) := []
  /-- The dispatch table of all entries, once the registry is frozen. -/
  table : Option Dispatch := none
  deriving Inhabited

namespace Registry

/-- Registration has ended. -/
def frozen (r : Registry) : Bool := r.table.isSome

/-- The ids of the rules, in order. -/
def ids (r : Registry) : List String := r.entries.map (·.rule.id)

/-- The entry of a rule. -/
def get? (r : Registry) (id : String) : Option Detector := r.index.lookup id

/-- The rule is registered. -/
def contains (r : Registry) (id : String) : Bool := (r.index.lookup id).isSome

/-- The registry with one more entry at its end. -/
def append (r : Registry) (d : Detector) : Registry :=
  { r with entries := r.entries ++ [d], index := upsert d.rule.id (fun _ => d) r.index }

/-- Register a detector. A frozen registry refuses all, and any other refuses an id
that it has. -/
def register (r : Registry) (d : Detector) : Registry × Option Error :=
  if r.frozen then (r, some (.catalogFrozen d.rule.id))
  else if r.contains d.rule.id then (r, some (.duplicateRule d.rule.id))
  else (r.append d, none)

/-- End registration and build the dispatch table, unless that was done before. -/
def freeze (r : Registry) : Registry :=
  match r.table with
  | some _ => r
  | none => { r with table := some (.ofDetectors r.entries) }

/-- The dispatch table without the rules that are left out, cut out of the one that is kept if there
is one (`dispatch_table`). -/
def dispatch (r : Registry) (excluded : List String) : Dispatch :=
  let full := r.table.getD (.ofDetectors r.entries)
  if excluded.isEmpty then full else full.without excluded

/-! ## §3 Calls one after the other -/

/-- A call that may change a registry. -/
inductive Change where
  | register (d : Detector)
  | freeze

/-- The registry after a call, and why the call was refused if it was. -/
def change (r : Registry) : Change → Registry × Option Error
  | .register d => r.register d
  | .freeze => (r.freeze, none)

/-- The registry after some calls; those that are refused do not stop the others. -/
def changeAll (r : Registry) (calls : List Change) : Registry :=
  calls.foldl (fun r call => (r.change call).1) r

/-- The catalog that is kept. -/
def catalog (r : Registry) : Catalog := ⟨r.entries, r.frozen⟩

end Registry

end CppIdioms
