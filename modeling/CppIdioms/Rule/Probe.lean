import CppIdioms.Rule.Basic

/-!
# Probes

Detectors of fixed behaviour, for trying out catalogs and analyses.

## Contents

* `Probe`: what a probe does at a node.
* `Probe.detector`: a probe as a detector.
-/

namespace CppIdioms

/-- What a probe does at a node. -/
inductive Probe where
  /-- Nothing. -/
  | silent
  /-- Fail. -/
  | failing
  /-- Report the node and its surroundings. -/
  | reporting
  /-- Report like `reporting`, if the type of the node is known. -/
  | typed
  /-- Ask for the analysis to stop at a node with the namespace `halt`. -/
  | halting
  deriving DecidableEq, Repr, Inhabited

namespace Probe

/-- The probes with their names. -/
def names : List (String × Probe) :=
  [("none", silent), ("raise", failing), ("report", reporting), ("type", typed),
   ("cancel", halting)]

/-- The probe of a given name. -/
def ofName? (name : String) : Option Probe := names.lookup name

/-- The rule of a probe. -/
def rule (id : String) (severity : Severity) (kinds : List Kind) : Rule :=
  ⟨id, "test", "test", severity, kinds⟩

/-- The report of a probe: the node, its scope and its role. -/
def report (r : Rule) (c : Cursor) : Finding :=
  r.finding c.node (r.id ++ " saw " ++ c.node.label ++ " in " ++ c.scope.name ++ " as "
    ++ c.role?.getD "None")

/-- A probe as a detector. -/
def detector (p : Probe) (r : Rule) : Detector where
  rule := r
  inspect c :=
    match p with
    | silent => .ok []
    | failing => .error (.fault .badValue)
    | reporting => .ok [report r c]
    | typed => (c.node.requireType "type").map fun _ => [report r c]
    | halting => .ok []
  halts c := p = halting && (c.node.attr "namespace").isText "halt"

end Probe

end CppIdioms
