import CppIdioms.Error
import CppIdioms.Report.Basic

/-!
# Collectors

A collector gathers the findings of one analysis, drops those it has already, and hands out one
report. Handing it out closes the collector, and a closed collector takes no more findings.

## Contents

* `Collector`: the findings gathered so far.
* `Collector.add`, `Collector.extend`, `Collector.finalize`: its operations.
-/

namespace CppIdioms

/-- The findings gathered so far, in the order of their arrival (`DiagnosticCollector`). -/
structure Collector where
  findings : List Finding := []
  closed : Bool := false
  deriving DecidableEq, Repr, Inhabited

namespace Collector

/-- Take a finding, unless it is there already; the answer says whether it was new. -/
def add (c : Collector) (f : Finding) : Except Error (Bool × Collector) :=
  if c.closed then .error (.collectorClosed .adding)
  else if c.findings.any (·.key == f.key) then .ok (false, c)
  else .ok (true, { c with findings := c.findings ++ [f] })

/-- Take several findings; the answer is the number of new ones. -/
def extend (c : Collector) : List Finding → Except Error (Nat × Collector)
  | [] => .ok (0, c)
  | f :: fs =>
    match c.add f with
    | .error e => .error e
    | .ok (isNew, c) =>
      match c.extend fs with
      | .error e => .error e
      | .ok (n, c) => .ok (n + isNew.toNat, c)

/-- Hand out the report and close the collector. -/
def finalize (c : Collector) : Except Error (Report × Collector) :=
  if c.closed then .error (.collectorClosed .finalizing)
  else .ok (⟨c.findings.mergeSort Finding.precedes⟩, { c with closed := true })

end Collector

end CppIdioms
