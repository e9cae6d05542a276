import CppIdioms.Report.Finding

/-!
# Reports

A report lists the findings of an analysis in order, each once.

## Contents

* `keepFirst`: the first finding of each key.
* `Report`, `Report.ofFindings`, `Report.merge`: reports and how they are made.
* `Report.count`, `Report.byRule`, `Report.passed`, `Report.exitCode`, `Report.forRule`: what is read
  off a report.
-/

namespace CppIdioms

/-- The first finding of each key, in order. -/
def keepFirst : List Finding → List Finding
  | [] => []
  | f :: fs => f :: (keepFirst fs).filter fun g => g.key ≠ f.key

/-- The findings of an analysis. -/
structure Report where
  findings : List Finding
  deriving DecidableEq, Repr, Inhabited

namespace Report

/-- The report of some findings: each once, in order (`from_findings`). -/
def ofFindings (findings : List Finding) : Report :=
  ⟨(keepFirst findings).mergeSort Finding.precedes⟩

/-- The report of the findings of several reports (`merge_reports`). -/
def merge (reports : List Report) : Report := ofFindings (reports.flatMap (·.findings))

/-- The number of findings of a severity. -/
def count (r : Report) (s : Severity) : Nat := r.findings.countP (·.severity == s)

/-- The number of findings, as the sum over the severities. -/
def total (r : Report) : Nat := r.count .error + r.count .warning + r.count .info

/-- The rules that are violated, in order, each with the number of its findings. -/
def byRule (r : Report) : List (String × Nat) :=
  let rules := (r.findings.map (·.rule)).eraseDups.mergeSort fun a b => a ≤ b
  rules.map fun rule => (rule, r.findings.countP (·.rule == rule))

/-- There is no error among the findings. -/
def passed (r : Report) : Bool := !r.findings.any (·.severity == .error)

/-- Two with any error, one with any warning, else zero (`exit_code`). -/
def exitCode (r : Report) : Nat := (r.findings.map (·.severity.rank)).foldl max 0

/-- The findings of a rule (`for_rule`). -/
def forRule (r : Report) (rule : String) : List Finding := r.findings.filter (·.rule == rule)

end Report

end CppIdioms
