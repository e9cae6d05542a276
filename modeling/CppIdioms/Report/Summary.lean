import CppIdioms.Report.Basic
import CppIdioms.Table

/-!
# Summaries

A summary counts the findings of a report by severity and by rule, one finding after the other.

## Contents

* `Summary`, `Summary.increment`: counts of findings, and those with one more finding.
* `Summary.count`, `Summary.total`, `Summary.rows`, `Summary.rules`: what is read off a summary.
* `Report.summary`: the summary of a report.
-/

namespace CppIdioms

/-- Counts of findings by severity and by rule. -/
structure Summary where
  error : Nat := 0
  warning : Nat := 0
  info : Nat := 0
  /-- The rules in the order of their first findings. -/
  byRule : List (String × Nat) := []
  deriving DecidableEq, Repr, Inhabited

namespace Summary

/-- The summary with one more finding. -/
def increment (s : Summary) (f : Finding) : Summary :=
  let byRule := upsert f.rule (fun n => n.getD 0 + 1) s.byRule
  match f.severity with
  | .error => { s with error := s.error + 1, byRule }
  | .warning => { s with warning := s.warning + 1, byRule }
  | .info => { s with info := s.info + 1, byRule }

/-- The number of findings of a severity. -/
def count (s : Summary) : Severity → Nat
  | .error => s.error
  | .warning => s.warning
  | .info => s.info

/-- The number of findings, as the sum over the severities. -/
def total (s : Summary) : Nat := Severity.all.foldl (fun n severity => n + s.count severity) 0

/-- The severities, worst first, each with the number of its findings (`as_rows`). -/
def rows (s : Summary) : List (Severity × Nat) :=
  Severity.all.map fun severity => (severity, s.count severity)

/-- The rules in order, each with the number of its findings. -/
def rules (s : Summary) : List (String × Nat) := s.byRule.mergeSort fun a b => a.1 ≤ b.1

end Summary

/-- The summary of a report. -/
def Report.summary (r : Report) : Summary := r.findings.foldl Summary.increment {}

end CppIdioms
