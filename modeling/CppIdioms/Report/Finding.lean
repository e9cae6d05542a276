import CppIdioms.Tree.Span

/-!
# Findings

A finding says that a rule is violated at a place.

## Contents

* `Severity`: how bad a violation is; names and ranks.
* `Finding`: rule, place, message and severity.
* `Finding.key`: what makes two findings the same; the severity does not count.
* `Finding.compare`, `Finding.precedes`: the order of findings in a report.
-/

namespace CppIdioms

/-! ## §1 Severities -/

/-- How bad a violation is. -/
inductive Severity where
  | error
  | warning
  | info
  deriving DecidableEq, Repr, Inhabited

/-- The name of a severity. -/
def Severity.name : Severity → String
  | .error => "ERROR"
  | .warning => "WARNING"
  | .info => "INFO"

/-- The severities, worst first. -/
def Severity.all : List Severity := [.error, .warning, .info]

/-- The severity of a given name. -/
def Severity.ofName? (name : String) : Option Severity := Severity.all.find? (·.name == name)

/-- The rank of a severity; the rank of the worst finding is the exit code of a report. -/
def Severity.rank : Severity → Nat
  | .error => 2
  | .warning => 1
  | .info => 0

/-! ## §2 Findings -/

/-- A rule is violated at a place. -/
structure Finding where
  rule : String
  span : Span
  message : String
  severity : Severity
  deriving DecidableEq, Repr, Inhabited

/-- Two findings of equal rule, place and message are the same. -/
structure FindingKey where
  rule : String
  span : Span
  message : String
  deriving DecidableEq, Repr

/-- What identifies a finding. -/
def Finding.key (f : Finding) : FindingKey := ⟨f.rule, f.span, f.message⟩

/-- The order of findings: by file and start, then by rule, then by end, then by message
(`sort_key`). -/
def Finding.compare (a b : Finding) : Ordering :=
  (Ord.compare a.span.file b.span.file).then <|
    (Ord.compare a.span.line b.span.line).then <|
      (Ord.compare a.span.column b.span.column).then <|
        (Ord.compare a.rule b.rule).then <|
          (Ord.compare a.span.endLine b.span.endLine).then <|
            (Ord.compare a.span.endColumn b.span.endColumn).then <|
              Ord.compare a.message b.message

/-- The finding does not come after the other. -/
def Finding.precedes (a b : Finding) : Bool := (a.compare b).isLE

end CppIdioms
