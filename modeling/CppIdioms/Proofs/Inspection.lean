import CppIdioms.Analysis.Run
import CppIdioms.Proofs.Deduplication

/-!
# What an inspection does to a run

One equation for each step of a visit, so that nothing later has to open `Run.inspect` or
`Run.visit`. Detectors are arbitrary: the equations only ask what a detector answers at a cursor.

## Contents

* `Detector.found`, `Detector.fails`, `Detector.noted`: what a detector finds at a cursor, whether
  it fails there, and what is told about it.
* `Run.inspect_eq`, `Run.inspectAll_opened`, `Run.visit_opened`: a detector, all detectors, a place.
* `Catalog.at_dispatch`: the detectors that a dispatch table holds for a kind.

## Main statements

* `Run.visit_opened`: while the collector is open a visit never fails; a detector that does not
  answer adds nothing, and the others add what they find.
* `Run.visit_frame`: a visit leaves the dispatch table and the parent table alone, also when it
  fails.
-/

namespace CppIdioms

/-! ## §1 Detectors at a cursor -/

namespace Detector

/-- What the detector finds: nothing when its inspection ends without an answer. -/
def found (d : Detector) (c : Cursor) : List Finding :=
  match d.inspect c with
  | .ok findings => findings
  | .error _ => []

/-- The inspection ends in an error, other than that the tree does not tell what is needed. -/
def fails (d : Detector) (c : Cursor) : Bool :=
  match d.inspect c with
  | .ok _ => false
  | .error (.unresolved _ _) => false
  | .error _ => true

/-- What is told about the inspection. -/
def noted (d : Detector) (c : Cursor) : Option Event :=
  match d.inspect c with
  | .ok _ => none
  | .error (.unresolved what place) =>
    some (.unresolved d.rule.id c.node.kind.name (Error.unresolved what place).message)
  | .error _ => some (.failed d.rule.id c.node.kind.name c.node.span.text)

theorem mem_found_iff {d : Detector} {c : Cursor} {f : Finding} :
    f ∈ d.found c ↔ ∃ findings, d.inspect c = .ok findings ∧ f ∈ findings := by
  unfold found
  cases d.inspect c <;> simp

end Detector

/-! ## §2 Visits -/

namespace Run

theorem inspect_eq (run : Run) (d : Detector) (c : Cursor) :
    run.inspect d c =
      ({ run with
          signal := if d.halts c then run.signal.raise else run.signal
          failures := run.failures + if d.fails c then 1 else 0
          history := (d.noted c).toList ++ run.history }, d.found c) := by
  unfold inspect Detector.found Detector.fails Detector.noted
  cases d.halts c <;> cases d.inspect c with
  | ok findings => rfl
  | error e => cases e <;> rfl

theorem collect_opened {run : Run} (seen findings : List Finding)
    (h : run.collector = .opened seen) :
    run.collect findings = ({ run with collector := .opened (seen ++ findings) }, none) := by
  obtain ⟨n, hn, _⟩ := Collector.extend_opened seen findings
  rw [collect, h, hn]

theorem signal_raise_raise (s : Signal) : s.raise.raise = s.raise := by
  cases s <;> rfl

/-- Detectors at a node, while the collector is open: each adds what it finds, whatever the others
do. -/
theorem inspectAll_opened (c : Cursor) (ds : List Detector) {run : Run} (seen : List Finding)
    (h : run.collector = .opened seen) :
    inspectAll c ds run =
      ({ run with
          signal := if ds.any (·.halts c) then run.signal.raise else run.signal
          collector := .opened (seen ++ ds.flatMap (·.found c))
          failures := run.failures + ds.countP (·.fails c)
          history := (ds.filterMap (·.noted c)).reverse ++ run.history }, none) := by
  induction ds generalizing run seen with
  | nil => simp [inspectAll, ← h]
  | cons d ds ih =>
    rw [inspectAll, inspect_eq]
    simp only
    rw [collect_opened seen _ (by exact h)]
    simp only
    rw [ih _ rfl]
    simp only [List.any_cons, List.flatMap_cons, List.countP_cons, List.append_assoc, Prod.mk.injEq,
      and_true, Run.mk.injEq, true_and]
    refine ⟨?_, by omega, ?_⟩
    · by_cases hd : d.halts c <;> by_cases hds : ds.any (·.halts c) <;> simp [hd, hds, signal_raise_raise]
    · cases hn : d.noted c <;> simp [hn]

/-- A visit while the collector is open. -/
theorem visit_opened {run : Run} {seen : List Finding} (h : run.collector = .opened seen)
    (p : Place) :
    run.visit p =
      (let ds := run.table.at p.node.kind
       let c := run.parents.cursor p
       { run with
          signal := if ds.any (·.halts c) then run.signal.raise else run.signal
          collector := .opened (seen ++ ds.flatMap (·.found c))
          visited := run.visited + 1
          failures := run.failures + ds.countP (·.fails c)
          history := (ds.filterMap (·.noted c)).reverse ++ run.history }, none) := by
  unfold visit
  simp only
  split
  · next hnil => simp [hnil, ← h]
  · next ds hcons => rw [inspectAll_opened _ _ seen (by exact h)]

theorem collect_frame (run : Run) (findings : List Finding) :
    (run.collect findings).1.table = run.table ∧ (run.collect findings).1.parents = run.parents := by
  unfold collect
  split <;> exact ⟨rfl, rfl⟩

theorem inspectAll_frame (c : Cursor) (ds : List Detector) (run : Run) :
    (inspectAll c ds run).1.table = run.table ∧ (inspectAll c ds run).1.parents = run.parents := by
  induction ds generalizing run with
  | nil => exact ⟨rfl, rfl⟩
  | cons d ds ih =>
    rw [inspectAll, inspect_eq]
    simp only
    split
    · next run' hcollect =>
      have hframe := hcollect ▸ collect_frame _ (d.found c)
      exact ⟨(ih run').1.trans hframe.1, (ih run').2.trans hframe.2⟩
    · next run' e hcollect =>
      exact hcollect ▸ collect_frame _ (d.found c)

/-- A visit leaves the dispatch table and the parent table alone, also when it fails. -/
theorem visit_frame (run : Run) (p : Place) :
    (run.visit p).1.table = run.table ∧ (run.visit p).1.parents = run.parents := by
  unfold visit
  simp only
  split
  · exact ⟨rfl, rfl⟩
  · exact inspectAll_frame _ _ _

theorem signal_raise_eq (s : Signal) : s.raise = s ∨ s.raise = .raised := by
  cases s <;> simp [Signal.raise]

theorem collect_signal (run : Run) (findings : List Finding) :
    (run.collect findings).1.signal = run.signal := by
  unfold collect
  split <;> rfl

theorem inspectAll_signal (c : Cursor) (ds : List Detector) (run : Run) :
    (inspectAll c ds run).1.signal = run.signal ∨ (inspectAll c ds run).1.signal = .raised := by
  have hone : ∀ (d : Detector) (run : Run),
      (if d.halts c then run.signal.raise else run.signal) = run.signal ∨
      (if d.halts c then run.signal.raise else run.signal) = .raised := by
    intro d run
    split
    · exact signal_raise_eq _
    · exact .inl rfl
  induction ds generalizing run with
  | nil => exact .inl rfl
  | cons d ds ih =>
    rw [inspectAll, inspect_eq]
    simp only
    split
    · next run' hcollect =>
      have hsame := hcollect ▸ collect_signal _ (d.found c)
      rcases ih run' with h | h
      · rw [h, hsame]
        exact hone d run
      · exact .inr h
    · next run' e hcollect =>
      have hsame := hcollect ▸ collect_signal _ (d.found c)
      rw [hsame]
      exact hone d run

/-- A visit leaves the signal as it is, or raised. -/
theorem visit_signal (run : Run) (p : Place) :
    (run.visit p).1.signal = run.signal ∨ (run.visit p).1.signal = .raised := by
  unfold visit
  simp only
  split
  · exact .inl rfl
  · exact inspectAll_signal _ _ _

end Run

/-! ## §3 Dispatch -/

theorem lookup_filterMap_nonempty (f : Kind → List Detector) (kinds : List Kind) (kind : Kind) :
    (kinds.filterMap fun k => match f k with | [] => none | ds => some (k, ds)).lookup kind
      = if kind ∈ kinds ∧ f kind ≠ [] then some (f kind) else none := by
  induction kinds with
  | nil => simp
  | cons k kinds ih =>
    rw [List.filterMap_cons]
    by_cases hk : kind = k
    · subst hk
      cases hf : f kind with
      | nil => simp [hf, ih]
      | cons d ds => simp
    · cases hf : f k with
      | nil => simp [hk, ih]
      | cons d ds =>
        have hne : (kind == k) = false := beq_false_of_ne hk
        simp [hk, ih, List.lookup_cons, hne]

/-- A dispatch table holds, for each kind, the detectors that look at it and are not left out, in
the order of the catalog. -/
theorem Catalog.at_dispatch (cat : Catalog) (excluded : List String) (kind : Kind) :
    (cat.dispatch excluded).at kind
      = cat.detectors.filter fun d => d.looksAt kind && !excluded.contains d.rule.id := by
  rw [← List.filter_filter]
  have hlookup := lookup_filterMap_nonempty
    (fun kind => (cat.detectors.filter fun d => !excluded.contains d.rule.id).filter (·.looksAt kind))
    Kind.all kind
  refine (congrArg (·.getD []) hlookup).trans ?_
  split
  · rfl
  · next h => exact (Classical.not_not.1 fun hne => h ⟨Kind.mem_all kind, hne⟩).symm

end CppIdioms
