import CppIdioms.Analysis.Engine
import CppIdioms.Proofs.Traversal
import CppIdioms.Rule.Probe
import Mathlib.Data.List.Basic

/-!
# Leaving out rules

Rules are left out before a walk starts, by what the dispatch table holds. Here this is shown to be
the same as leaving out findings from the finished report, for every catalog whose detectors report
in the name of their own rules. Which of the two lists an id comes from, how often it is given and
which blanks stand around it then makes no difference.

## Contents

* `Padded`: a value that reads like another one with blanks around it.
* `Catalog.ReportsOwnRules`: detectors report in the name of their own rules.
* `Engine.leavingOut`, `Catalog.reportWithout`: an engine whose settings leave out some rules, and the
  report of the rules that are left.

## Main statements

* `ruleId_eq_of_padded`: blanks around an id do not count.
* `Engine.analyze_leavingOut`: an analysis that leaves out rules, by the detectors that are left.
* `findings_reportWithout`, `Engine.analyze_eq_filter`: leaving out rules is leaving out findings.
* `exclusion_filters_report`: the laws of leaving out rules.
-/

namespace CppIdioms

open CppIdioms.Text

/-! ## §1 Rule ids -/

theorem trimStart_append_left {left : List Char} (h : ∀ c ∈ left, isBlank c) (cs : List Char) :
    trimStart (left ++ cs) = trimStart cs := by
  rw [trimStart, List.dropWhile_append_of_pos h, trimStart]

theorem trimEnd_append_right {right : List Char} (h : ∀ c ∈ right, isBlank c) (cs : List Char) :
    trimEnd (cs ++ right) = trimEnd cs := by
  have hr : ∀ c ∈ right.reverse, isBlank c := fun c hc => h c (List.mem_reverse.1 hc)
  rw [trimEnd, dropEndWhile, List.reverse_append, List.dropWhile_append_of_pos hr, trimEnd,
    dropEndWhile]

theorem trim_append_right {right : List Char} (h : ∀ c ∈ right, isBlank c) (cs : List Char) :
    trim (cs ++ right) = trim cs := by
  have hright : trimStart right = [] := by
    have happend := trimStart_append_left h []
    rwa [List.append_nil] at happend
  unfold trim
  by_cases hcs : trimStart cs = []
  · -- All is blank, so that nothing is left on either side.
    have hall : trimStart (cs ++ right) = [] := by
      unfold trimStart at hcs hright ⊢
      rw [List.dropWhile_append, hcs, hright]
      rfl
    rw [hall, hcs]
  · have hsome : trimStart (cs ++ right) = trimStart cs ++ right := by
      unfold trimStart at hcs ⊢
      rw [List.dropWhile_append, if_neg (by simpa using hcs)]
    rw [hsome, trimEnd_append_right h]

/-- The second value reads like the first one with blanks around it. -/
def Padded (v w : Value) : Prop :=
  ∃ left right : String, (∀ c ∈ left.toList, isBlank c) ∧ (∀ c ∈ right.toList, isBlank c) ∧
    w.text = left ++ v.text ++ right

/-- Blanks around an id do not count. -/
theorem ruleId_eq_of_padded {v w : Value} (h : Padded v w) : ruleId w = ruleId v := by
  obtain ⟨left, right, hleft, hright, htext⟩ := h
  have htrim : trim w.text.toList = trim v.text.toList := by
    rw [htext, String.toList_append, String.toList_append, trim_append_right hright]
    unfold trim
    rw [trimStart_append_left hleft]
  rw [ruleId, htrim, ruleId]

theorem map_ruleId_eq_of_padded {vs ws : List Value} (h : List.Forall₂ Padded vs ws) :
    ws.map ruleId = vs.map ruleId := by
  induction h with
  | nil => rfl
  | cons hv _ ih => rw [List.map_cons, List.map_cons, ruleId_eq_of_padded hv, ih]

theorem mem_inOrder {ids : List String} {id : String} : id ∈ inOrder ids ↔ id ∈ ids := by
  rw [inOrder, List.mem_mergeSort, List.mem_eraseDups]

/-! ## §2 Detectors that report their own rules -/

/-- Every detector of the catalog reports in the name of its own rule. -/
def Catalog.ReportsOwnRules (cat : Catalog) : Prop :=
  ∀ d ∈ cat.detectors, ∀ c findings, d.inspect c = .ok findings →
    ∀ f ∈ findings, ∃ n message, f = d.rule.finding n message

theorem Catalog.ReportsOwnRules.rule_eq {cat : Catalog} (h : cat.ReportsOwnRules) {d : Detector}
    (hd : d ∈ cat.detectors) {c : Cursor} {f : Finding} (hf : f ∈ d.found c) :
    f.rule = d.rule.id := by
  obtain ⟨findings, hinspect, hf⟩ := Detector.mem_found_iff.1 hf
  obtain ⟨n, message, rfl⟩ := h d hd c findings hinspect f hf
  rfl

/-- The finding is in the name of a rule that is kept. -/
def keeps (ids : List String) (f : Finding) : Bool := !ids.contains f.rule

theorem keeps_eq_of_key (ids : List String) (f g : Finding) (h : f.key = g.key) :
    keeps ids f = keeps ids g := by
  have hrule : f.rule = g.rule := congrArg FindingKey.rule h
  rw [keeps, keeps, hrule]

/-- Of the findings of one detector all are kept or none. -/
theorem filter_found {cat : Catalog} (h : cat.ReportsOwnRules) {d : Detector}
    (hd : d ∈ cat.detectors) (ids : List String) (c : Cursor) :
    (d.found c).filter (keeps ids) = if !ids.contains d.rule.id then d.found c else [] := by
  split
  · next hkeep =>
    refine List.filter_eq_self.2 fun f hf => ?_
    rw [keeps, h.rule_eq hd hf]
    exact hkeep
  · next hdrop =>
    refine List.filter_eq_nil_iff.2 fun f hf => ?_
    rw [keeps, h.rule_eq hd hf]
    exact hdrop

/-! ## §3 Inspections that are left -/

theorem Catalog.mem_inspections {cat : Catalog} {ids : List String} {root : Node}
    {i : Detector × Cursor} (h : i ∈ cat.inspections ids root) : i.1 ∈ cat.detectors := by
  obtain ⟨c, _, hi⟩ := List.mem_flatMap.1 h
  obtain ⟨d, hd, rfl⟩ := List.mem_map.1 hi
  exact (List.mem_filter.1 hd).1

/-- Leaving out rules leaves out the inspections of their detectors, and no others. -/
theorem Catalog.inspections_eq_filter (cat : Catalog) (ids : List String) (root : Node) :
    cat.inspections ids root
      = (cat.inspections [] root).filter fun i => !ids.contains i.1.rule.id := by
  unfold inspections
  rw [List.filter_flatMap]
  refine congrArg (List.flatMap · _) (funext fun c => ?_)
  rw [List.filter_map, List.filter_filter]
  congr 1
  refine List.filter_congr fun d _ => ?_
  simp [Bool.and_comm]

theorem flatMap_filter_eq {α β : Type} (p : α → Bool) (f : α → List β) (xs : List α) :
    (xs.filter p).flatMap f = xs.flatMap fun x => if p x then f x else [] := by
  induction xs with
  | nil => rfl
  | cons x xs ih => cases hx : p x <;> simp [hx, ih]

/-- What is found without some rules is what is found with all of them, less the findings in their
name. -/
theorem flatMap_found_leavingOut {cat : Catalog} (h : cat.ReportsOwnRules) (ids : List String)
    (root : Node) :
    ((cat.inspections ids root).flatMap fun i => i.1.found i.2)
      = ((cat.inspections [] root).flatMap fun i => i.1.found i.2).filter (keeps ids) := by
  rw [cat.inspections_eq_filter ids, flatMap_filter_eq, List.filter_flatMap]
  refine List.flatMap_congr fun i hi => ?_
  exact (filter_found h (Catalog.mem_inspections hi) ids i.2).symm

/-! ## §4 Analyses -/

/-- An engine whose settings leave out some rules. -/
def Engine.leavingOut (cat : Catalog) (s : Settings) (configured : List Value) : Engine :=
  (Engine.ofParts (some cat) (some { s with excluded := normalized configured })).1

theorem Engine.mem_skipped {cat : Catalog} {s : Settings} {configured requested : List Value}
    {id : String} :
    id ∈ (Engine.leavingOut cat s configured).skipped requested
      ↔ id ∈ (configured ++ requested).map ruleId := by
  have hsettings : (Engine.leavingOut cat s configured).settings.excluded = normalized configured := rfl
  rw [skipped, hsettings, mem_inOrder, List.mem_append, normalized, mem_inOrder, List.map_append,
    List.mem_append]

/-- The findings of a tree in the name of rules that are not left out, each once and in order. -/
def Catalog.reportWithout (cat : Catalog) (ids : List String) (root : Node) : Report :=
  Report.ofFindings ((cat.inspections ids root).flatMap fun i => i.1.found i.2)

/-- Without a signal an analysis always succeeds. -/
theorem Engine.analyze_leavingOut (cat : Catalog) (s : Settings) (configured requested : List Value)
    (root : Node) :
    ((Engine.leavingOut cat s configured).analyze root requested .absent).result
      = .ok (cat.reportWithout ((Engine.leavingOut cat s configured).skipped requested) root) := by
  obtain ⟨run, _, _, hexecute⟩ := execute_fresh
    ((Engine.leavingOut cat s configured).catalog.dispatch
      ((Engine.leavingOut cat s configured).skipped requested)) root
  rw [Catalog.inspections_dispatch] at hexecute
  exact congrArg Prod.snd hexecute

/-- Leaving out rules is leaving out findings. -/
theorem findings_reportWithout {cat : Catalog} (h : cat.ReportsOwnRules) (ids : List String)
    (root : Node) :
    (cat.reportWithout ids root).findings
      = (cat.reportWithout [] root).findings.filter (keeps ids) := by
  rw [Catalog.reportWithout, Catalog.reportWithout, flatMap_found_leavingOut h,
    Report.filter_ofFindings (keeps_eq_of_key ids)]

/-- An analysis that leaves out rules gives the report of all rules, less the findings in the name of
those that the settings or the caller leave out. -/
theorem Engine.analyze_eq_filter {cat : Catalog} (h : cat.ReportsOwnRules) (s : Settings)
    (configured requested : List Value) (root : Node) :
    ((Engine.leavingOut cat s configured).analyze root requested .absent).result
      = .ok ⟨(cat.reportWithout [] root).findings.filter
          fun f => f.rule ∉ (configured ++ requested).map ruleId⟩ := by
  have hfindings :=
    findings_reportWithout h ((Engine.leavingOut cat s configured).skipped requested) root
  have hkeeps : keeps ((Engine.leavingOut cat s configured).skipped requested)
      = fun f => decide (f.rule ∉ (configured ++ requested).map ruleId) := by
    funext f
    rw [keeps, List.contains_eq_mem, ← decide_not, decide_eq_decide, Engine.mem_skipped]
  rw [hkeeps] at hfindings
  rw [← hfindings]
  exact Engine.analyze_leavingOut cat s configured requested root

/-- All findings are in the name of rules of the catalog. -/
theorem rule_mem_ids {cat : Catalog} (h : cat.ReportsOwnRules) {ids : List String} {root : Node}
    {f : Finding} (hf : f ∈ (cat.reportWithout ids root).findings) : f.rule ∈ cat.ids := by
  obtain ⟨i, hi, hfound⟩ := List.mem_flatMap.1 (Report.mem_of_mem_ofFindings hf)
  have hd := Catalog.mem_inspections hi
  rw [h.rule_eq hd hfound]
  exact List.mem_map.2 ⟨i.1, hd, rfl⟩

/-! ## §5 Exit codes -/

theorem foldl_max_le_iff (ns : List Nat) (start n : Nat) :
    ns.foldl max start ≤ n ↔ start ≤ n ∧ ∀ m ∈ ns, m ≤ n := by
  induction ns generalizing start with
  | nil => simp
  | cons m ns ih =>
    rw [List.foldl_cons, ih, Nat.max_le, List.forall_mem_cons, and_assoc]

/-- The exit code is the rank of the worst finding. -/
theorem Report.exitCode_le_iff {r : Report} {n : Nat} :
    r.exitCode ≤ n ↔ ∀ f ∈ r.findings, f.severity.rank ≤ n := by
  rw [exitCode, foldl_max_le_iff, List.forall_mem_map]
  exact and_iff_right (Nat.zero_le n)

theorem Report.exitCode_le_of_sublist {r r' : Report} (h : r.findings.Sublist r'.findings) :
    r.exitCode ≤ r'.exitCode := by
  have hworst := exitCode_le_iff.1 (Nat.le_refl r'.exitCode)
  exact exitCode_le_iff.2 fun f hf => hworst f (h.subset hf)

/-! ## §6 The laws of leaving out -/

/-- Leaving out rules takes their findings out of the report that has all of them, and does nothing
else. So only the set of ids counts, blanks around them do not, ids of no rule have no effect, and
leaving out more rules adds no finding and does not raise the exit code. -/
theorem exclusion_filters_report (cat : Catalog) (hcat : cat.ReportsOwnRules) (s : Settings)
    (root : Node) :
    let result (configured requested : List Value) :=
      ((Engine.leavingOut cat s configured).analyze root requested .absent).result
    let leftOut (configured requested : List Value) := (configured ++ requested).map ruleId
    ∃ full : Report, result [] [] = .ok full ∧
      (∀ C X, result C X = .ok ⟨full.findings.filter fun f => f.rule ∉ leftOut C X⟩) ∧
      (∀ C X C' X', (∀ id, id ∈ leftOut C X ↔ id ∈ leftOut C' X') → result C X = result C' X') ∧
      (∀ C X C' X', List.Forall₂ Padded C C' → List.Forall₂ Padded X X' →
        result C X = result C' X') ∧
      (∀ C X C' X', (∀ v ∈ C' ++ X', ruleId v ∉ cat.ids) →
        result (C ++ C') (X ++ X') = result C X) ∧
      (∀ C X C' X', leftOut C X ⊆ leftOut C' X' →
        ∃ more fewer : Report, result C X = .ok more ∧ result C' X' = .ok fewer ∧
          fewer.findings.Sublist more.findings ∧ fewer.exitCode ≤ more.exitCode) := by
  intro result leftOut
  let full := cat.reportWithout [] root
  have hfilter : ∀ C X, result C X = .ok ⟨full.findings.filter fun f => f.rule ∉ leftOut C X⟩ :=
    fun C X => Engine.analyze_eq_filter hcat s C X root
  have hsame : ∀ C X C' X', (∀ id, id ∈ leftOut C X ↔ id ∈ leftOut C' X') →
      result C X = result C' X' := by
    intro C X C' X' h
    rw [hfilter, hfilter]
    simp only [h]
  refine ⟨full, ?_, hfilter, hsame, ?_, ?_, ?_⟩
  · rw [hfilter]
    simp [leftOut]
  · intro C X C' X' hC hX
    refine hsame C X C' X' fun id => ?_
    have hids : leftOut C' X' = leftOut C X := by
      simp only [leftOut, List.map_append, map_ruleId_eq_of_padded hC, map_ruleId_eq_of_padded hX]
    rw [hids]
  · intro C X C' X' hunknown
    rw [hfilter, hfilter]
    congr 2
    refine List.filter_congr fun f hf => decide_eq_decide.2 (not_congr ?_)
    -- The new ids are not those of a finding, since the rule of every finding is in the catalog.
    have hnew : f.rule ∉ (C' ++ X').map ruleId := by
      intro hmem
      obtain ⟨v, hv, hid⟩ := List.mem_map.1 hmem
      exact hunknown v hv (hid ▸ rule_mem_ids hcat hf)
    simp only [leftOut, List.map_append, List.mem_append, not_or] at hnew ⊢
    tauto
  · intro C X C' X' hsub
    refine ⟨_, _, hfilter C X, hfilter C' X', ?_⟩
    have hsublist : (full.findings.filter fun f => f.rule ∉ leftOut C' X').Sublist
        (full.findings.filter fun f => f.rule ∉ leftOut C X) := by
      refine List.monotone_filter_right _ fun f hf => ?_
      rw [decide_eq_true_eq] at hf ⊢
      exact fun hmem => hf (hsub hmem)
    exact ⟨hsublist, Report.exitCode_le_of_sublist hsublist⟩

/-- Two rules look at the same statements. The first one is left out by an id in small letters with
blanks around it, together with an id of no rule, and the findings of the other one are left. -/
theorem exclusion_of_first_of_two_rules :
    let cat : Catalog :=
      ⟨[Probe.reporting.detector (Probe.rule "R1" .warning [.returnStatement]),
        Probe.reporting.detector (Probe.rule "R2" .warning [.returnStatement])], false⟩
    let first : Node := ⟨.returnStatement, ⟨"a.cpp", 2, 1, 2, 9⟩, [], []⟩
    let second : Node := ⟨.returnStatement, ⟨"a.cpp", 3, 1, 3, 9⟩, [], []⟩
    let root : Node :=
      ⟨.compoundStatement, ⟨"a.cpp", 1, 1, 4, 1⟩, [], [("statements", first), ("statements", second)]⟩
    cat.ReportsOwnRules ∧ ∃ full rest : Report,
      ((Engine.leavingOut cat {} []).analyze root [] .absent).result = .ok full ∧
      ((Engine.leavingOut cat {} [.str " r1\t"]).analyze root [.str "R7"] .absent).result
        = .ok rest ∧
      full.findings.map (·.rule) = ["R1", "R2", "R1", "R2"] ∧
      rest.findings.map (·.rule) = ["R2", "R2"] := by
  intro cat first second root
  have hcat : cat.ReportsOwnRules := by
    intro d hd c findings hinspect f hf
    rcases List.mem_pair.1 hd with rfl | rfl <;> cases hinspect <;>
      exact ⟨c.node, _, List.mem_singleton.1 hf⟩
  obtain ⟨full, hfull, hfilter, _⟩ := exclusion_filters_report cat hcat {} root
  have hnone : (Engine.leavingOut cat {} []).skipped [] = [] :=
    List.eq_nil_iff_forall_not_mem.2 fun id hid => by simpa using Engine.mem_skipped.1 hid
  have hsorted : full.findings
      = keepFirst ((cat.inspections [] root).flatMap fun i => i.1.found i.2) := by
    have hreport := hfull.symm.trans (Engine.analyze_leavingOut cat {} [] [] root)
    rw [hnone] at hreport
    cases hreport
    have hordered : (keepFirst ((cat.inspections [] root).flatMap fun i => i.1.found i.2)).Pairwise
        (fun f g => f.precedes g) := by
      decide +kernel
    exact List.mergeSort_of_pairwise hordered
  have hids : ([.str " r1\t"] ++ [.str "R7"] : List Value).map ruleId = ["R1", "R7"] := by
    decide +kernel
  have hrest := hfilter [.str " r1\t"] [.str "R7"]
  simp only [hids, hsorted] at hrest
  refine ⟨hcat, full, _, hfull, hrest, ?_, by decide +kernel⟩
  rw [hsorted]
  decide +kernel

end CppIdioms
