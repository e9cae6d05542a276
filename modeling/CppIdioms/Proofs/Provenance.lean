import CppIdioms.Proofs.Counting
import CppIdioms.Proofs.ReportAlgebra

/-!
# Where findings come from

Every detector of the catalog reports in the name of its own rule, at a node of the tree that it was
shown: the node itself, or one that it reached by going down. So a finding of the report with all
rules leads back to a rule and to a node of a kind that the rule is about, and its severity is that
of the rule. What the exit code and the summary say about findings can then be said about rules.

## Contents

* `Within`, `Detector.ReportsBelow`: an inspection reports its rule, at nodes of a tree.

## Main statements

* `builtin_reportsBelow`: the rules of the catalog report below the nodes that they look at.
* `Engine.mem_forRule_iff`: what a report says in the name of a rule is what the detector finds.
* `Report.exitCode_eq_two_iff`, `Report.exitCode_eq_one_iff`: exit codes by severities.
* `findings_have_provenance`: the findings of the report with all rules, its exit code and its summary.
-/

namespace CppIdioms

open CppIdioms.Rules

/-! ## §1 Nodes of a tree -/

namespace Node

variable {n m : Node}

theorem self_mem_walk (n : Node) : n ∈ n.walk := by
  rw [walk_eq]
  exact List.mem_cons_self

theorem mem_walk_of_child {role : String} {c : Node} (hc : (role, c) ∈ n.children)
    (hm : m ∈ c.walk) : m ∈ n.walk := by
  rw [walk_eq]
  refine List.mem_cons_of_mem _ (List.mem_flatMap.2 ⟨c, ?_, hm⟩)
  exact List.mem_map.2 ⟨(role, c), hc, rfl⟩

theorem mem_walk_of_child? {role : String} {c : Node} (hc : n.child? role = some c)
    (hm : m ∈ c.walk) : m ∈ n.walk := by
  obtain ⟨⟨role', d⟩, hd, rfl⟩ := Option.map_eq_some_iff.1 hc
  exact mem_walk_of_child (List.mem_of_find?_eq_some hd) hm

theorem mem_walk_of_childrenOf {role : String} (hm : m ∈ n.childrenOf role) : m ∈ n.walk := by
  obtain ⟨⟨role', d⟩, hd, rfl⟩ := List.mem_map.1 hm
  exact mem_walk_of_child (List.mem_filter.1 hd).1 d.self_mem_walk

theorem mem_walk_of_onlyChild? {c : Node} (hc : n.onlyChild? = some c) (hm : m ∈ c.walk) :
    m ∈ n.walk := by
  unfold onlyChild? at hc
  split at hc
  · next role d hchildren =>
    cases hc
    exact mem_walk_of_child (hchildren ▸ List.mem_cons_self) hm
  · cases hc

theorem mem_walk_of_wrapped? {c : Node} (hc : n.wrapped? = some c) (hm : m ∈ c.walk) :
    m ∈ n.walk := by
  unfold wrapped? at hc
  split at hc
  · exact mem_walk_of_onlyChild? hc hm
  · cases hc

/-- The nodes of a part of a tree are nodes of the tree. -/
theorem mem_walk_trans {d : Node} (hd : d ∈ m.walk) (hm : m ∈ n.walk) : d ∈ n.walk := by
  induction hsize : n.size using Nat.strongRecOn generalizing n with
  | ind size ih =>
    rw [walk_eq] at hm
    rcases List.mem_cons.1 hm with rfl | hm
    · exact hd
    · obtain ⟨_, hmem, hm⟩ := List.mem_flatMap.1 hm
      obtain ⟨⟨role, c⟩, hc, rfl⟩ := List.mem_map.1 hmem
      exact mem_walk_of_child hc (ih c.size (hsize ▸ size_child_lt hc) hm rfl)

/-- What is inside wrappers is in the tree. -/
theorem peel_mem_walk (n : Node) : n.peel ∈ n.walk := by
  fun_induction peel n with
  | case1 n _ c hc ih => exact mem_walk_of_onlyChild? hc ih
  | case2 n => exact n.self_mem_walk
  | case3 n => exact n.self_mem_walk

theorem mem_walk_of_peeled? {role : String} (hm : n.peeled? role = some m) : m ∈ n.walk := by
  obtain ⟨c, hc, rfl⟩ := Option.map_eq_some_iff.1 hm
  exact mem_walk_of_child? hc c.peel_mem_walk

end Node

/-! ## §2 Inspections that stay in a tree -/

/-- What an inspection finds is in the name of a rule and at nodes of a tree. -/
def Within (rule : Rule) (n : Node) (x : Except Error (List Finding)) : Prop :=
  ∀ findings, x = .ok findings → ∀ f ∈ findings, ∃ m ∈ n.walk, ∃ message, f = rule.finding m message

section Within

variable {rule : Rule} {n m : Node} {x y : Except Error (List Finding)}

theorem Within.nil : Within rule n (.ok []) := by
  intro findings h f hf
  cases h
  cases hf

theorem Within.one (hm : m ∈ n.walk) (message : String) :
    Within rule n (.ok [rule.finding m message]) := by
  intro findings h f hf
  cases h
  exact ⟨m, hm, message, List.mem_singleton.1 hf⟩

theorem Within.cons (hm : m ∈ n.walk) (message : String) {rest : List Finding}
    (hrest : Within rule n (.ok rest)) : Within rule n (.ok (rule.finding m message :: rest)) := by
  intro findings h f hf
  cases h
  rcases List.mem_cons.1 hf with rfl | hf
  · exact ⟨m, hm, message, rfl⟩
  · exact hrest rest rfl f hf

theorem Within.ite {c : Prop} [Decidable c] (hx : Within rule n x) (hy : Within rule n y) :
    Within rule n (if c then x else y) := by
  split
  · exact hx
  · exact hy

/-- Nothing is found in a case that ends the inspection. -/
theorem Within.unless {c : Prop} [Decidable c] (hx : Within rule n x) :
    Within rule n (if c then .ok [] else x) :=
  .ite .nil hx

theorem Within.bind {α : Type} {f : α → Except Error (List Finding)} {z : Except Error α}
    (h : ∀ a, z = .ok a → Within rule n (f a)) : Within rule n (z >>= f) := by
  intro findings hfindings
  cases z with
  | error e => cases hfindings
  | ok a => exact h a rfl findings hfindings

end Within

/-- Wherever the detector inspects a node, it reports its rule at nodes of the tree below. -/
def Detector.ReportsBelow (d : Detector) : Prop :=
  ∀ c : Cursor, Within d.rule c.node (d.inspect c)

theorem Detector.ReportsBelow.of_mem_found {d : Detector} (h : d.ReportsBelow) {c : Cursor}
    {f : Finding} (hf : f ∈ d.found c) :
    ∃ m ∈ c.node.walk, ∃ message, f = d.rule.finding m message := by
  obtain ⟨findings, hinspect, hf⟩ := Detector.mem_found_iff.1 hf
  exact h c findings hinspect f hf

/-! ## §3 Rules that report the node itself -/

theorem namespaceImport_reportsBelow : namespaceImport.ReportsBelow :=
  fun c => .one c.node.self_mem_walk _

theorem unscopedEnum_reportsBelow : unscopedEnum.ReportsBelow := by
  intro c
  simp only [unscopedEnum]
  split
  · exact .nil
  · exact .unless (.one c.node.self_mem_walk _)

theorem macroConstant_reportsBelow : macroConstant.ReportsBelow := by
  intro c
  simp only [macroConstant]
  refine .unless ?_
  split
  · exact .nil
  · exact .one c.node.self_mem_walk _

theorem castStyle_reportsBelow : castStyle.ReportsBelow := by
  intro c
  refine .bind fun known _ => ?_
  cases known with
  | none => exact .nil
  | some t => exact .unless (.one c.node.self_mem_walk _)

theorem typedefAlias_reportsBelow : typedefAlias.ReportsBelow :=
  fun c => .unless (.bind fun _ _ => .one c.node.self_mem_walk _)

theorem rawArray_reportsBelow : rawArray.ReportsBelow :=
  fun c => .unless (.unless (.bind fun _ _ => .unless (.one c.node.self_mem_walk _)))

theorem constLocal_reportsBelow : constLocal.ReportsBelow := by
  intro c
  refine .unless (.unless (.bind fun known _ => ?_))
  cases known with
  | none => exact .nil
  | some t => exact .unless (.one c.node.self_mem_walk _)

theorem narrowingInit_reportsBelow : narrowingInit.ReportsBelow := by
  intro c
  refine .bind fun _ _ => .unless (.unless ?_)
  exact .bind fun _ _ => .bind fun _ _ => .one c.node.self_mem_walk _

theorem copiedParameter_reportsBelow (threshold : Value) :
    (copiedParameter threshold).ReportsBelow := by
  intro c
  refine .unless (.unless (.bind fun known _ => ?_))
  cases known with
  | none => exact .nil
  | some t => exact .unless (.bind fun _ _ => .unless (.one c.node.self_mem_walk _))

theorem rawOwnership_reportsBelow : rawOwnership.ReportsBelow := by
  intro c
  refine .ite (.one c.node.self_mem_walk _) (.unless ?_)
  exact .bind fun _ _ => .unless (.bind fun _ _ => .one c.node.self_mem_walk _)

theorem implicitConversion_reportsBelow : implicitConversion.ReportsBelow := by
  intro c
  simp only [implicitConversion]
  refine .unless ?_
  split
  · exact .nil
  · refine .bind fun known _ => ?_
    split
    · exact .nil
    · exact .bind fun _ _ => .unless (.unless (.one c.node.self_mem_walk _))

theorem discardedPostfix_reportsBelow : discardedPostfix.ReportsBelow := by
  intro c
  simp only [discardedPostfix]
  split
  · exact .nil
  · refine .bind fun known _ => ?_
    cases known with
    | none => exact .nil
    | some t =>
      exact .unless (.bind fun _ _ => .unless (.one c.node.self_mem_walk _))

theorem emptinessTest_reportsBelow : emptinessTest.ReportsBelow := by
  intro c
  refine .bind fun comparison _ => ?_
  cases comparison with
  | none => exact .nil
  | some comparison =>
    dsimp only
    split
    · exact .nil
    · refine .bind fun known _ => ?_
      cases known with
      | none => exact .nil
      | some t => exact .unless (.one c.node.self_mem_walk _)

theorem switchChain_reportsBelow (minBranches : Value) : (switchChain minBranches).ReportsBelow := by
  intro c
  simp only [switchChain]
  refine .unless ?_
  split
  · exact .nil
  · refine .bind fun _ _ => .unless (.bind fun subject _ => ?_)
    cases subject with
    | none => exact .nil
    | some subject => exact .bind fun _ _ => .ite (.one c.node.self_mem_walk _) .nil

/-! ## §4 Rules that report a node below -/

theorem flushingNewline_reportsBelow : flushingNewline.ReportsBelow := by
  intro c
  simp only [flushingNewline]
  split
  · next operand hoperand => exact .ite (.one (Node.mem_walk_of_peeled? hoperand) _) .nil
  · exact .nil

theorem copyingLoop_reportsBelow (threshold : Value) : (copyingLoop threshold).ReportsBelow := by
  intro c
  simp only [copyingLoop]
  split
  · exact .nil
  · next binding hbinding =>
    have hbelow : binding ∈ c.node.walk := Node.mem_walk_of_child? hbinding binding.self_mem_walk
    refine .unless (.bind fun known _ => ?_)
    cases known with
    | none => exact .nil
    | some t =>
      refine .unless (.bind fun _ _ => .unless ?_)
      split
      · exact .nil
      · exact .unless (.one hbelow _)

theorem signedIndex_reportsBelow : signedIndex.ReportsBelow := by
  intro c
  simp only [signedIndex]
  split
  · exact .nil
  · next index hindex =>
    refine .unless (.bind fun known _ => ?_)
    cases known with
    | none => exact .nil
    | some t =>
      exact .unless (.bind fun _ _ => .unless (.one (Node.mem_walk_of_peeled? hindex) _))

theorem nullFindings_within (callee : String) {n : Node} {arguments : List Node}
    (h : ∀ m ∈ arguments, m ∈ n.walk) (position : Nat) (parameters : List Value) :
    Within nullArgumentRule n (nullFindings callee position arguments parameters) := by
  induction arguments generalizing position parameters with
  | nil => exact .nil
  | cons m arguments ih =>
    obtain ⟨hm, harguments⟩ := List.forall_mem_cons.1 h
    cases parameters with
    | nil => exact .bind fun _ _ => ih harguments _ _
    | cons p parameters =>
      refine .bind fun _ _ => .ite ?_ (ih harguments _ _)
      refine .bind fun t _ => .bind fun rest hrest => ?_
      have hwithin : Within nullArgumentRule n (.ok rest) := hrest ▸ ih harguments _ _
      split
      · exact .cons hm _ hwithin
      · exact hwithin

theorem nullArgument_reportsBelow : nullArgument.ReportsBelow := by
  intro c
  refine .bind fun _ _ => .unless ?_
  split
  · split
    · exact nullFindings_within _ (fun _ => Node.mem_walk_of_childrenOf) _ _
    · exact .nil
  · exact .nil

/-- The rules of the catalog report in their own name, below the nodes that they look at. -/
theorem builtin_reportsBelow (s : Settings) : ∀ d ∈ builtinDetectors s, d.ReportsBelow := by
  simp only [builtinDetectors, List.forall_mem_cons, List.not_mem_nil, false_implies, implies_true,
    and_true]
  exact ⟨namespaceImport_reportsBelow, flushingNewline_reportsBelow, switchChain_reportsBelow _,
    discardedPostfix_reportsBelow, rawArray_reportsBelow, macroConstant_reportsBelow,
    copyingLoop_reportsBelow _, signedIndex_reportsBelow, nullArgument_reportsBelow,
    narrowingInit_reportsBelow, constLocal_reportsBelow, copiedParameter_reportsBelow _,
    castStyle_reportsBelow, rawOwnership_reportsBelow, typedefAlias_reportsBelow,
    unscopedEnum_reportsBelow, emptinessTest_reportsBelow, implicitConversion_reportsBelow⟩

/-! ## §5 Rules of the catalog -/

/-- The rules of the catalog look at the nodes that they are about. -/
theorem kinds_builtin (s : Settings) : ∀ d ∈ builtinDetectors s, d.kinds = d.rule.kinds :=
  List.map_inj_left.1 rfl

/-- There is one rule of the catalog whose violations are errors. -/
theorem severity_eq_error_builtin (s : Settings) {d : Detector} (hd : d ∈ builtinDetectors s) :
    d.rule.severity = .error ↔ d.rule.id = "R09" := by
  have hall : ∀ d ∈ builtinDetectors s,
      decide (d.rule.severity = .error) = decide (d.rule.id = "R09") :=
    List.map_inj_left.1 rfl
  exact decide_eq_decide.1 (hall d hd)

/-- The id of a rule of the catalog tells whether its violations are warnings. -/
theorem severity_eq_warning_builtin (s : Settings) {d : Detector} (hd : d ∈ builtinDetectors s) :
    d.rule.severity = .warning ↔
      ∃ d' ∈ builtinDetectors s, d.rule.id = d'.rule.id ∧ d'.rule.severity = .warning := by
  constructor
  · intro hseverity
    exact ⟨d, hd, rfl, hseverity⟩
  · rintro ⟨d', hd', hid, hseverity⟩
    have hsame : d = d' := List.inj_on_of_nodup_map (nodup_ids_builtin s) hd hd' hid
    rwa [hsame]

/-- A finding of the rules of the catalog leads back to one of them, to a node of the tree that it is
about, and to a node below. -/
theorem provenance_of_mem_foundBelow {made used : Settings} {requested : List Value} {root : Node}
    {f : Finding} (hf : f ∈ foundBelow (keptOfAll made used requested) [Cursor.root root]) :
    ∃ d ∈ builtinDetectors made, ∃ n ∈ root.walk, n.kind ∈ d.rule.kinds ∧
      ∃ m ∈ n.walk, ∃ message, f = d.rule.finding m message := by
  obtain ⟨d, hd, c, hc, hlooks, hfound⟩ := mem_foundBelow_iff.1 hf
  have hbuiltin : d ∈ builtinDetectors made := Catalog.mem_of_mem_kept hd
  refine ⟨d, hbuiltin, c.node, ?_, ?_, ?_⟩
  · rw [List.flatMap_singleton] at hc
    have hwalk := (Cursor.root root).map_node_preorder
    exact hwalk ▸ List.mem_map_of_mem hc
  · rw [← kinds_builtin made d hbuiltin]
    exact Detector.mem_kinds hlooks
  · exact (builtin_reportsBelow made d hbuiltin).of_mem_found hfound

theorem builtin_reportsOwnRules (s : Settings) : (Catalog.builtin s).ReportsOwnRules := by
  intro d hd c findings hinspect f hf
  obtain ⟨m, -, message, hfinding⟩ := builtin_reportsBelow s d hd c findings hinspect f hf
  exact ⟨m, message, hfinding⟩

/-- What a report says in the name of a rule that is not left out is what its detector finds at the nodes
that it looks at. -/
theorem Engine.mem_forRule_iff {e : Engine} (hown : e.catalog.ReportsOwnRules)
    (hids : e.catalog.ids.Nodup) {root : Node} {requested : List Value} {report : Report}
    (hreport : (e.analyze root requested .absent).result = .ok report) {d : Detector}
    (hd : d ∈ e.catalog.detectors) (hkept : d.rule.id ∉ e.skipped requested) {f : Finding} :
    f ∈ report.forRule d.rule.id ↔
      ∃ c ∈ (Cursor.root root).walk, d.looksAt c.node.kind ∧ f ∈ d.found c := by
  have hkeys := keysTell_foundBelow (hown.ownFindings (e.skipped requested))
    (Catalog.nodup_ids_kept hids _) [Cursor.root root]
  rw [Engine.eq_of_analyze hreport, Report.forRule, List.mem_filter,
    Report.mem_ofFindings_of_keysTell hkeys, mem_foundBelow_iff, List.flatMap_singleton,
    ← Cursor.walk_eq_preorder, beq_iff_eq]
  constructor
  · rintro ⟨⟨d', hd', c, hc, hlooks, hf⟩, hrule⟩
    have hmem := Catalog.mem_of_mem_kept hd'
    have hid : d'.rule.id = d.rule.id := (hown.rule_eq hmem hf).symm.trans hrule
    have hsame : d' = d := List.inj_on_of_nodup_map hids hmem hd hid
    exact ⟨c, hc, hsame ▸ hlooks, hsame ▸ hf⟩
  · rintro ⟨c, hc, hlooks, hf⟩
    have hmem : d ∈ e.catalog.kept (e.skipped requested) :=
      List.mem_filter.2 ⟨hd, by simpa using hkept⟩
    exact ⟨⟨d, hmem, c, hc, hlooks, hf⟩, hown.rule_eq hd hf⟩

/-- The same with all rules. -/
theorem mem_forRule_builtin_iff {made used : Settings} {requested : List Value} {root : Node}
    {report : Report}
    (hreport : ((Engine.withAllRules made used).analyze root requested .absent).result = .ok report)
    {d : Detector} (hd : d ∈ builtinDetectors made)
    (hkept : d.rule.id ∉ (Engine.withAllRules made used).skipped requested) {f : Finding} :
    f ∈ report.forRule d.rule.id ↔
      ∃ c ∈ (Cursor.root root).walk, d.looksAt c.node.kind ∧ f ∈ d.found c :=
  Engine.mem_forRule_iff (builtin_reportsOwnRules made) (nodup_ids_builtin made) hreport hd hkept

/-- Unless its rule is left out, what a detector finds at a node of the tree is in the report. -/
theorem subset_findings_builtin {made used : Settings} {requested : List Value} {root : Node}
    {report : Report}
    (hreport : ((Engine.withAllRules made used).analyze root requested .absent).result = .ok report)
    {d : Detector} (hd : d ∈ builtinDetectors made)
    (hkept : d.rule.id ∉ (Engine.withAllRules made used).skipped requested) {c : Cursor}
    (hc : c ∈ (Cursor.root root).walk) (hlooks : d.looksAt c.node.kind) {findings : List Finding}
    (hinspect : d.inspect c = .ok findings) : findings ⊆ report.findings := by
  intro f hf
  have hfound : f ∈ d.found c := Detector.mem_found_iff.2 ⟨findings, hinspect, hf⟩
  exact List.mem_of_mem_filter
    ((mem_forRule_builtin_iff hreport hd hkept).2 ⟨c, hc, hlooks, hfound⟩)

/-! ## §6 Exit codes -/

namespace Report

variable {r : Report}

theorem exitCode_le_two (r : Report) : r.exitCode ≤ 2 :=
  exitCode_le_iff.2 fun f _ => by cases f.severity <;> decide

theorem exitCode_le_one_iff : r.exitCode ≤ 1 ↔ ∀ f ∈ r.findings, f.severity ≠ .error := by
  rw [exitCode_le_iff]
  refine forall₂_congr fun f _ => ?_
  cases f.severity <;> decide

theorem exitCode_le_zero_iff : r.exitCode ≤ 0 ↔ ∀ f ∈ r.findings, f.severity = .info := by
  rw [exitCode_le_iff]
  refine forall₂_congr fun f _ => ?_
  cases f.severity <;> decide

/-- The exit code is two if there is an error. -/
theorem exitCode_eq_two_iff : r.exitCode = 2 ↔ ∃ f ∈ r.findings, f.severity = .error := by
  have hworst : r.exitCode = 2 ↔ ¬r.exitCode ≤ 1 := by
    have := r.exitCode_le_two
    omega
  rw [hworst, exitCode_le_one_iff]
  simp

/-- The exit code is one if there is no error, but a warning. -/
theorem exitCode_eq_one_iff : r.exitCode = 1 ↔
    (∀ f ∈ r.findings, f.severity ≠ .error) ∧ ∃ f ∈ r.findings, f.severity = .warning := by
  have hbetween : r.exitCode = 1 ↔ r.exitCode ≤ 1 ∧ ¬r.exitCode ≤ 0 := by omega
  rw [hbetween, exitCode_le_one_iff, exitCode_le_zero_iff]
  refine and_congr_right fun hnone => ?_
  constructor
  · intro hsome
    obtain ⟨f, hf, hinfo⟩ : ∃ f ∈ r.findings, f.severity ≠ .info := by simpa using hsome
    refine ⟨f, hf, ?_⟩
    cases hseverity : f.severity with
    | error => exact absurd hseverity (hnone f hf)
    | warning => rfl
    | info => exact absurd hseverity hinfo
  · rintro ⟨f, hf, hwarning⟩ hall
    simp [hall f hf] at hwarning

theorem passed_iff_error_summary (r : Report) : r.passed ↔ r.summary.error = 0 := by
  have herror : r.summary.error = r.count .error := r.count_summary .error
  rw [passed_iff, herror, count, List.countP_eq_zero]
  simp

end Report

/-! ## §7 The report with all rules -/

/-- Every finding of the report with all rules is in the name of one of the eighteen, with its
severity, at a node in the tree of a node that the rule is about. So the exit code is two if the rule
against null macros was violated, and one if it was not but a rule was whose violations are warnings.
The summary counts every finding once by its severity and once by its rule, and a report without
errors passes. -/
theorem findings_have_provenance (made used : Settings) (requested : List Value) (root : Node) :
    ∃ report, ((Engine.withAllRules made used).analyze root requested .absent).result = .ok report ∧
      (Catalog.builtin made).detectors.length = 18 ∧
      (∀ f ∈ report.findings, ∃ d ∈ (Catalog.builtin made).detectors,
        f.rule = d.rule.id ∧ f.severity = d.rule.severity ∧
        ∃ n ∈ root.walk, n.kind ∈ d.rule.kinds ∧ ∃ m ∈ n.walk, f.span = m.span) ∧
      (report.exitCode = 2 ↔ ∃ f ∈ report.findings, f.rule = "R09") ∧
      (report.exitCode = 1 ↔ (∀ f ∈ report.findings, f.rule ≠ "R09") ∧
        ∃ f ∈ report.findings, ∃ d ∈ (Catalog.builtin made).detectors,
          f.rule = d.rule.id ∧ d.rule.severity = .warning) ∧
      report.summary.total = report.findings.length ∧
      report.summary.total
        = report.summary.error + report.summary.warning + report.summary.info ∧
      report.summary.total = (report.summary.byRule.map (·.2)).sum ∧
      (report.passed ↔ report.summary.error = 0) := by
  let report := Report.ofFindings (foundBelow (keptOfAll made used requested) [Cursor.root root])
  have hprovenance : ∀ f ∈ report.findings, ∃ d ∈ builtinDetectors made,
      ∃ n ∈ root.walk, n.kind ∈ d.rule.kinds ∧ ∃ m ∈ n.walk, ∃ message,
        f = d.rule.finding m message := fun f hf =>
    provenance_of_mem_foundBelow (Report.mem_of_mem_ofFindings hf)
  have herror : ∀ f ∈ report.findings, (f.severity = .error ↔ f.rule = "R09") := by
    intro f hf
    obtain ⟨d, hd, _, _, _, _, _, _, rfl⟩ := hprovenance f hf
    exact severity_eq_error_builtin made hd
  have hwarning : ∀ f ∈ report.findings, (f.severity = .warning ↔
      ∃ d ∈ builtinDetectors made, f.rule = d.rule.id ∧ d.rule.severity = .warning) := by
    intro f hf
    obtain ⟨d, hd, _, _, _, _, _, _, rfl⟩ := hprovenance f hf
    exact severity_eq_warning_builtin made hd
  refine ⟨report, Engine.analyze_eq_foundBelow _ root requested, rfl, fun f hf => ?_, ?_, ?_,
    report.counts_summary.total, report.summary.total_eq, ?_, report.passed_iff_error_summary⟩
  · obtain ⟨d, hd, n, hn, hkind, m, hm, message, rfl⟩ := hprovenance f hf
    exact ⟨d, hd, rfl, rfl, n, hn, hkind, m, hm, rfl⟩
  · rw [Report.exitCode_eq_two_iff]
    exact exists_congr fun f => and_congr_right fun hf => herror f hf
  · rw [Report.exitCode_eq_one_iff]
    refine and_congr (forall₂_congr fun f hf => not_congr (herror f hf)) ?_
    exact exists_congr fun f => and_congr_right fun hf => hwarning f hf
  · rw [report.counts_summary.total, report.counts_summary.sum]

end CppIdioms
