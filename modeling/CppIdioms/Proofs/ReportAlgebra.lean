import CppIdioms.Proofs.Correspondence

/-!
# The algebra of reports

There are two ways to make a report: a collector takes findings one by one, and `Report.ofFindings`
takes a whole list. They agree, and what they make is described by the list alone: the first finding
of each key, in strict order. Merging reports is an associative operation with a unit in which
repetitions do not count; where the rule of a finding tells its severity, the order does not count
either, and the exit code of a merged report is that of the worst report in it.

## Contents

* `FirstAmong`: the first finding of its key in a list.
* `Collector.addAll`: findings added one by one.
* `SeverityByRule`: the rule of a finding tells its severity.

## Main statements

* `Report.mem_ofFindings_iff`, `Report.pairwise_ofFindings`: what is in a report, and its order.
* `collector_report_eq_ofFindings`: both ways of making a report.
* `Report.merge_append`, `Report.merge_singleton`, `Report.merge_repeated`, `Report.exitCode_merge`:
  the laws of merging one by one.
* `merge_laws`: the laws of merging together.
-/

namespace CppIdioms

/-! ## §1 First findings -/

/-- The finding is in the list, and no finding before it has its key. -/
def FirstAmong (fs : List Finding) (f : Finding) : Prop :=
  ∃ before after, fs = before ++ f :: after ∧ ∀ g ∈ before, g.key ≠ f.key

theorem firstAmong_iff {fs : List Finding} {f : Finding} :
    FirstAmong fs f ↔ firstOf f.key fs = some f := by
  unfold FirstAmong firstOf
  rw [List.find?_eq_some_iff_append]
  simp

/-- The order of findings is strict exactly where keys differ. -/
theorem Finding.compare_eq_lt_iff {f g : Finding} (h : f.precedes g) :
    f.compare g = .lt ↔ f.key ≠ g.key := by
  constructor
  · intro hlt hkey
    obtain ⟨_, ⟨_, _, _, _, _⟩, _, _⟩ := f
    obtain ⟨_, ⟨_, _, _, _, _⟩, _, _⟩ := g
    simp only [key, FindingKey.mk.injEq, Span.mk.injEq] at hkey
    simp [compare, hkey] at hlt
  · intro hne
    unfold precedes at h
    cases hcompare : f.compare g with
    | lt => rfl
    | gt => rw [hcompare] at h; cases h
    | eq =>
      have hswap : g.compare f = .eq := Std.OrientedCmp.eq_comm.1 hcompare
      exact absurd (key_eq_of_precedes h (by rw [precedes, hswap]; rfl)) hne

namespace Report

/-- A report holds the first finding of each key. -/
theorem mem_ofFindings_iff {fs : List Finding} {f : Finding} :
    f ∈ (ofFindings fs).findings ↔ FirstAmong fs f := by
  rw [firstAmong_iff, ← mem_keepFirst_iff, ofFindings, List.mem_mergeSort]

theorem keys_ofFindings (fs : List Finding) :
    (ofFindings fs).findings.Pairwise (·.key ≠ ·.key) :=
  (List.mergeSort_perm _ _).symm.pairwise (pairwise_keepFirst fs) fun h => Ne.symm h

/-- The findings of a report are in strict order. -/
theorem pairwise_ofFindings (fs : List Finding) :
    (ofFindings fs).findings.Pairwise fun f g => f.compare g = .lt := by
  have hordered := pairwise_mergeSort_precedes (keepFirst fs)
  exact hordered.imp₂ (fun _ _ hle hne => (Finding.compare_eq_lt_iff hle).2 hne)
    (keys_ofFindings fs)

/-- Where keys tell findings, a report holds every finding that it was made of. -/
theorem mem_ofFindings_of_keysTell {fs : List Finding} (hfs : KeysTell fs) {f : Finding} :
    f ∈ (ofFindings fs).findings ↔ f ∈ fs := by
  rw [mem_ofFindings_iff, firstAmong_iff, firstOf_eq_some_iff hfs, and_iff_left rfl]

/-- Findings in strict order are a report already. -/
theorem ofFindings_of_pairwise {fs : List Finding}
    (h : fs.Pairwise fun f g => f.compare g = .lt) : ofFindings fs = ⟨fs⟩ := by
  have hle : fs.Pairwise fun f g => f.precedes g := by
    refine h.imp fun hlt => ?_
    rw [Finding.precedes, hlt]
    rfl
  have hkeys : fs.Pairwise (·.key ≠ ·.key) :=
    hle.imp₂ (fun _ _ hle hlt => (Finding.compare_eq_lt_iff hle).1 hlt) h
  have hkept : keepFirst fs = fs := keepFirst_of_pairwise hkeys
  rw [ofFindings, hkept, List.mergeSort_of_pairwise hle]

end Report

/-- Findings of one key are one finding, if they are of one severity. -/
theorem keysTell_of_severity {fs : List Finding}
    (h : ∀ f ∈ fs, ∀ g ∈ fs, f.key = g.key → f.severity = g.severity) : KeysTell fs := by
  intro f hf g hg hkey
  have hseverity := h f hf g hg hkey
  obtain ⟨_, _, _, _⟩ := f
  obtain ⟨_, _, _, _⟩ := g
  simp only [Finding.key, FindingKey.mk.injEq] at hkey hseverity
  simp [hkey, hseverity]

/-! ## §2 Findings one by one -/

namespace Collector

/-- Add findings one by one. -/
def addAll (c : Collector) (fs : List Finding) : Except Error Collector :=
  fs.foldlM (fun c f => (c.add f).map (·.2)) c

theorem addAll_opened (seen fs : List Finding) :
    (opened seen).addAll fs = .ok (opened (seen ++ fs)) := by
  unfold addAll
  induction fs generalizing seen with
  | nil => rw [List.foldlM_nil, List.append_nil]; rfl
  | cons f fs ih =>
    have hrest := ih (seen ++ [f])
    rw [List.append_assoc, List.singleton_append] at hrest
    rw [List.foldlM_cons, add_opened]
    exact hrest

end Collector

/-- A collector that takes findings one by one hands out the report of the whole list. The report
holds one finding of each key, the first one, and is in strict order. Adding a finding says whether
it is the first of its key, and adding many counts those that are. If findings of one key are of one
severity, the order in which findings arrive does not matter. -/
theorem collector_report_eq_ofFindings (fs : List Finding) :
    let report := Report.ofFindings fs
    (∃ c, Collector.addAll {} fs = .ok c ∧
      c.finalize = .ok (report, { c with closed := true }) ∧
      Collector.extend {} fs = .ok (report.findings.length, c)) ∧
    (∀ f, f ∈ report.findings ↔ FirstAmong fs f) ∧
    (∀ f ∈ fs, ∃! g, g ∈ report.findings ∧ g.key = f.key) ∧
    report.findings.Pairwise (fun f g => f.compare g = .lt) ∧
    (∀ before f after, fs = before ++ f :: after → ∃ c c', Collector.addAll {} before = .ok c ∧
      c.add f = .ok (decide (∀ g ∈ before, g.key ≠ f.key), c')) ∧
    (∀ gs, gs.Perm fs → (∀ f ∈ fs, ∀ g ∈ fs, f.key = g.key → f.severity = g.severity) →
      Report.ofFindings gs = report) := by
  intro report
  have hfresh : ({} : Collector) = .opened [] := rfl
  rw [hfresh]
  refine ⟨⟨.opened fs, ?_, rfl, ?_⟩, fun f => Report.mem_ofFindings_iff, ?_,
    Report.pairwise_ofFindings fs, ?_, ?_⟩
  · exact Collector.addAll_opened [] fs
  · obtain ⟨n, hextend, hlength⟩ := Collector.extend_opened [] fs
    have hcount : report.findings.length = n := by
      rw [← Nat.zero_add n]
      exact (List.length_mergeSort _).trans hlength.symm
    rw [hextend, hcount]
    rfl
  · intro f hf
    have hsome : (firstOf f.key fs).isSome := List.find?_isSome.2 ⟨f, hf, by simp⟩
    obtain ⟨g, hg⟩ := Option.isSome_iff_exists.1 hsome
    have hkey : g.key = f.key := by simpa using List.find?_some hg
    refine ⟨g, ⟨?_, hkey⟩, ?_⟩
    · rw [Report.mem_ofFindings_iff, firstAmong_iff, hkey, hg]
    · rintro h ⟨hmem, hsame⟩
      rw [Report.mem_ofFindings_iff, firstAmong_iff, hsame, hg] at hmem
      exact (Option.some.inj hmem).symm
  · intro before f after _
    refine ⟨.opened before, .opened (before ++ [f]), Collector.addAll_opened [] before, ?_⟩
    have hnew : (!before.any (·.key == f.key)) = decide (∀ g ∈ before, g.key ≠ f.key) := by
      rw [Bool.eq_iff_iff]
      simp
    rw [Collector.add_opened, hnew]
  · intro gs hperm hseverity
    exact (Report.ofFindings_eq_of_perm (keysTell_of_severity hseverity) hperm.symm).symm

/-- Three findings arrive, the last one with the key of the first and another severity. The report
holds two of them in order, and keeps the first severity; without the third one the order of the
other two does not matter. -/
theorem collector_of_three_findings :
    let first : Finding := ⟨"R1", ⟨"a.cpp", 2, 1, 2, 5⟩, "no", .warning⟩
    let second : Finding := ⟨"R1", ⟨"a.cpp", 1, 1, 1, 5⟩, "no", .warning⟩
    let again : Finding := { first with severity := .error }
    (∃ c, Collector.addAll {} [first, second, again] = .ok c ∧
      c.finalize = .ok (⟨[second, first]⟩, { c with closed := true }) ∧
      Collector.extend {} [first, second, again] = .ok (2, c)) ∧
    Report.ofFindings [second, first] = Report.ofFindings [first, second] := by
  intro first second again
  obtain ⟨⟨c, hadd, hfinalize, hextend⟩, _⟩ := collector_report_eq_ofFindings [first, second, again]
  obtain ⟨_, _, _, _, _, hperm⟩ := collector_report_eq_ofFindings [first, second]
  have hreport : Report.ofFindings [first, second, again] = ⟨[second, first]⟩ :=
    congrArg Report.mk (eq_mergeSort_of_perm (by decide +kernel) (.swap _ _ _) (by decide)).symm
  rw [hreport] at hfinalize hextend
  exact ⟨⟨c, hadd, hfinalize, hextend⟩, hperm _ (.swap _ _ _) (by decide)⟩

/-! ## §3 Merging -/

/-- The rule of a finding tells its severity. -/
def SeverityByRule (fs : List Finding) : Prop :=
  ∃ severity : String → Severity, ∀ f ∈ fs, f.severity = severity f.rule

theorem SeverityByRule.keysTell {fs : List Finding} (h : SeverityByRule fs) : KeysTell fs := by
  obtain ⟨severity, hseverity⟩ := h
  refine keysTell_of_severity fun f hf g hg hkey => ?_
  have hrule : f.rule = g.rule := congrArg FindingKey.rule hkey
  rw [hseverity f hf, hseverity g hg, hrule]

theorem firstOf_append (k : FindingKey) (fs gs : List Finding) :
    firstOf k (fs ++ gs) = (firstOf k fs).or (firstOf k gs) :=
  List.find?_append

namespace Report

/-- Merging in parts. -/
theorem merge_append (rs ss : List Report) : merge (rs ++ ss) = merge [merge rs, merge ss] := by
  have hparts := merge_ofFindings [rs, ss] fun part => part.flatMap (·.findings)
  rw [List.flatMap_cons, List.flatMap_singleton, ← List.flatMap_append] at hparts
  exact hparts.symm

/-- A report that is in strict order stays as it is. -/
theorem merge_singleton {r : Report} (h : r.findings.Pairwise fun f g => f.compare g = .lt) :
    merge [r] = r := by
  rw [merge, List.flatMap_singleton, ofFindings_of_pairwise h]

theorem merge_empty (rs ss : List Report) : merge (rs ++ ⟨[]⟩ :: ss) = merge (rs ++ ss) := by
  rw [merge, List.flatMap_append, List.flatMap_cons, List.nil_append, ← List.flatMap_append, merge]

/-- A report that comes again adds nothing. -/
theorem merge_repeated (rs ss ts : List Report) (r : Report) :
    merge (rs ++ r :: ss ++ r :: ts) = merge (rs ++ r :: ss ++ ts) := by
  refine ofFindings_eq_of_firstOf fun k => ?_
  simp only [List.flatMap_append, List.flatMap_cons, firstOf_append]
  -- A key that `r` answers for is answered for by the time that it comes again.
  cases firstOf k r.findings with
  | none => simp
  | some f => simp

variable {rs : List Report}

/-- Where the rule tells the severity, no finding is lost to one of another severity. -/
theorem forall_mem_merge (h : SeverityByRule (rs.flatMap (·.findings))) {p : Finding → Prop} :
    (∀ f ∈ (merge rs).findings, p f) ↔ ∀ r ∈ rs, ∀ f ∈ r.findings, p f := by
  simp only [merge, mem_ofFindings_of_keysTell h.keysTell, List.mem_flatMap]
  exact ⟨fun hall r hr f hf => hall f ⟨r, hr, hf⟩, fun hall f ⟨r, hr, hf⟩ => hall r hr f hf⟩

theorem merge_perm (h : SeverityByRule (rs.flatMap (·.findings))) {ss : List Report}
    (hperm : ss.Perm rs) : merge ss = merge rs :=
  (ofFindings_eq_of_perm h.keysTell (hperm.symm.flatMap_right _)).symm

/-- The exit code of a merged report is the worst one in it. -/
theorem exitCode_merge (h : SeverityByRule (rs.flatMap (·.findings))) :
    (merge rs).exitCode = (rs.map exitCode).foldl max 0 := by
  have hbound : ∀ n, (merge rs).exitCode ≤ n ↔ (rs.map exitCode).foldl max 0 ≤ n := by
    intro n
    rw [foldl_max_le_iff, and_iff_right (Nat.zero_le n), List.forall_mem_map, exitCode_le_iff]
    simp only [exitCode_le_iff]
    exact forall_mem_merge h
  exact Nat.le_antisymm ((hbound _).2 (Nat.le_refl _)) ((hbound _).1 (Nat.le_refl _))

theorem passed_iff {r : Report} : r.passed ↔ ∀ f ∈ r.findings, f.severity ≠ .error := by
  simp [passed]

/-- A merged report passes if every report in it does. -/
theorem passed_merge (h : SeverityByRule (rs.flatMap (·.findings))) :
    (merge rs).passed ↔ ∀ r ∈ rs, r.passed := by
  simp only [passed_iff]
  exact forall_mem_merge h

end Report

/-- Within one catalog the rule tells the severity, whatever is left out and in whichever tree. -/
theorem Catalog.exists_severity {cat : Catalog} (hown : cat.ReportsOwnRules)
    (hids : cat.ids.Nodup) : ∃ severity : String → Severity, ∀ ids root,
      ∀ f ∈ (cat.reportWithout ids root).findings, f.severity = severity f.rule := by
  refine ⟨fun id => ((cat.get? id).map (·.rule.severity)).getD .info, fun ids root f hf => ?_⟩
  rw [cat.reportWithout_eq] at hf
  obtain ⟨d, hd, c, hlooks, hfound⟩ := mem_foundBelow (Report.mem_of_mem_ofFindings hf)
  obtain ⟨n, message, rfl⟩ := hown.ownFindings ids d hd c hlooks f hfound
  have hmem : d ∈ cat.detectors := Catalog.mem_of_mem_kept hd
  have hget : cat.get? d.rule.id = some d := by
    cases hfind : cat.get? d.rule.id with
    | none => simpa using List.find?_eq_none.1 hfind d hmem
    | some d' =>
      have hid : d'.rule.id = d.rule.id := by simpa using List.find?_some hfind
      rw [List.inj_on_of_nodup_map hids (List.mem_of_find?_eq_some hfind) hmem hid]
  simp [Rule.finding, hget]

/-- Merging is associative, also where findings of one key differ in their severities; a report in
strict order stays as it is; an empty report and one that comes again add nothing. Where the rule of
a finding tells its severity, which it does in the reports of one catalog, the order of the reports
does not matter, the exit code is the worst one, and a merged report passes if all of them do. -/
theorem merge_laws :
    (∀ rs ss, Report.merge (rs ++ ss) = Report.merge [Report.merge rs, Report.merge ss]) ∧
    (∀ r : Report, r.findings.Pairwise (fun f g => f.compare g = .lt) → Report.merge [r] = r) ∧
    (∀ rs ss, Report.merge (rs ++ ⟨[]⟩ :: ss) = Report.merge (rs ++ ss)) ∧
    (∀ rs r ss ts, Report.merge (rs ++ r :: ss ++ r :: ts) = Report.merge (rs ++ r :: ss ++ ts)) ∧
    (∀ rs : List Report, SeverityByRule (rs.flatMap (·.findings)) →
      (∀ ss, ss.Perm rs → Report.merge ss = Report.merge rs) ∧
      (Report.merge rs).exitCode = (rs.map Report.exitCode).foldl max 0 ∧
      ((Report.merge rs).passed ↔ ∀ r ∈ rs, r.passed)) ∧
    (∀ e : Engine, e.catalog.ReportsOwnRules → e.catalog.ids.Nodup → ∀ rs : List Report,
      (∀ r ∈ rs, ∃ root requested, (e.analyze root requested .absent).result = .ok r) →
      SeverityByRule (rs.flatMap (·.findings))) := by
  refine ⟨Report.merge_append, fun r => Report.merge_singleton, Report.merge_empty,
    fun rs r ss ts => Report.merge_repeated rs ss ts r, ?_, ?_⟩
  · intro rs h
    exact ⟨fun ss => Report.merge_perm h, Report.exitCode_merge h, Report.passed_merge h⟩
  · intro e hown hids rs hrs
    obtain ⟨severity, hseverity⟩ := Catalog.exists_severity hown hids
    refine ⟨severity, fun f hf => ?_⟩
    obtain ⟨r, hr, hf⟩ := List.mem_flatMap.1 hf
    obtain ⟨root, requested, hanalyze⟩ := hrs r hr
    rw [Engine.eq_of_analyze hanalyze, ← Catalog.reportWithout_eq] at hf
    exact hseverity _ root f hf

/-- Two reports with one finding each, an error and a warning, and the error once more as a warning.
Merging the first two gives the exit code two in either order. With the third one the order counts,
but not how the merging is split. -/
theorem merge_of_three_reports :
    let wrong : Finding := ⟨"R1", ⟨"a.cpp", 1, 1, 1, 5⟩, "no", .error⟩
    let other : Finding := ⟨"R2", ⟨"a.cpp", 1, 1, 1, 5⟩, "no", .warning⟩
    let milder : Finding := { wrong with severity := .warning }
    (Report.merge [⟨[wrong]⟩, ⟨[other]⟩]).exitCode = 2 ∧
    Report.merge [⟨[other]⟩, ⟨[wrong]⟩] = Report.merge [⟨[wrong]⟩, ⟨[other]⟩] ∧
    ¬ (Report.merge [⟨[wrong]⟩, ⟨[other]⟩]).passed ∧
    Report.merge [⟨[milder]⟩, ⟨[other]⟩, ⟨[wrong]⟩]
      = Report.merge [Report.merge [⟨[milder]⟩], Report.merge [⟨[other]⟩, ⟨[wrong]⟩]] ∧
    Report.merge [⟨[wrong]⟩] ≠ Report.merge [⟨[milder]⟩] := by
  intro wrong other milder
  obtain ⟨happend, hsingle, _, _, hordered, _⟩ := merge_laws
  have hseverity : SeverityByRule ([⟨[wrong]⟩, ⟨[other]⟩].flatMap Report.findings) :=
    ⟨fun rule => if rule = "R1" then .error else .warning, by decide⟩
  obtain ⟨hperm, hcode, hpassed⟩ := hordered [⟨[wrong]⟩, ⟨[other]⟩] hseverity
  refine ⟨hcode, hperm _ (.swap _ _ _), ?_, happend [⟨[milder]⟩] _, ?_⟩
  · rw [hpassed]
    decide
  · rw [hsingle ⟨[wrong]⟩ (List.pairwise_singleton _ _),
      hsingle ⟨[milder]⟩ (List.pairwise_singleton _ _)]
    decide

end CppIdioms
