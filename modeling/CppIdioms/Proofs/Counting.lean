import CppIdioms.Proofs.Deduplication
import CppIdioms.Report.Summary
import Mathlib.Algebra.GroupWithZero.Nat

/-!
# Counting findings

A summary is made one finding at a time. Here it is shown to hold the numbers of the findings that it
was made of, by severity and by rule, so that both ways of adding up its numbers give the number of
all findings.

## Contents

* `Summary.Counts`: the numbers of a summary are those of some findings.

## Main statements

* `Summary.Counts.increment`: one more finding.
* `Report.counts_summary`: the summary of a report counts its findings.
* `Report.count_summary`, `Report.rules_summary`: the numbers by severity and, in order, by rule.
-/

namespace CppIdioms

/-! ## §1 Tables of numbers -/

/-- Adding one for a key adds one to the sum. -/
theorem sum_upsert_succ (key : String) (table : List (String × Nat)) :
    ((upsert key (fun n => n.getD 0 + 1) table).map (·.2)).sum = (table.map (·.2)).sum + 1 := by
  induction table with
  | nil => simp [upsert]
  | cons entry rest ih =>
    obtain ⟨k, n⟩ := entry
    by_cases hk : k = key
    · simp [upsert, hk]
      omega
    · simp [upsert, hk, ih]
      omega

/-- In a table that holds a number for each of some keys, adding one for a key changes the number of
this key only; a new key starts from nothing. -/
theorem upsert_succ_map (key : String) (number : String → Nat) {keys : List String}
    (h : keys.Nodup) :
    upsert key (fun n => n.getD 0 + 1) (keys.map fun k => (k, number k))
      = if key ∈ keys then keys.map fun k => (k, number k + if k = key then 1 else 0)
        else (keys.map fun k => (k, number k)) ++ [(key, 1)] := by
  induction keys with
  | nil => simp [upsert]
  | cons k keys ih =>
    obtain ⟨hk, hkeys⟩ := List.nodup_cons.1 h
    by_cases hkey : k = key
    · subst hkey
      have hrest : ∀ k' ∈ keys, k' ≠ k := fun k' hk' heq => hk (heq ▸ hk')
      simp only [List.map_cons, upsert, beq_self_eq_true, if_true, List.mem_cons, true_or,
        Option.getD_some, List.cons.injEq, true_and]
      refine List.map_congr_left fun k' hk' => ?_
      simp [hrest k' hk']
    · rw [List.map_cons, upsert, if_neg (by simpa using hkey), ih hkeys]
      by_cases hmem : key ∈ keys <;> simp [hmem, hkey, Ne.symm hkey]

theorem eraseDups_concat (keys : List String) (key : String) :
    (keys ++ [key]).eraseDups
      = if key ∈ keys then keys.eraseDups else keys.eraseDups ++ [key] := by
  rw [List.eraseDups_append]
  by_cases hkey : key ∈ keys <;> simp [List.removeAll, hkey, List.eraseDups_cons]

theorem countP_rule_concat (fs : List Finding) (f : Finding) (rule : String) :
    (fs ++ [f]).countP (·.rule == rule)
      = fs.countP (·.rule == rule) + if rule = f.rule then 1 else 0 := by
  rw [List.countP_append, List.countP_singleton]
  by_cases heq : rule = f.rule
  · simp [heq]
  · simp [heq, Ne.symm heq]

/-- Adding one for the rule of a finding counts one more finding. -/
theorem upsert_succ_byRule (fs : List Finding) (f : Finding) :
    upsert f.rule (fun n => n.getD 0 + 1)
        ((fs.map (·.rule)).eraseDups.map fun rule => (rule, fs.countP (·.rule == rule)))
      = ((fs ++ [f]).map (·.rule)).eraseDups.map
          fun rule => (rule, (fs ++ [f]).countP (·.rule == rule)) := by
  rw [upsert_succ_map _ _ (nodup_eraseDups _), List.map_append, List.map_singleton,
    eraseDups_concat]
  simp only [List.mem_eraseDups, countP_rule_concat]
  by_cases hrule : f.rule ∈ fs.map (·.rule)
  · rw [if_pos hrule, if_pos hrule]
  · have hzero : fs.countP (·.rule == f.rule) = 0 := by
      refine List.countP_eq_zero.2 fun g hg => ?_
      have hne : g.rule ≠ f.rule := fun heq => hrule (List.mem_map.2 ⟨g, hg, heq⟩)
      simpa using hne
    rw [if_neg hrule, if_neg hrule, List.map_append, List.map_singleton, hzero, if_pos rfl]
    congr 1
    refine List.map_congr_left fun rule hmem => ?_
    have hne : rule ≠ f.rule := fun heq => hrule (heq ▸ List.mem_eraseDups.1 hmem)
    rw [if_neg hne, Nat.add_zero]

/-! ## §2 One more finding -/

namespace Summary

theorem total_eq (s : Summary) : s.total = s.error + s.warning + s.info := by
  simp [total, Severity.all, count]

/-- The numbers of a summary are those of some findings, and add up to the number of all. Its rules
stand in the order of their first findings. -/
structure Counts (s : Summary) (fs : List Finding) : Prop where
  severity : ∀ severity, s.count severity = fs.countP (·.severity == severity)
  rule : s.byRule = (fs.map (·.rule)).eraseDups.map fun rule => (rule, fs.countP (·.rule == rule))
  total : s.total = fs.length
  sum : (s.byRule.map (·.2)).sum = fs.length

theorem counts_nothing : Counts {} [] :=
  ⟨fun severity => by cases severity <;> rfl, rfl, rfl, rfl⟩

theorem count_increment (s : Summary) (f : Finding) (severity : Severity) :
    (s.increment f).count severity
      = s.count severity + if f.severity == severity then 1 else 0 := by
  unfold increment
  cases hf : f.severity <;> cases severity <;> rfl

theorem total_increment (s : Summary) (f : Finding) : (s.increment f).total = s.total + 1 := by
  rw [total_eq, total_eq]
  unfold increment
  cases f.severity <;> simp only <;> omega

theorem byRule_increment (s : Summary) (f : Finding) :
    (s.increment f).byRule = upsert f.rule (fun n => n.getD 0 + 1) s.byRule := by
  unfold increment
  cases f.severity <;> rfl

/-- One more finding is counted once by its severity and once by its rule. -/
theorem Counts.increment {s : Summary} {fs : List Finding} (h : s.Counts fs) (f : Finding) :
    (s.increment f).Counts (fs ++ [f]) := by
  refine ⟨fun severity => ?_, ?_, ?_, ?_⟩
  · rw [count_increment, h.severity, List.countP_append, List.countP_singleton]
  · rw [byRule_increment, h.rule, upsert_succ_byRule]
  · rw [total_increment, h.total, List.length_append, List.length_singleton]
  · rw [byRule_increment, sum_upsert_succ, h.sum, List.length_append, List.length_singleton]

theorem Counts.foldl {s : Summary} {before : List Finding} (h : s.Counts before)
    (fs : List Finding) : (fs.foldl Summary.increment s).Counts (before ++ fs) := by
  induction fs generalizing s before with
  | nil => rwa [List.append_nil]
  | cons f fs ih =>
    have hrest := ih (h.increment f)
    rwa [List.append_assoc, List.singleton_append] at hrest

end Summary

/-! ## §3 The summary of a report -/

namespace Report

/-- The summary of a report counts its findings. -/
theorem counts_summary (r : Report) : r.summary.Counts r.findings :=
  Summary.counts_nothing.foldl r.findings

/-- The numbers by severity are those that are read off the findings. -/
theorem count_summary (r : Report) (severity : Severity) :
    r.summary.count severity = r.count severity :=
  r.counts_summary.severity severity

/-- In order, the numbers by rule are those that are read off the findings. -/
theorem rules_summary (r : Report) : r.summary.rules = r.byRule := by
  rw [Summary.rules, r.counts_summary.rule, byRule, ← List.map_mergeSort]
  exact fun _ _ _ _ => rfl

end Report

end CppIdioms
