import CppIdioms.Report.Collector

/-!
# Findings once each and in order

A collector compares every new finding with those it has; a report keeps the first finding of each
key of a list. Here both are shown to keep the same findings, and the order of a report is shown to
be determined by which findings are kept.

## Contents

* `keepFirst_concat`, `filter_keepFirst`: first findings as they arrive, and among some of them.
* `Finding.precedes_trans`, `Finding.precedes_total`, `Finding.key_eq_of_precedes`: the order of
  findings, which tells findings of different keys apart.
* `Collector.opened`: an open collector, by what it was given.

## Main statements

* `Report.filter_ofFindings`: leaving out findings by their keys commutes with making the report.
* `Collector.extend_opened`, `Collector.finalize_opened`: an open collector hands out the report of
  all it was given.
-/

namespace CppIdioms

/-! ## §1 First findings -/

theorem nodup_eraseDups {α : Type} [BEq α] [LawfulBEq α] (xs : List α) : xs.eraseDups.Nodup := by
  cases xs with
  | nil => simp
  | cons x xs =>
    rw [List.eraseDups_cons, List.nodup_cons]
    refine ⟨?_, nodup_eraseDups _⟩
    simp [List.mem_eraseDups]
termination_by xs.length
decreasing_by
  have hle := List.length_filter_le (fun y => !y == x) xs
  simp only [List.length_cons]
  omega

theorem any_key_keepFirst (fs : List Finding) (k : FindingKey) :
    (keepFirst fs).any (·.key == k) = fs.any (·.key == k) := by
  induction fs with
  | nil => rfl
  | cons f fs ih =>
    rw [keepFirst, List.any_cons, List.any_cons, ← ih]
    cases hk : f.key == k with
    | true => simp
    | false =>
      have hne : k ≠ f.key := fun h => by simp [h] at hk
      rw [Bool.false_or, Bool.false_or, List.any_filter]
      congr 1
      funext g
      by_cases hg : g.key = k <;> simp [hg, hne]

/-- A finding that arrives last is kept if its key is new. -/
theorem keepFirst_concat (fs : List Finding) (f : Finding) :
    keepFirst (fs ++ [f])
      = if fs.any (·.key == f.key) then keepFirst fs else keepFirst fs ++ [f] := by
  induction fs with
  | nil => rfl
  | cons g fs ih =>
    rw [List.cons_append, keepFirst, ih, List.any_cons]
    by_cases hg : g.key = f.key
    · -- The earlier finding of this key drops the new one, whether or not others did.
      cases fs.any (·.key == f.key) <;> simp [hg, keepFirst]
    · cases fs.any (·.key == f.key) with
      | true => simp [keepFirst]
      | false => simp [hg, keepFirst, Ne.symm hg]

/-- The findings kept have different keys. -/
theorem pairwise_keepFirst (fs : List Finding) : (keepFirst fs).Pairwise (·.key ≠ ·.key) := by
  induction fs with
  | nil => exact .nil
  | cons f fs ih =>
    rw [keepFirst, List.pairwise_cons]
    refine ⟨fun g hg => ?_, ih.filter _⟩
    simp only [ne_eq, decide_not, List.mem_filter, Bool.not_eq_true', decide_eq_false_iff_not] at hg
    exact Ne.symm hg.2

/-- Findings of different keys are all kept. -/
theorem keepFirst_of_pairwise {fs : List Finding} (h : fs.Pairwise (·.key ≠ ·.key)) :
    keepFirst fs = fs := by
  induction fs with
  | nil => rfl
  | cons f fs ih =>
    obtain ⟨hf, hfs⟩ := List.pairwise_cons.1 h
    rw [keepFirst, ih hfs, List.filter_eq_self.2 fun g hg => by simpa using (hf g hg).symm]

theorem mem_of_mem_keepFirst {fs : List Finding} {f : Finding} (h : f ∈ keepFirst fs) : f ∈ fs := by
  induction fs with
  | nil => cases h
  | cons g fs ih =>
    rw [keepFirst, List.mem_cons] at h
    rcases h with rfl | h
    · exact List.mem_cons_self
    · exact List.mem_cons_of_mem _ (ih (List.mem_filter.1 h).1)

/-- Leaving out findings by their keys does not change which of the others are kept. -/
theorem filter_keepFirst {p : Finding → Bool} (hp : ∀ f g, f.key = g.key → p f = p g)
    (fs : List Finding) : (keepFirst fs).filter p = keepFirst (fs.filter p) := by
  induction fs with
  | nil => rfl
  | cons f fs ih =>
    rw [keepFirst, List.filter_cons, List.filter_cons, List.filter_filter]
    cases hf : p f with
    | true =>
      rw [if_pos rfl, if_pos rfl, keepFirst, ← ih, List.filter_filter]
      simp only [Bool.and_comm]
    | false =>
      -- What has the key of `f` is left out with it, so that nothing else need be dropped.
      rw [if_neg (by simp), if_neg (by simp), ← ih]
      refine List.filter_congr fun g _ => ?_
      by_cases hg : g.key = f.key
      · simp [hp g f hg, hf]
      · simp [hg]

/-! ## §2 The order of findings -/

/-- The parts by which findings are compared, one after the other. -/
theorem Finding.compare_eq_compareLex : Finding.compare =
    compareLex (compareOn (·.span.file)) (compareLex (compareOn (·.span.line))
      (compareLex (compareOn (·.span.column)) (compareLex (compareOn (·.rule))
        (compareLex (compareOn (·.span.endLine)) (compareLex (compareOn (·.span.endColumn))
          (compareOn (·.message))))))) := rfl

instance : Std.TransCmp Finding.compare := by
  rw [Finding.compare_eq_compareLex]
  infer_instance

theorem Finding.precedes_trans (a b c : Finding) (hab : a.precedes b) (hbc : b.precedes c) :
    a.precedes c :=
  Std.TransCmp.isLE_trans hab hbc

theorem Finding.precedes_total (a b : Finding) : a.precedes b || b.precedes a := by
  have hswap : b.compare a = (a.compare b).swap := Std.OrientedCmp.eq_swap
  unfold precedes
  rw [hswap]
  cases a.compare b <;> rfl

/-- Findings that precede each other have the same key: the order looks at every part of it. -/
theorem Finding.key_eq_of_precedes {a b : Finding} (hab : a.precedes b) (hba : b.precedes a) :
    a.key = b.key := by
  have heq : a.compare b = .eq := Std.OrientedCmp.isLE_antisymm hab hba
  obtain ⟨_, ⟨_, _, _, _, _⟩, _, _⟩ := a
  obtain ⟨_, ⟨_, _, _, _, _⟩, _, _⟩ := b
  simp only [compare, Ordering.then_eq_eq, Std.LawfulEqOrd.compare_eq_iff_eq] at heq
  simp [key, heq]

/-- Where keys differ, findings of one key are one finding. -/
theorem eq_of_key_eq {fs : List Finding} (hfs : fs.Pairwise (·.key ≠ ·.key)) {a b : Finding}
    (ha : a ∈ fs) (hb : b ∈ fs) (h : a.key = b.key) : a = b := by
  have hsame : ∀ x ∈ fs, ∀ y ∈ fs, x.key = y.key → x = y :=
    List.Pairwise.forall_of_forall_of_flip (fun _ _ _ => rfl) (hfs.imp fun hne heq => absurd heq hne)
      (hfs.imp fun hne heq => absurd heq.symm hne)
  exact hsame a ha b hb h

theorem pairwise_mergeSort_precedes (fs : List Finding) :
    (fs.mergeSort Finding.precedes).Pairwise (fun a b => a.precedes b) :=
  List.pairwise_mergeSort Finding.precedes_trans Finding.precedes_total fs

/-- Findings of different keys can be put in order in one way only. -/
theorem eq_mergeSort_of_perm {gs fs : List Finding} (hgs : gs.Pairwise fun a b => a.precedes b)
    (hperm : gs.Perm fs) (hfs : fs.Pairwise (·.key ≠ ·.key)) :
    gs = fs.mergeSort Finding.precedes := by
  have hsame : ∀ a b : Finding, a ∈ gs → b ∈ fs.mergeSort Finding.precedes →
      a.precedes b → b.precedes a → a = b := by
    intro a b ha hb hab hba
    have ha' : a ∈ fs := hperm.mem_iff.1 ha
    have hb' : b ∈ fs := List.mem_mergeSort.1 hb
    exact eq_of_key_eq hfs ha' hb' (Finding.key_eq_of_precedes hab hba)
  exact (hperm.trans (List.mergeSort_perm _ _).symm).eq_of_pairwise hsame hgs
    (pairwise_mergeSort_precedes fs)

/-- Among findings of different keys, what is left of the sorted list is the sorted list of what is
left. -/
theorem filter_mergeSort_precedes {fs : List Finding} (hfs : fs.Pairwise (·.key ≠ ·.key))
    (p : Finding → Bool) :
    (fs.mergeSort Finding.precedes).filter p = (fs.filter p).mergeSort Finding.precedes :=
  eq_mergeSort_of_perm ((pairwise_mergeSort_precedes fs).filter p)
    ((List.mergeSort_perm _ _).filter p) (hfs.filter p)

/-- Leaving out findings by their keys commutes with making the report. -/
theorem Report.filter_ofFindings {p : Finding → Bool} (hp : ∀ f g, f.key = g.key → p f = p g)
    (fs : List Finding) :
    (Report.ofFindings fs).findings.filter p = (Report.ofFindings (fs.filter p)).findings := by
  rw [ofFindings, ofFindings, filter_mergeSort_precedes (pairwise_keepFirst fs), filter_keepFirst hp]

theorem Report.mem_of_mem_ofFindings {fs : List Finding} {f : Finding}
    (h : f ∈ (Report.ofFindings fs).findings) : f ∈ fs :=
  mem_of_mem_keepFirst (List.mem_mergeSort.1 h)

/-! ## §3 Open collectors -/

namespace Collector

/-- An open collector that holds the first findings of those it was given. -/
def opened (seen : List Finding) : Collector := ⟨keepFirst seen, false⟩

theorem add_opened (seen : List Finding) (f : Finding) :
    (opened seen).add f = .ok (!seen.any (·.key == f.key), opened (seen ++ [f])) := by
  simp only [add, opened, any_key_keepFirst, keepFirst_concat]
  cases seen.any (·.key == f.key) <;> rfl

/-- An open collector takes everything, holds the first findings of all it was given, and counts
those that are new. -/
theorem extend_opened (seen fs : List Finding) :
    ∃ n, (opened seen).extend fs = .ok (n, opened (seen ++ fs)) ∧
      (keepFirst seen).length + n = (keepFirst (seen ++ fs)).length := by
  induction fs generalizing seen with
  | nil => exact ⟨0, by simp [extend], by simp⟩
  | cons f fs ih =>
    obtain ⟨n, hextend, hlength⟩ := ih (seen ++ [f])
    rw [List.append_assoc, List.singleton_append] at hextend hlength
    refine ⟨n + (!seen.any (·.key == f.key)).toNat, ?_, ?_⟩
    · rw [extend, add_opened]
      simp only [hextend]
    · rw [← hlength, keepFirst_concat]
      cases seen.any (·.key == f.key) with
      | true => simp
      | false => simp; omega

/-- An open collector hands out the report of all it was given. -/
theorem finalize_opened (seen : List Finding) :
    (opened seen).finalize = .ok (Report.ofFindings seen, { opened seen with closed := true }) := rfl

end Collector

end CppIdioms
