import CppIdioms.Proofs.Deduplication

/-!
# Laws of reports

Of the findings with one key a report keeps the first, and its order is that of the keys. So a
report is determined by what is first of each key. This one fact is why merging the reports of
parts gives the report of the whole, and why the order in which findings arrive does not matter
where findings of one key are equal.

## Contents

* `firstOf`: the first finding of a key.
* `KeysTell`: findings of one key are equal.

## Main statements

* `Report.ofFindings_eq_of_firstOf`: reports with the same first finding of every key are equal.
* `Report.merge_ofFindings`: merging the reports of parts.
* `Report.ofFindings_eq_of_mem_iff`, `Report.ofFindings_eq_of_perm`: findings that arrive more than
  once or in another order.
* `Report.ofFindings_map`: findings that are mapped without upsetting their order.
-/

namespace CppIdioms

/-! ## §1 The first finding of a key -/

/-- The first finding of a key. -/
def firstOf (k : FindingKey) (fs : List Finding) : Option Finding := fs.find? (·.key == k)

/-- Findings of one key are equal: the key tells the severity too. -/
def KeysTell (fs : List Finding) : Prop := ∀ f ∈ fs, ∀ g ∈ fs, f.key = g.key → f = g

theorem keysTell_of_pairwise {fs : List Finding} (hfs : fs.Pairwise (·.key ≠ ·.key)) :
    KeysTell fs :=
  fun _ hf _ hg hkey => eq_of_key_eq hfs hf hg hkey

theorem firstOf_eq_some_iff {fs : List Finding} (hfs : KeysTell fs) {k : FindingKey} {f : Finding} :
    firstOf k fs = some f ↔ f ∈ fs ∧ f.key = k := by
  constructor
  · intro h
    exact ⟨List.mem_of_find?_eq_some h, by simpa using List.find?_some h⟩
  · rintro ⟨hf, hk⟩
    cases h : firstOf k fs with
    | none => simpa [hk] using List.find?_eq_none.1 h f hf
    | some g =>
      have hg : g.key = k := by simpa using List.find?_some h
      rw [hfs f hf g (List.mem_of_find?_eq_some h) (hk.trans hg.symm)]

theorem firstOf_keepFirst (k : FindingKey) (fs : List Finding) :
    firstOf k (keepFirst fs) = firstOf k fs := by
  induction fs with
  | nil => rfl
  | cons f fs ih =>
    unfold firstOf at ih ⊢
    rw [keepFirst, List.find?_cons, List.find?_cons]
    by_cases hk : f.key = k
    · simp [hk]
    · -- What `f` drops has another key than the one looked for.
      have hsame : (fun g : Finding => decide (decide (g.key ≠ f.key) = true ∧ (g.key == k) = true))
          = fun g => g.key == k := by
        funext g
        by_cases hg : g.key = k <;> simp [hg, Ne.symm hk]
      rw [beq_false_of_ne hk, List.find?_filter, hsame]
      exact ih

/-- A finding is kept if it is the first of its key. -/
theorem mem_keepFirst_iff {fs : List Finding} {f : Finding} :
    f ∈ keepFirst fs ↔ firstOf f.key fs = some f := by
  have hkeys := keysTell_of_pairwise (pairwise_keepFirst fs)
  rw [← firstOf_keepFirst, firstOf_eq_some_iff hkeys, and_iff_left rfl]

/-- A report answers for a key what the findings do that it was made of. -/
theorem Report.firstOf_ofFindings (k : FindingKey) (fs : List Finding) :
    firstOf k (Report.ofFindings fs).findings = firstOf k fs := by
  have hkept := keysTell_of_pairwise (pairwise_keepFirst fs)
  have hsorted : KeysTell (Report.ofFindings fs).findings := fun f hf g hg =>
    hkept f (List.mem_mergeSort.1 hf) g (List.mem_mergeSort.1 hg)
  refine Option.ext fun f => ?_
  rw [firstOf_eq_some_iff hsorted, ← firstOf_keepFirst k, firstOf_eq_some_iff hkept, ofFindings,
    List.mem_mergeSort]

/-! ## §2 What determines a report -/

/-- Reports with the same first finding of every key are equal. -/
theorem Report.ofFindings_eq_of_firstOf {fs gs : List Finding}
    (h : ∀ k, firstOf k fs = firstOf k gs) : Report.ofFindings fs = Report.ofFindings gs := by
  have hnodup : ∀ fs : List Finding, (keepFirst fs).Nodup := fun fs =>
    (pairwise_keepFirst fs).imp fun hne heq => hne (congrArg Finding.key heq)
  have hperm : (keepFirst fs).Perm (keepFirst gs) := by
    refine (List.perm_ext_iff_of_nodup (hnodup fs) (hnodup gs)).2 fun f => ?_
    rw [mem_keepFirst_iff, mem_keepFirst_iff, h]
  have hsorted := eq_mergeSort_of_perm (pairwise_mergeSort_precedes (keepFirst fs))
    ((List.mergeSort_perm _ _).trans hperm) (pairwise_keepFirst gs)
  exact congrArg Report.mk hsorted

/-- Merging the reports of parts gives the report of the whole, also where findings of one key
differ in their severities. -/
theorem Report.merge_ofFindings {α : Type} (parts : List α) (findings : α → List Finding) :
    Report.merge (parts.map fun part => Report.ofFindings (findings part))
      = Report.ofFindings (parts.flatMap findings) := by
  refine ofFindings_eq_of_firstOf fun k => ?_
  unfold firstOf
  rw [List.flatMap_map, List.find?_flatMap, List.find?_flatMap]
  exact congrArg (List.findSome? · parts) (funext fun part => firstOf_ofFindings k (findings part))

/-- Where keys tell findings apart, a report depends only on which findings arrive. -/
theorem Report.ofFindings_eq_of_mem_iff {fs gs : List Finding} (hfs : KeysTell fs)
    (h : ∀ f, f ∈ fs ↔ f ∈ gs) : Report.ofFindings fs = Report.ofFindings gs := by
  have hgs : KeysTell gs := fun f hf g hg => hfs f ((h f).2 hf) g ((h g).2 hg)
  refine ofFindings_eq_of_firstOf fun k => Option.ext fun f => ?_
  rw [firstOf_eq_some_iff hfs, firstOf_eq_some_iff hgs, h]

/-- Where keys tell findings apart, the order in which findings arrive does not matter. -/
theorem Report.ofFindings_eq_of_perm {fs gs : List Finding} (hfs : KeysTell fs)
    (hperm : fs.Perm gs) : Report.ofFindings fs = Report.ofFindings gs :=
  ofFindings_eq_of_mem_iff hfs fun _ => hperm.mem_iff

/-- Findings that are found in order stay as they are, each once. -/
theorem Report.findings_ofFindings {fs : List Finding}
    (h : (keepFirst fs).Pairwise fun f g => f.precedes g) :
    (Report.ofFindings fs).findings = keepFirst fs :=
  List.mergeSort_of_pairwise h

/-! ## §3 Mapped findings -/

theorem keepFirst_map {move : Finding → Finding}
    (hkey : ∀ f g, (move f).key = (move g).key ↔ f.key = g.key) (fs : List Finding) :
    keepFirst (fs.map move) = (keepFirst fs).map move := by
  induction fs with
  | nil => rfl
  | cons f fs ih =>
    rw [List.map_cons, keepFirst, keepFirst, List.map_cons, ih, List.filter_map]
    congr 3
    funext g
    simp [hkey]

/-- A map of findings that keeps keys apart and in order can be applied before or after the report
is made. -/
theorem Report.ofFindings_map {move : Finding → Finding}
    (hkey : ∀ f g, (move f).key = (move g).key ↔ f.key = g.key)
    (horder : ∀ f g, (move f).precedes (move g) = f.precedes g) (fs : List Finding) :
    Report.ofFindings (fs.map move) = ⟨(Report.ofFindings fs).findings.map move⟩ := by
  rw [ofFindings, keepFirst_map hkey, ofFindings, List.map_mergeSort]
  exact fun f _ g _ => (horder f g).symm

end CppIdioms
