import CppIdioms.Proofs.Exclusion
import CppIdioms.Proofs.Insensitivity
import CppIdioms.Proofs.ReportLaws
import Mathlib.Data.List.Nodup

/-!
# What alike trees report

Detectors that are insensitive find the same in alike trees. This is shown once, along the pending
cursors of a walk, and for any list of detectors that are not about parentheses. An analysis is then
read as what the kept detectors find below the root.

## Contents

* `Finding.moved`: a finding at another place.
* `foundAt`, `foundBelow`: what detectors find at a cursor, and in the trees below some cursors.
* `Cursor.Alike`: cursors at alike trees that hang alike.
* `Catalog.kept`, `Engine.withAllRules`: the detectors that are not left out, and an engine with all
  rules.

## Main statements

* `foundBelow_alike`: insensitive detectors find the same in alike trees.
* `Engine.analyze_eq_foundBelow`: an analysis gives the report of what is found below the root.
* `Engine.analyze_alike`: analyses of alike trees with all rules.
* `keysTell_foundBelow`: where each id is taken once, the key of a finding tells its severity.
-/

namespace CppIdioms

/-! ## §1 Findings below cursors -/

/-- The finding at another place. -/
def Finding.moved (move : Span → Span) (f : Finding) : Finding := { f with span := move f.span }

/-- What detectors find at a cursor. -/
def foundAt (ds : List Detector) (c : Cursor) : List Finding :=
  (ds.filter (·.looksAt c.node.kind)).flatMap (·.found c)

/-- What detectors find in the trees below some cursors, in preorder. -/
def foundBelow (ds : List Detector) (cs : List Cursor) : List Finding :=
  (cs.flatMap Cursor.preorder).flatMap (foundAt ds)

theorem foundBelow_cons (ds : List Detector) (c : Cursor) (rest : List Cursor) :
    foundBelow ds (c :: rest) = foundAt ds c ++ foundBelow ds (c.children ++ rest) := by
  rw [foundBelow, Cursor.flatMap_preorder_cons, List.flatMap_cons, foundBelow]

theorem foundBelow_eq_flatMap (ds : List Detector) (cs : List Cursor) :
    foundBelow ds cs = cs.flatMap fun c => foundBelow ds [c] := by
  simp only [foundBelow, List.flatMap_assoc, List.flatMap_singleton]

theorem foundAt_eq_nil {ds : List Detector} {c : Cursor}
    (h : ∀ d ∈ ds, d.looksAt c.node.kind = false) : foundAt ds c = [] := by
  have hnone : ds.filter (·.looksAt c.node.kind) = [] :=
    List.filter_eq_nil_iff.2 fun d hd => by simp [h d hd]
  rw [foundAt, hnone, List.flatMap_nil]

/-! ## §2 Findings in alike trees -/

/-- Cursors at alike trees that hang alike. -/
structure Cursor.Alike (move : Span → Span) (c c' : Cursor) : Prop where
  node : CppIdioms.Alike move c.node c'.node
  path : WaysAlike move c.node.kind c.path c'.path

theorem Cursor.Alike.root {move : Span → Span} {n n' : Node} (h : CppIdioms.Alike move n n') :
    Cursor.Alike move (Cursor.root n) (Cursor.root n') :=
  ⟨h, .root _⟩

section Alike

variable {move : Span → Span} {c c' : Cursor} {ds : List Detector}

theorem forall₂_zipIdx {α β : Type} {r : α → β → Prop} {xs : List α} {ys : List β}
    (h : List.Forall₂ r xs ys) (start : Nat) :
    List.Forall₂ (fun x y => r x.1 y.1) (xs.zipIdx start) (ys.zipIdx start) := by
  induction h generalizing start with
  | nil => exact .nil
  | cons h _ ih => exact .cons h (ih _)

/-- The children of corresponding nodes hang alike. -/
theorem Cursor.Twin.children (h : c.Twin move c') :
    List.Forall₂ (Cursor.Alike move) c.children c'.children := by
  unfold Cursor.children
  rw [List.forall₂_map_left_iff, List.forall₂_map_right_iff]
  refine (forall₂_zipIdx h.node.children.forall₂ 0).imp ?_
  rintro ⟨⟨role, n⟩, i⟩ ⟨⟨role', n'⟩, i'⟩ ⟨hrole, hchild⟩
  exact ⟨hchild.alike, .step hrole h.node.parentAlike h.path⟩

/-- An insensitive detector finds the same at corresponding nodes. -/
theorem Detector.Insensitive.found_eq {d : Detector} (hd : d.Insensitive) (h : c.Twin move c')
    (hlooks : d.looksAt c.node.kind) : d.found c' = (d.found c).map (Finding.moved move) := by
  have hreport := hd move c c' h hlooks
  unfold Detector.found
  generalize d.inspect c = x, d.inspect c' = x' at hreport
  cases hreport with
  | error e => rfl
  | ok hfindings =>
    dsimp only
    induction hfindings with
    | nil => rfl
    | cons hf _ ih =>
      obtain ⟨n, n', message, hspan, rfl, rfl⟩ := hf
      rw [List.map_cons, ih, Finding.moved, Rule.finding, Rule.finding, hspan]

theorem foundAt_twin (hds : ∀ d ∈ ds, d.Insensitive) (h : c.Twin move c') :
    foundAt ds c' = (foundAt ds c).map (Finding.moved move) := by
  rw [foundAt, foundAt, h.node.kind, List.map_flatMap]
  refine List.flatMap_congr fun d hd => ?_
  obtain ⟨hd, hlooks⟩ := List.mem_filter.1 hd
  exact (hds d hd).found_eq h hlooks

/-- Insensitive detectors that are not about parentheses find the same in alike trees. -/
theorem foundBelow_alike (hds : ∀ d ∈ ds, d.Insensitive)
    (hparens : ∀ d ∈ ds, d.looksAt .parenExpr = false) {cs cs' : List Cursor}
    (h : List.Forall₂ (Cursor.Alike move) cs cs') :
    foundBelow ds cs' = (foundBelow ds cs).map (Finding.moved move) := by
  -- A step takes one node from the second trees; new parentheses are missing in the first ones.
  induction hsize : Cursor.totalSize cs' using Nat.strongRecOn generalizing cs cs' with
  | ind size ih =>
    cases h with
    | nil => rfl
    | @cons c c' rest rest' hc hrest =>
      obtain ⟨n', path'⟩ := c'
      obtain ⟨halike, hpath⟩ := hc
      have hless : Cursor.totalSize (Cursor.children ⟨n', path'⟩ ++ rest') < size := by
        have hchildren := Cursor.totalSize_children ⟨n', path'⟩
        simp only [Cursor.totalSize, List.map_append, List.map_cons, Node.totalSize_append,
          Node.totalSize_cons] at hsize hchildren ⊢
        omega
      rw [foundBelow_cons ds ⟨n', path'⟩]
      cases halike with
      | @parens _ inner expression hinner =>
        have hnone : foundAt ds ⟨inner.inParens, path'⟩ = [] := foundAt_eq_nil hparens
        have hchild : Cursor.Alike move c ⟨inner, ⟨inner.inParens, "operand", 0⟩ :: path'⟩ :=
          ⟨hinner, .parens expression rfl hpath⟩
        refine (congrArg (· ++ _) hnone).trans ?_
        exact ih _ hless (.cons hchild hrest) rfl
      | node kind span attrs children =>
        have htwin : c.Twin move ⟨n', path'⟩ := ⟨⟨kind, span, attrs, children⟩, hpath⟩
        rw [foundBelow_cons ds c, List.map_append, foundAt_twin hds htwin,
          ih _ hless (List.rel_append htwin.children hrest) rfl]

end Alike

/-! ## §3 Analyses -/

/-- The detectors of the rules that are not left out. -/
def Catalog.kept (cat : Catalog) (ids : List String) : List Detector :=
  cat.detectors.filter fun d => !ids.contains d.rule.id

theorem Catalog.mem_of_mem_kept {cat : Catalog} {ids : List String} {d : Detector}
    (h : d ∈ cat.kept ids) : d ∈ cat.detectors :=
  (List.mem_filter.1 h).1

theorem Catalog.reportWithout_eq (cat : Catalog) (ids : List String) (root : Node) :
    cat.reportWithout ids root = Report.ofFindings (foundBelow (cat.kept ids) [Cursor.root root]) := by
  unfold reportWithout inspections foundBelow
  rw [List.flatMap_assoc, List.flatMap_singleton]
  congr 2
  funext c
  rw [List.flatMap_map, foundAt, kept, List.filter_filter]

/-- Without a signal an analysis gives the report of what the kept detectors find below the root. -/
theorem Engine.analyze_eq_foundBelow (e : Engine) (root : Node) (requested : List Value) :
    (e.analyze root requested .absent).result =
      .ok (Report.ofFindings
        (foundBelow (e.catalog.kept (e.skipped requested)) [Cursor.root root])) := by
  obtain ⟨run, _, _, hexecute⟩ := execute_fresh (e.catalog.dispatch (e.skipped requested)) root
  rw [Catalog.inspections_dispatch] at hexecute
  rw [← Catalog.reportWithout_eq]
  exact congrArg Prod.snd hexecute

theorem Engine.eq_of_analyze {e : Engine} {root : Node} {requested : List Value} {report : Report}
    (h : (e.analyze root requested .absent).result = .ok report) :
    report = Report.ofFindings
      (foundBelow (e.catalog.kept (e.skipped requested)) [Cursor.root root]) :=
  Except.ok.inj (h.symm.trans (e.analyze_eq_foundBelow root requested))

/-- An engine with all rules, made for some settings and used with others. -/
def Engine.withAllRules (made used : Settings) : Engine :=
  (Engine.ofParts (some (Catalog.builtin made)) (some used)).1

/-- Without a catalog the rules are made for the settings that the engine has. -/
theorem Engine.ofParts_none (s : Settings) : (Engine.ofParts none (some s)).1 = .withAllRules s s :=
  rfl

section AllRules

variable (made used : Settings) (requested : List Value)

/-- The detectors that an engine with all rules keeps. -/
def keptOfAll : List Detector :=
  (Catalog.builtin made).kept ((Engine.withAllRules made used).skipped requested)

theorem foundBelow_keptOfAll {move : Span → Span} {cs cs' : List Cursor}
    (h : List.Forall₂ (Cursor.Alike move) cs cs') :
    foundBelow (keptOfAll made used requested) cs'
      = (foundBelow (keptOfAll made used requested) cs).map (Finding.moved move) :=
  foundBelow_alike
    (fun d hd => builtin_insensitive made d (Catalog.mem_of_mem_kept hd))
    (fun d hd => (builtin_looksAt made d (Catalog.mem_of_mem_kept hd)).1) h

/-- Analyses of alike trees find the same, at the places that correspond to each other. -/
theorem Engine.analyze_alike {move : Span → Span} {root root' : Node} (h : Alike move root root') :
    ((Engine.withAllRules made used).analyze root' requested .absent).result =
      .ok (Report.ofFindings
        ((foundBelow (keptOfAll made used requested) [Cursor.root root]).map
          (Finding.moved move))) := by
  rw [← foundBelow_keptOfAll made used requested (.cons (Cursor.Alike.root h) .nil)]
  exact Engine.analyze_eq_foundBelow _ _ _

end AllRules

/-! ## §4 Keys and severities -/

/-- Where they look, the detectors report in the name of their own rules. -/
def OwnFindings (ds : List Detector) : Prop :=
  ∀ d ∈ ds, ∀ c : Cursor, d.looksAt c.node.kind → ∀ f ∈ d.found c,
    ∃ n message, f = d.rule.finding n message

/-- What is found below cursors is found by one of the detectors, at a cursor below them where it
looks. -/
theorem mem_foundBelow_iff {ds : List Detector} {cs : List Cursor} {f : Finding} :
    f ∈ foundBelow ds cs ↔ ∃ d ∈ ds, ∃ c ∈ cs.flatMap Cursor.preorder,
      d.looksAt c.node.kind ∧ f ∈ d.found c := by
  unfold foundBelow foundAt
  constructor
  · intro h
    obtain ⟨c, hc, hfound⟩ := List.mem_flatMap.1 h
    obtain ⟨d, hd, hf⟩ := List.mem_flatMap.1 hfound
    obtain ⟨hd, hlooks⟩ := List.mem_filter.1 hd
    exact ⟨d, hd, c, hc, hlooks, hf⟩
  · rintro ⟨d, hd, c, hc, hlooks, hf⟩
    exact List.mem_flatMap.2
      ⟨c, hc, List.mem_flatMap.2 ⟨d, List.mem_filter.2 ⟨hd, hlooks⟩, hf⟩⟩

theorem mem_foundBelow {ds : List Detector} {cs : List Cursor} {f : Finding}
    (h : f ∈ foundBelow ds cs) : ∃ d ∈ ds, ∃ c : Cursor, d.looksAt c.node.kind ∧ f ∈ d.found c := by
  obtain ⟨d, hd, c, _, hlooks, hf⟩ := mem_foundBelow_iff.1 h
  exact ⟨d, hd, c, hlooks, hf⟩

/-- Where each id is taken once, the key of a finding tells the rule and thereby the severity. -/
theorem keysTell_foundBelow {ds : List Detector} (hown : OwnFindings ds)
    (hids : (ds.map (·.rule.id)).Nodup) (cs : List Cursor) : KeysTell (foundBelow ds cs) := by
  intro f hf g hg hkey
  obtain ⟨d, hd, c, hlooks, hfound⟩ := mem_foundBelow hf
  obtain ⟨d', hd', c', hlooks', hfound'⟩ := mem_foundBelow hg
  obtain ⟨n, message, rfl⟩ := hown d hd c hlooks f hfound
  obtain ⟨n', message', rfl⟩ := hown d' hd' c' hlooks' g hfound'
  have hid : d.rule.id = d'.rule.id := congrArg FindingKey.rule hkey
  have hspan : n.span = n'.span := congrArg FindingKey.span hkey
  have hmessage : message = message' := congrArg FindingKey.message hkey
  have hsame : d = d' := List.inj_on_of_nodup_map hids hd hd' hid
  rw [Rule.finding, Rule.finding, hsame, hspan, hmessage]

theorem Catalog.ReportsOwnRules.ownFindings {cat : Catalog} (h : cat.ReportsOwnRules)
    (ids : List String) : OwnFindings (cat.kept ids) := by
  intro d hd c _ f hf
  obtain ⟨findings, hinspect, hf⟩ := Detector.mem_found_iff.1 hf
  exact h d (Catalog.mem_of_mem_kept hd) c findings hinspect f hf

/-- Where a detector looks, being insensitive includes reporting in the name of its own rule. -/
theorem ownFindings_of_insensitive {ds : List Detector} (hds : ∀ d ∈ ds, d.Insensitive) :
    OwnFindings ds := by
  intro d hd c hlooks f hf
  have hreport := hds d hd id c c (Cursor.Twin.refl c) hlooks
  unfold Detector.found at hf
  generalize d.inspect c = x at hreport hf
  cases hreport with
  | error e => cases hf
  | ok hfindings =>
    obtain ⟨n, _, message, _, hfinding, _⟩ := List.forall₂_same.1 hfindings f hf
    exact ⟨n, message, hfinding⟩

theorem Catalog.nodup_ids_kept {cat : Catalog} (h : cat.ids.Nodup) (ids : List String) :
    ((cat.kept ids).map (·.rule.id)).Nodup :=
  h.sublist (List.filter_sublist.map _)

/-- Registration takes each id once. -/
theorem Catalog.nodup_ids_register {cat cat' : Catalog} {d : Detector} (hids : cat.ids.Nodup)
    (h : cat.register d = .ok cat') : cat'.ids.Nodup := by
  unfold register at h
  split at h
  · cases h
  · split at h
    · cases h
    · next hnew =>
      cases h
      have hmem : d.rule.id ∉ cat.ids := by simpa [contains] using hnew
      unfold ids at hids hmem ⊢
      rw [List.map_append, List.map_singleton]
      exact hids.append (List.nodup_singleton _) (List.disjoint_singleton.2 hmem)

theorem Catalog.nodup_ids_registerAll {cat cat' : Catalog} {ds : List Detector}
    (hids : cat.ids.Nodup) (h : cat.registerAll ds = .ok cat') : cat'.ids.Nodup := by
  unfold registerAll at h
  induction ds generalizing cat with
  | nil =>
    cases h
    exact hids
  | cons d ds ih =>
    rw [List.foldlM_cons] at h
    cases hregister : cat.register d with
    | error e => rw [hregister] at h; cases h
    | ok next =>
      rw [hregister] at h
      exact ih (nodup_ids_register hids hregister) h

theorem nodup_ids_builtin (s : Settings) : (Catalog.builtin s).ids.Nodup := by
  have hids : (Catalog.builtin s).ids = ["R01", "R02", "R03", "R04", "R05", "R06", "R07", "R08",
    "R09", "R10", "R11", "R12", "R13", "R14", "R15", "R16", "R17", "R18"] := rfl
  rw [hids]
  decide

theorem keysTell_keptOfAll (made used : Settings) (requested : List Value) (cs : List Cursor) :
    KeysTell (foundBelow (keptOfAll made used requested) cs) := by
  refine keysTell_foundBelow (ownFindings_of_insensitive fun d hd => ?_) ?_ cs
  · exact builtin_insensitive made d (Catalog.mem_of_mem_kept hd)
  · exact Catalog.nodup_ids_kept (nodup_ids_builtin made) _

end CppIdioms
