import CppIdioms.Catalog.Registry
import CppIdioms.Proofs.Correspondence
import CppIdioms.Rule.Probe
import Mathlib.Data.List.Perm.Basic

/-!
# Registration

A registry keeps its entries three times: in the order of their registration, by their ids, and, once
it is frozen, by the kinds that they look at. The three are in step after any sequence of calls, and
from then on nothing but the entries counts. So a dispatch table that is cut out of the one kept is
the table of the entries that are left, and where detectors report their own rules, the order of
registration does not show in a report.

## Contents

* `lookup_filterMap_values`: tables by key in which values are mapped or dropped.
* `Registry.InStep`: the parts of a registry tell the same.
* `Registry.register_cases`: what a registration can do.

## Main statements

* `Registry.inStep_changeAll`: the parts of a registry stay in step.
* `Registry.InStep.lookup_dispatch`: a dispatch table lists, for each kind, what is left of the
  entries.
* `Registry.InStep.execute_dispatch`: a run with it gives the report of the catalog.
* `Catalog.reportWithout_perm`: the order of registration does not show in a report.
* `registry_follows_calls`: registries after any calls.
* `exclusion_by_registered_id`: which ids leave out their rule as they were registered.
-/

namespace CppIdioms

/-! ## §1 Tables by key -/

/-- Where each key is entered once, a key finds what is made of its value. -/
theorem lookup_filterMap_values {κ β γ : Type} [BEq κ] [LawfulBEq κ] (f : β → Option γ)
    {table : List (κ × β)} (h : (table.map (·.1)).Nodup) (key : κ) :
    (table.filterMap fun (k, v) => (f v).map fun w => (k, w)).lookup key
      = (table.lookup key).bind f := by
  induction table with
  | nil => rfl
  | cons entry rest ih =>
    obtain ⟨k, v⟩ := entry
    obtain ⟨hk, hrest⟩ := List.nodup_cons.1 h
    have ih := ih hrest
    rw [List.filterMap_cons, List.lookup_cons]
    by_cases hkey : key = k
    · subst hkey
      have hnone : rest.lookup key = none := by
        rw [List.lookup_eq_none_iff]
        intro p hp
        have hne : key ≠ p.1 := fun heq => hk (List.mem_map.2 ⟨p, hp, heq.symm⟩)
        simpa using hne
      cases hv : f v with
      | none => simp [hv, ih, hnone]
      | some w => simp [hv]
    · have hne : (key == k) = false := by simpa using hkey
      cases hv : f v <;> simp [List.lookup_cons, hv, hne, ih]

theorem keys_filterMap_values {κ β γ : Type} (f : β → Option γ) (table : List (κ × β)) :
    ((table.filterMap fun (k, v) => (f v).map fun w => (k, w)).map (·.1)).Sublist
      (table.map (·.1)) := by
  induction table with
  | nil => exact .slnil
  | cons entry rest ih =>
    obtain ⟨k, v⟩ := entry
    cases hv : f v <;> simp [hv, ih]

/-! ## §2 Dispatch tables -/

theorem Detector.mem_interests {d : Detector} {kind : Kind} :
    kind ∈ d.interests ↔ d.looksAt kind := by
  simp [interests, looksAt, List.mem_eraseDups]

theorem Detector.nodup_interests (d : Detector) : d.interests.Nodup :=
  (List.mergeSort_perm _ _).nodup_iff.2 (nodup_eraseDups _)

namespace Dispatch

theorem lookup_foldl_enter (d : Detector) {kinds : List Kind} (hkinds : kinds.Nodup)
    (table : Dispatch) (kind : Kind) :
    (kinds.foldl (enter d) table).lookup kind
      = if kind ∈ kinds then some ((table.lookup kind).getD [] ++ [d]) else table.lookup kind := by
  induction kinds generalizing table with
  | nil => simp
  | cons k kinds ih =>
    obtain ⟨hk, hkinds⟩ := List.nodup_cons.1 hkinds
    rw [List.foldl_cons, ih hkinds, enter, lookup_upsert]
    by_cases hkind : kind = k
    · subst hkind
      simp [hk]
    · simp [hkind]

/-- One more detector stands behind the others, at every kind that it looks at. -/
theorem lookup_enterAll {table : Dispatch} {ds : List Detector} (d : Detector) {kind : Kind}
    (h : table.lookup kind = listed ds) :
    (table.enterAll d).lookup kind = listed (ds ++ [d].filter (·.looksAt kind)) := by
  rw [enterAll, lookup_foldl_enter d d.nodup_interests, h]
  simp only [Detector.mem_interests]
  by_cases hlooks : d.looksAt kind
  · cases ds <;> simp [listed, hlooks]
  · simp [hlooks]

/-- A table lists, for every kind, the detectors that look at it in the order in which they were
entered. -/
theorem lookup_ofDetectors (ds : List Detector) (kind : Kind) :
    (ofDetectors ds).lookup kind = listed (ds.filter (·.looksAt kind)) := by
  -- The same for a table that has some detectors already.
  have hfrom : ∀ (table : Dispatch) (before : List Detector),
      table.lookup kind = listed before →
      (ds.foldl enterAll table).lookup kind = listed (before ++ ds.filter (·.looksAt kind)) := by
    induction ds with
    | nil => intro table before h; simpa using h
    | cons d ds ih =>
      intro table before h
      have hrest := ih _ _ (lookup_enterAll d h)
      rw [List.append_assoc, ← List.filter_append] at hrest
      exact hrest
  exact hfrom [] [] rfl

theorem nodup_keys_enterAll {table : Dispatch} (h : (table.map (·.1)).Nodup) (d : Detector) :
    ((table.enterAll d).map (·.1)).Nodup := by
  unfold enterAll
  induction d.interests generalizing table with
  | nil => exact h
  | cons kind kinds ih => exact ih (nodup_keys_upsert h)

theorem nodup_keys_ofDetectors (ds : List Detector) : ((ofDetectors ds).map (·.1)).Nodup := by
  have hfrom : ∀ table : Dispatch, (table.map (·.1)).Nodup →
      ((ds.foldl enterAll table).map (·.1)).Nodup := by
    induction ds with
    | nil => intro table h; exact h
    | cons d ds ih => intro table h; exact ih _ (nodup_keys_enterAll h d)
  exact hfrom [] List.nodup_nil

theorem lookup_without (excluded : List String) {table : Dispatch}
    (h : (table.map (·.1)).Nodup) (kind : Kind) :
    (table.without excluded).lookup kind = (table.lookup kind).bind fun ds =>
      listed (ds.filter fun d => !excluded.contains d.rule.id) :=
  lookup_filterMap_values
    (fun ds : List Detector => listed (ds.filter fun d => !excluded.contains d.rule.id)) h kind

theorem nodup_keys_without (excluded : List String) {table : Dispatch}
    (h : (table.map (·.1)).Nodup) : ((table.without excluded).map (·.1)).Nodup :=
  h.sublist (keys_filterMap_values
    (fun ds : List Detector => listed (ds.filter fun d => !excluded.contains d.rule.id)) table)

theorem listed_bind_filter (ds : List Detector) (p : Detector → Bool) :
    ((listed ds).bind fun ds => listed (ds.filter p)) = listed (ds.filter p) := by
  cases ds <;> rfl

theorem getD_listed (ds : List Detector) : (listed ds).getD [] = ds := by
  cases ds <;> rfl

end Dispatch

/-! ## §3 The parts of a registry -/

namespace Registry

variable {r : Registry} {d : Detector}

/-- The parts of a registry tell the same. -/
structure InStep (r : Registry) : Prop where
  ids : r.ids.Nodup
  index : ∀ id, r.index.lookup id = r.entries.find? (·.rule.id == id)
  table : ∀ table ∈ r.table, table = .ofDetectors r.entries

theorem inStep_empty : InStep {} := ⟨List.nodup_nil, fun _ => rfl, fun _ h => by cases h⟩

theorem InStep.contains_iff (h : r.InStep) {id : String} : r.contains id ↔ id ∈ r.ids := by
  unfold contains Registry.ids
  rw [h.index, List.find?_isSome, List.mem_map]
  simp

theorem InStep.get?_eq_some_iff (h : r.InStep) {id : String} :
    r.get? id = some d ↔ d ∈ r.entries ∧ d.rule.id = id := by
  unfold get?
  rw [h.index]
  constructor
  · intro hfind
    exact ⟨List.mem_of_find?_eq_some hfind, by simpa using List.find?_some hfind⟩
  · rintro ⟨hd, rfl⟩
    cases hfind : r.entries.find? (·.rule.id == d.rule.id) with
    | none => simpa using List.find?_eq_none.1 hfind d hd
    | some d' =>
      have hid : d'.rule.id = d.rule.id := by simpa using List.find?_some hfind
      rw [List.inj_on_of_nodup_map h.ids (List.mem_of_find?_eq_some hfind) hd hid]

/-- A registration is refused because the registry is frozen, or else because the id is taken, and
then the registry is as it was; or the registry has one more entry. -/
theorem register_cases (r : Registry) (d : Detector) :
    (r.frozen ∧ r.register d = (r, some (.catalogFrozen d.rule.id))) ∨
    (r.frozen = false ∧ r.contains d.rule.id ∧
      r.register d = (r, some (.duplicateRule d.rule.id))) ∨
    (r.frozen = false ∧ r.contains d.rule.id = false ∧ r.register d = (r.append d, none)) := by
  unfold register
  cases r.frozen <;> cases r.contains d.rule.id <;> simp

theorem InStep.append (h : r.InStep) (hopen : r.frozen = false)
    (hnew : r.contains d.rule.id = false) : (r.append d).InStep := by
  have hid : d.rule.id ∉ r.ids := fun hid => by simp [h.contains_iff.2 hid] at hnew
  refine ⟨?_, fun id => ?_, fun table htable => ?_⟩
  · show ((r.entries ++ [d]).map (·.rule.id)).Nodup
    rw [List.map_append]
    exact h.ids.append (List.nodup_singleton _) (List.disjoint_singleton.2 hid)
  · show (upsert d.rule.id (fun _ => d) r.index).lookup id = (r.entries ++ [d]).find? _
    rw [lookup_upsert, List.find?_append, ← h.index id]
    by_cases hsame : id = d.rule.id
    · subst hsame
      have hnone : r.index.lookup d.rule.id = none := by simpa [contains] using hnew
      simp [hnone]
    · have hother : (d.rule.id == id) = false := by simpa using Ne.symm hsame
      simp [hsame, hother]
  · have hnone : r.table = none := by simpa [frozen] using hopen
    have htable : r.table = some table := htable
    rw [hnone] at htable
    cases htable

theorem InStep.freeze (h : r.InStep) : r.freeze.InStep := by
  unfold Registry.freeze
  split
  · exact h
  · exact ⟨h.ids, h.index, fun table htable => (Option.some.inj htable).symm⟩

/-- A call keeps the parts in step, whether or not it is refused. -/
theorem InStep.change (h : r.InStep) (call : Change) : (r.change call).1.InStep := by
  cases call with
  | freeze => exact h.freeze
  | register d =>
    show (r.register d).1.InStep
    obtain ⟨_, hsame⟩ | ⟨_, _, hsame⟩ | ⟨hopen, hnew, hmore⟩ := r.register_cases d
    · rwa [hsame]
    · rwa [hsame]
    · rw [hmore]
      exact h.append hopen hnew

theorem InStep.changeAll (h : r.InStep) (calls : List Change) : (r.changeAll calls).InStep := by
  unfold Registry.changeAll
  induction calls generalizing r with
  | nil => exact h
  | cons call calls ih => exact ih (h.change call)

/-- The parts of a registry are in step after any calls. -/
theorem inStep_changeAll (calls : List Change) : (Registry.changeAll {} calls).InStep :=
  inStep_empty.changeAll calls

/-- Why a registration is refused, and what it leaves: a frozen registry refuses all, any other one
an id that it has, and a registration that is refused changes nothing. -/
theorem InStep.register_outcome (h : r.InStep) (d : Detector) :
    ((r.register d).2 = some (.catalogFrozen d.rule.id) ↔ r.frozen) ∧
    ((r.register d).2 = some (.duplicateRule d.rule.id) ↔ ¬r.frozen ∧ d.rule.id ∈ r.ids) ∧
    ((r.register d).2 ≠ none → (r.register d).1 = r) ∧
    ((r.register d).2 = none → (r.register d).1.entries = r.entries ++ [d]) := by
  rw [← h.contains_iff]
  obtain ⟨hclosed, hr⟩ | ⟨hopen, htaken, hr⟩ | ⟨hopen, hnew, hr⟩ := r.register_cases d
  · simp [hr, hclosed]
  · simp [hr, hopen, htaken]
  · simp [hr, hopen, hnew, Registry.append]

/-! ## §4 Frozen registries -/

theorem frozen_freeze (r : Registry) : r.freeze.frozen := by
  unfold freeze
  split
  · next htable => simp [frozen, htable]
  · rfl

theorem frozen_register (r : Registry) (d : Detector) : (r.register d).1.frozen = r.frozen := by
  obtain ⟨_, hsame⟩ | ⟨_, _, hsame⟩ | ⟨_, _, hmore⟩ := r.register_cases d
  · rw [hsame]
  · rw [hsame]
  · rw [hmore]
    rfl

/-- A registry is frozen by the calls that say so, and by no others. -/
theorem frozen_changeAll (r : Registry) (calls : List Change) :
    (r.changeAll calls).frozen ↔ r.frozen ∨ .freeze ∈ calls := by
  unfold changeAll
  induction calls generalizing r with
  | nil => simp
  | cons call calls ih =>
    rw [List.foldl_cons, ih]
    cases call with
    | freeze => simp [change, frozen_freeze]
    | register d => simp [change, frozen_register]

/-- No call changes a frozen registry. -/
theorem change_of_frozen (h : r.frozen) (call : Change) : (r.change call).1 = r := by
  cases call with
  | freeze =>
    obtain ⟨table, htable⟩ := Option.isSome_iff_exists.1 h
    simp [change, freeze, htable]
  | register d => simp [change, register, h]

theorem changeAll_of_frozen (h : r.frozen) (calls : List Change) : r.changeAll calls = r := by
  unfold changeAll
  induction calls with
  | nil => rfl
  | cons call calls ih => rw [List.foldl_cons, change_of_frozen h call, ih]

/-! ## §5 Registrations one after the other -/

/-- Detectors whose ids are new and different are all registered, in order. -/
theorem entries_changeAll_register (ds : List Detector) (h : r.InStep) (hopen : r.frozen = false)
    (hids : (r.ids ++ ds.map (·.rule.id)).Nodup) :
    (r.changeAll (ds.map .register)).entries = r.entries ++ ds := by
  induction ds generalizing r with
  | nil => exact (List.append_nil _).symm
  | cons d ds ih =>
    have hids' : (r.ids ++ [d.rule.id] ++ ds.map (·.rule.id)).Nodup := by
      simpa using hids
    have hnew : d.rule.id ∉ r.ids := fun hd =>
      List.disjoint_of_nodup_append hids hd List.mem_cons_self
    have hcontains : r.contains d.rule.id = false := by
      simpa using mt h.contains_iff.1 hnew
    have hstep : (r.register d).1 = r.append d := by simp [register, hopen, hcontains]
    have happend : (r.append d).ids = r.ids ++ [d.rule.id] := by simp [append, ids]
    have hrest := ih (h.append hopen hcontains) hopen (by rwa [happend])
    show ((r.register d).1.changeAll (ds.map .register)).entries = r.entries ++ d :: ds
    rw [hstep, hrest, append, List.append_assoc, List.singleton_append]

/-- From nothing, detectors of different ids give a registry with just these entries. -/
theorem entries_changeAll_empty {ds : List Detector} (hids : (ds.map (·.rule.id)).Nodup) :
    (Registry.changeAll {} (ds.map .register)).entries = ds :=
  entries_changeAll_register ds inStep_empty rfl hids

theorem entries_freeze (r : Registry) : r.freeze.entries = r.entries := by
  unfold freeze
  split <;> rfl

/-- The registry of all rules keeps the catalog of all rules. -/
theorem catalog_builtin (s : Settings) : (Registry.builtin s).catalog = Catalog.builtin s := by
  have hentries : (Registry.builtin s).entries = builtinDetectors s := by
    rw [Registry.builtin, entries_freeze]
    exact entries_changeAll_empty (nodup_ids_builtin s)
  have hfrozen : (Registry.builtin s).frozen := frozen_freeze _
  rw [catalog, hentries, hfrozen, Catalog.builtin]

/-- A registry takes what the catalog that it keeps takes, and refuses the rest for the same reason. -/
theorem InStep.register_catalog (h : r.InStep) (d : Detector) :
    r.catalog.register d
      = match r.register d with
        | (r', none) => .ok r'.catalog
        | (_, some e) => .error e := by
  have hcontains : r.catalog.contains d.rule.id = r.contains d.rule.id := by
    rw [Bool.eq_iff_iff, h.contains_iff, Catalog.contains, List.contains_iff_mem]
    rfl
  unfold Catalog.register register
  rw [hcontains]
  show (if r.frozen then _ else _) = _
  cases r.frozen <;> cases r.contains d.rule.id <;> rfl

/-! ## §6 What a registry dispatches to -/

theorem InStep.table_getD (h : r.InStep) :
    r.table.getD (.ofDetectors r.entries) = .ofDetectors r.entries := by
  cases htable : r.table with
  | none => rfl
  | some table => exact h.table table htable

/-- A dispatch table lists, for each kind, the entries that are left and look at it, in the order of
their registration; kinds with none are not listed. -/
theorem InStep.lookup_dispatch (h : r.InStep) (excluded : List String) (kind : Kind) :
    (r.dispatch excluded).lookup kind
      = Dispatch.listed ((r.catalog.kept excluded).filter (·.looksAt kind)) := by
  unfold dispatch
  simp only [h.table_getD]
  split
  · next hnone =>
    have hkept : r.catalog.kept excluded = r.entries := by
      simp [Catalog.kept, catalog, List.isEmpty_iff.1 hnone]
    rw [Dispatch.lookup_ofDetectors, hkept]
  · rw [Dispatch.lookup_without excluded (Dispatch.nodup_keys_ofDetectors _),
      Dispatch.lookup_ofDetectors, Dispatch.listed_bind_filter, List.filter_comm]
    rfl

theorem InStep.nodup_keys_dispatch (h : r.InStep) (excluded : List String) :
    ((r.dispatch excluded).map (·.1)).Nodup := by
  have hfull := Dispatch.nodup_keys_ofDetectors r.entries
  unfold dispatch
  simp only [h.table_getD]
  split
  · exact hfull
  · exact Dispatch.nodup_keys_without excluded hfull

theorem kept_catalog (r : Registry) (excluded : List String) :
    r.catalog.kept excluded = r.entries.filter fun d => d.rule.id ∉ excluded :=
  List.filter_congr fun d _ => by simp

/-- The entries that are left can be registered anew, and the dispatch table of all of them is the one
that was cut out. -/
theorem InStep.lookup_dispatch_fresh (h : r.InStep) (excluded : List String) :
    let fresh := Registry.changeAll {} ((r.catalog.kept excluded).map .register)
    fresh.entries = r.catalog.kept excluded ∧
      ∀ kind, (r.dispatch excluded).lookup kind = (fresh.dispatch []).lookup kind := by
  intro fresh
  have hids : r.catalog.ids.Nodup := h.ids
  have hentries : fresh.entries = r.catalog.kept excluded :=
    entries_changeAll_empty (Catalog.nodup_ids_kept hids excluded)
  have hkept : fresh.catalog.kept [] = r.catalog.kept excluded := by
    rw [← hentries]
    exact List.filter_eq_self.2 fun d _ => rfl
  refine ⟨hentries, fun kind => ?_⟩
  rw [h.lookup_dispatch, (inStep_changeAll _).lookup_dispatch, hkept]

/-- Cut out of the table that is kept or built for the purpose, a dispatch table answers like that
of the catalog. -/
theorem InStep.at_dispatch (h : r.InStep) (excluded : List String) (kind : Kind) :
    (r.dispatch excluded).at kind = (r.catalog.dispatch excluded).at kind := by
  rw [Catalog.at_dispatch, Dispatch.at, h.lookup_dispatch, Dispatch.getD_listed, Catalog.kept,
    List.filter_filter]

/-- A run with a dispatch table of the registry gives the report of the rules that are left. -/
theorem InStep.execute_dispatch (h : r.InStep) (excluded : List String) (root : Node) :
    (Run.execute { table := r.dispatch excluded } root).2
      = .ok (r.catalog.reportWithout excluded root) := by
  have hsame : (r.dispatch excluded).inspections (Cursor.root root).preorder
      = r.catalog.inspections excluded root := by
    rw [← Catalog.inspections_dispatch]
    simp only [Dispatch.inspections, h.at_dispatch]
  obtain ⟨run, _, _, hexecute⟩ := execute_fresh (r.dispatch excluded) root
  rw [hexecute, hsame, Catalog.reportWithout]

end Registry

/-! ## §7 The order of registration -/

theorem foundBelow_perm {ds ds' : List Detector} (h : ds.Perm ds') (cs : List Cursor) :
    (foundBelow ds cs).Perm (foundBelow ds' cs) := by
  unfold foundBelow
  refine List.Perm.flatMap_left _ fun c _ => ?_
  exact (h.filter _).flatMap_right _

/-- Where detectors report their own rules, catalogs that differ in the order of their detectors give
the same report. -/
theorem Catalog.reportWithout_perm {cat cat' : Catalog} (hown : cat.ReportsOwnRules)
    (hids : cat.ids.Nodup) (h : cat.detectors.Perm cat'.detectors) (excluded : List String)
    (root : Node) : cat.reportWithout excluded root = cat'.reportWithout excluded root := by
  rw [reportWithout_eq, reportWithout_eq]
  refine Report.ofFindings_eq_of_perm ?_ (foundBelow_perm (h.filter _) _)
  exact keysTell_foundBelow (hown.ownFindings excluded) (nodup_ids_kept hids excluded) _

/-- An engine with a given catalog reports without the rules that its settings or the caller leave
out. -/
theorem Engine.analyze_ofParts (cat : Catalog) (s : Settings) (root : Node)
    (requested : List Value) :
    ((Engine.ofParts (some cat) (some s)).1.analyze root requested .absent).result
      = .ok (cat.reportWithout ((Engine.ofParts (some cat) (some s)).1.skipped requested) root) := by
  rw [Engine.analyze_eq_foundBelow, Catalog.reportWithout_eq]
  rfl

/-- After any calls, the entries of a registry have different ids, and it is they that are found by
id. A registration is refused once the registry is frozen, or else if the id is taken; it then
leaves everything as it was, as does any call once the registry is frozen. A dispatch table is that
of the registry of the entries that are left, whether or not it is cut out of the table that is kept.
Where detectors report their own rules, registries with the same entries in another order give the
same reports. -/
theorem registry_follows_calls (calls : List Registry.Change) :
    let r := Registry.changeAll {} calls
    r.ids.Nodup ∧
    (∀ id d, r.get? id = some d ↔ d ∈ r.entries ∧ d.rule.id = id) ∧
    (∀ id, r.contains id ↔ id ∈ r.ids) ∧
    (r.frozen ↔ .freeze ∈ calls) ∧
    (∀ d,
      ((r.register d).2 = some (.catalogFrozen d.rule.id) ↔ r.frozen) ∧
      ((r.register d).2 = some (.duplicateRule d.rule.id) ↔ ¬r.frozen ∧ d.rule.id ∈ r.ids) ∧
      ((r.register d).2 ≠ none → (r.register d).1 = r) ∧
      ((r.register d).2 = none → (r.register d).1.entries = r.entries ++ [d])) ∧
    (r.frozen → ∀ more, r.changeAll more = r) ∧
    (∀ excluded : List String,
      let left := r.entries.filter fun d => d.rule.id ∉ excluded
      let fresh := Registry.changeAll {} (left.map .register)
      fresh.entries = left ∧ ((r.dispatch excluded).map (·.1)).Nodup ∧
      ∀ kind, (r.dispatch excluded).lookup kind = (fresh.dispatch []).lookup kind ∧
        (r.dispatch excluded).lookup kind =
          if (left.filter (·.looksAt kind)).isEmpty then none
          else some (left.filter (·.looksAt kind))) ∧
    (r.catalog.ReportsOwnRules → ∀ calls',
      let r' := Registry.changeAll {} calls'
      r.entries.Perm r'.entries → ∀ root,
        (∀ excluded, ∃ report,
          (Run.execute { table := r.dispatch excluded } root).2 = .ok report ∧
          (Run.execute { table := r'.dispatch excluded } root).2 = .ok report) ∧
        ∀ s requested, ∃ report,
          ((Engine.ofParts (some r.catalog) (some s)).1.analyze root requested .absent).result
            = .ok report ∧
          ((Engine.ofParts (some r'.catalog) (some s)).1.analyze root requested .absent).result
            = .ok report) := by
  intro r
  have h : r.InStep := Registry.inStep_changeAll calls
  have hfrozen : r.frozen ↔ .freeze ∈ calls := by
    refine (Registry.frozen_changeAll {} calls).trans ?_
    simp [Registry.frozen]
  refine ⟨h.ids, fun id d => h.get?_eq_some_iff, fun id => h.contains_iff, hfrozen,
    h.register_outcome, Registry.changeAll_of_frozen, fun excluded => ?_, ?_⟩
  · have hfresh := h.lookup_dispatch_fresh excluded
    have hlookup := h.lookup_dispatch excluded
    rw [r.kept_catalog] at hfresh hlookup
    exact ⟨hfresh.1, h.nodup_keys_dispatch excluded, fun kind => ⟨hfresh.2 kind, hlookup kind⟩⟩
  · intro hown calls' r' hperm root
    have h' : r'.InStep := Registry.inStep_changeAll calls'
    have hdetectors : r.catalog.detectors.Perm r'.catalog.detectors := hperm
    have hsame := Catalog.reportWithout_perm hown h.ids hdetectors
    constructor
    · intro excluded
      refine ⟨_, h.execute_dispatch excluded root, ?_⟩
      rw [hsame]
      exact h'.execute_dispatch excluded root
    · intro s requested
      refine ⟨_, Engine.analyze_ofParts r.catalog s root requested, ?_⟩
      rw [hsame]
      exact Engine.analyze_ofParts r'.catalog s root requested

/-- Two rules, registered in one order with a repetition, an end and a latecomer, and in the other
order without an end. -/
theorem registry_of_two_orders :
    let first := Probe.reporting.detector (Probe.rule "R1" .warning [.returnStatement])
    let second :=
      Probe.reporting.detector (Probe.rule "R2" .error [.returnStatement, .functionDecl])
    let late := Probe.silent.detector (Probe.rule "R3" .info [.functionDecl])
    let calls : List Registry.Change :=
      [.register first, .register second, .register first, .freeze, .register late]
    let r := Registry.changeAll {} calls
    let r' := Registry.changeAll {} [.register second, .register first]
    let root : Node := ⟨.returnStatement, ⟨"a.cpp", 2, 1, 2, 9⟩, [], []⟩
    r.ids = ["R1", "R2"] ∧ r'.ids = ["R2", "R1"] ∧ r.frozen ∧ ¬r'.frozen ∧
      (r.register first).2 = some (.catalogFrozen "R1") ∧
      (r'.register first).2 = some (.duplicateRule "R1") ∧
      (r.register late).1 = r ∧ (r'.register first).1 = r' ∧ r.changeAll calls = r ∧
      (r.dispatch ["R2"]).lookup .functionDecl = none ∧
      r.catalog.ReportsOwnRules ∧ r.entries.Perm r'.entries ∧
      ∃ report, (Run.execute { table := r.dispatch [] } root).2 = .ok report ∧
        (Run.execute { table := r'.dispatch [] } root).2 = .ok report ∧
        report.findings.map (·.rule) = ["R1", "R2"] := by
  intro first second late calls r r' root
  obtain ⟨_, _, _, hfrozen, hregister, hclosed, hdispatch, horder⟩ := registry_follows_calls calls
  obtain ⟨_, _, _, _, hregister', _⟩ :=
    registry_follows_calls [.register second, .register first]
  have hown : r.catalog.ReportsOwnRules := by
    intro d hd c findings hinspect f hf
    rcases List.mem_pair.1 hd with rfl | rfl <;> cases hinspect <;>
      exact ⟨c.node, _, List.mem_singleton.1 hf⟩
  have hperm : r.entries.Perm r'.entries := .swap second first []
  have hfreeze : r.frozen := hfrozen.2 (by simp [calls])
  obtain ⟨report, hreport, hreport'⟩ := (horder hown _ hperm root).1 []
  have hsorted : report.findings
      = keepFirst ((r.catalog.inspections [] root).flatMap fun i => i.1.found i.2) := by
    have hsame :=
      hreport.symm.trans ((Registry.inStep_changeAll calls).execute_dispatch [] root)
    cases hsame
    exact Report.findings_ofFindings (by decide +kernel)
  refine ⟨rfl, rfl, hfreeze, by decide, (hregister first).1.2 hfreeze, ?_, ?_, ?_, ?_, ?_, hown,
    hperm, report, hreport, hreport', ?_⟩
  · exact (hregister' first).2.1.2 ⟨by decide, by decide⟩
  · exact (hregister late).2.2.1 (by rw [(hregister late).1.2 hfreeze]; simp)
  · exact (hregister' first).2.2.1 (by decide)
  · exact hclosed hfreeze calls
  · exact ((hdispatch ["R2"]).2.2 .functionDecl).2
  · rw [hsorted]
    decide +kernel

/-! ## §8 Leaving out a rule by its id -/

/-- The rule of an id has no part in an analysis: no node is dispatched to its detector, and where
detectors report their own rules nothing is reported in its name. -/
def Engine.LeavesOut (e : Engine) (id : String) (requested : List Value) (root : Node) : Prop :=
  (∀ kind, ∀ d ∈ (e.catalog.dispatch (e.skipped requested)).at kind, d.rule.id ≠ id) ∧
  (e.catalog.ReportsOwnRules → ∃ report, (e.analyze root requested .absent).result = .ok report ∧
    ∀ f ∈ report.findings, f.rule ≠ id)

theorem Engine.leavesOut_of_mem_skipped {e : Engine} {id : String} {requested : List Value}
    (h : id ∈ e.skipped requested) (root : Node) : e.LeavesOut id requested root := by
  constructor
  · rintro kind d hd rfl
    rw [Catalog.at_dispatch] at hd
    simpa [h] using (List.mem_filter.1 hd).2
  · intro hown
    refine ⟨e.catalog.reportWithout (e.skipped requested) root, ?_, ?_⟩
    · rw [Engine.analyze_eq_foundBelow, Catalog.reportWithout_eq]
    · rintro f hf rfl
      rw [findings_reportWithout hown] at hf
      simpa [keeps, h] using (List.mem_filter.1 hf).2

/-- A detector that looks at a kind is dispatched to, unless its id is among those left out. -/
theorem Engine.mem_skipped_of_leavesOut {e : Engine} {d : Detector} {requested : List Value}
    {root : Node} (hd : d ∈ e.catalog.detectors) (kind : Kind) (hlooks : d.looksAt kind)
    (h : e.LeavesOut d.rule.id requested root) : d.rule.id ∈ e.skipped requested := by
  by_contra hkept
  refine h.1 kind d ?_ rfl
  rw [Catalog.at_dispatch]
  exact List.mem_filter.2 ⟨hd, by simp [hlooks, hkept]⟩

/-- Giving the id of a rule as it was registered leaves out the rule, in all registries and calls,
exactly if the id has no blanks at its ends and is in upper case: ids that are given are trimmed and
put in upper case, and those that are registered are not. -/
theorem exclusion_by_registered_id (id : String) :
    (∀ (calls : List Registry.Change) (s : Settings) (requested : List Value) (root : Node),
      id ∈ (Registry.changeAll {} calls).ids → .str id ∈ requested →
      (Engine.ofParts (some (Registry.changeAll {} calls).catalog) (some s)).1.LeavesOut id requested
        root)
    ↔ ruleId (.str id) = id := by
  constructor
  · intro hlaw
    let d := Probe.reporting.detector (Probe.rule id .warning [.returnStatement])
    let e := (Engine.ofParts (some (Registry.changeAll {} [.register d]).catalog) (some {})).1
    have hleft : e.LeavesOut id [.str id] default :=
      hlaw [.register d] {} [.str id] default List.mem_cons_self List.mem_cons_self
    have hskipped : id ∈ e.skipped [.str id] :=
      Engine.mem_skipped_of_leavesOut (d := d) List.mem_cons_self .returnStatement rfl hleft
    -- These settings leave out nothing, so that only the request is left.
    have hrequest : id ∈ [] ++ [ruleId (.str id)] := mem_inOrder.1 hskipped
    exact (List.mem_singleton.1 hrequest).symm
  · intro hid calls s requested root _ hrequested
    refine Engine.leavesOut_of_mem_skipped ?_ root
    rw [Engine.skipped, mem_inOrder]
    exact List.mem_append_right _ (List.mem_map.2 ⟨.str id, hrequested, hid⟩)

/-- A rule whose id is in lower case is dispatched to and reported, though its id is given. -/
theorem exclusion_misses_lower_case_id :
    let d := Probe.reporting.detector (Probe.rule "r1" .warning [.returnStatement])
    let r := Registry.changeAll {} [.register d]
    let e := (Engine.ofParts (some r.catalog) (some {})).1
    let root : Node := ⟨.returnStatement, ⟨"a.cpp", 1, 1, 1, 1⟩, [], []⟩
    "r1" ∈ r.ids ∧ e.catalog.ReportsOwnRules ∧
      d ∈ (e.catalog.dispatch (e.skipped [.str "r1"])).at root.kind ∧
      ∃ report, (e.analyze root [.str "r1"] .absent).result = .ok report ∧
        ∃ f ∈ report.findings, f.rule = "r1" := by
  intro d r e root
  have hskipped : e.skipped [.str "r1"] = ["R1"] := by
    have hids : [Value.str "r1"].map ruleId = ["R1"] := by decide +kernel
    show inOrder ([] ++ [Value.str "r1"].map ruleId) = ["R1"]
    rw [hids]
    simp [inOrder, List.eraseDups_cons]
  rw [hskipped]
  refine ⟨List.mem_cons_self, ?_, ?_, ?_⟩
  · intro d' hd' c findings hinspect f hf
    cases List.mem_singleton.1 hd'
    cases hinspect
    exact ⟨c.node, _, List.mem_singleton.1 hf⟩
  · rw [Catalog.at_dispatch]
    exact List.mem_filter.2 ⟨List.mem_cons_self, by decide⟩
  · have hfindings :
        (Report.ofFindings (foundBelow (e.catalog.kept ["R1"]) [Cursor.root root])).findings
          = keepFirst (foundBelow (e.catalog.kept ["R1"]) [Cursor.root root]) :=
      Report.findings_ofFindings (by decide +kernel)
    refine ⟨_, hskipped ▸ e.analyze_eq_foundBelow root [.str "r1"], ?_⟩
    rw [hfindings]
    decide +kernel

end CppIdioms
