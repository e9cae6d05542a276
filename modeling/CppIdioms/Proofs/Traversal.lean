import CppIdioms.Proofs.Inspection
import CppIdioms.Proofs.ParentTable

/-!
# Walks of a run

A run goes from place to place and keeps what is still to be visited; a specification goes through
the tree by recursion. The walk is taken apart into its turns, every turn is shown to keep what the
parent table must know, and the recursion is read off the turns.

## Contents

* `Walk`, `Run.start`, `Visits`: a run in the middle of a tree, and the turns between two of them
  with the cursors that were shown to the detectors.
* `Walk.Known`: the parent table knows the way up from every place that is still to be visited.
* `Catalog.inspections`: which detector inspects which node, in recursive preorder.
* `Gathered`: what a run has gathered from the inspections at some cursors.

## Main statements

* `table_answers_during_walk`: in the middle of a walk the parent table answers like that of the
  whole tree.
* `execute_eq_recursive_report`: a run gives the report of the inspections in recursive preorder.
-/

namespace CppIdioms

/-! ## §1 Turns -/

/-- A run in the middle of a tree, and the places that it still has to visit, next one first. -/
structure Walk where
  run : Run
  pending : List Place

/-- The walk through a tree before its first turn. -/
def Run.start (run : Run) (root : Node) : Walk := ⟨run.begin, [run.parents.rootPlace root]⟩

/-- Turns lead from one walk to the other, and show these cursors to the detectors. -/
inductive Visits (file : String) : Walk → List Cursor → Walk → Prop where
  | refl (w : Walk) : Visits file w [] w
  | turn {run run' : Run} {p : Place} {children rest : List Place} {cs : List Cursor} {w : Walk}
      (turn : run.turn file p = (run', .ok children))
      (tail : Visits file ⟨run', children ++ rest⟩ cs w) :
      Visits file ⟨run, p :: rest⟩ (run.parents.cursor p :: cs) w

/-- What a turn that succeeds does: it visits the place and meets its children. -/
theorem Run.turn_ok {file : String} {run run' : Run} {p : Place} {children : List Place}
    (h : run.turn file p = (run', .ok children)) :
    ∃ visited, run.visit p = (visited, none) ∧
      run' = { visited with parents := run.parents.addChildren p } ∧
      children = run.parents.childPlaces p := by
  have hframe := run.visit_frame p
  unfold Run.turn at h
  split at h
  · simp at h
  · split at h
    · simp at h
    · next visited hvisit =>
      rw [hvisit] at hframe
      simp only [Prod.mk.injEq, Except.ok.injEq] at h
      obtain ⟨rfl, rfl⟩ := h
      exact ⟨visited, hvisit, by rw [hframe.2], by rw [hframe.2]⟩

/-- Before anything else a turn looks at the signal. -/
theorem Run.turn_raised {run : Run} (h : run.signal = .raised) (file : String) (p : Place) :
    run.turn file p = ({ run with phase := .cancelled }, .error (.cancelled file)) := by
  rw [Run.turn, if_pos h]

/-- A turn leaves the signal as it is, or raised. -/
theorem Run.turn_signal {file : String} {run run' : Run} {p : Place}
    {result : Except Error (List Place)} (h : run.turn file p = (run', result)) :
    run'.signal = run.signal ∨ run'.signal = .raised := by
  have hvisit := run.visit_signal p
  unfold Run.turn at h
  split at h
  · cases h
    exact .inl rfl
  · split at h <;> next hvisited =>
      rw [hvisited] at hvisit
      cases h
      exact hvisit

/-- The turns between two walks are turns of the loop. -/
theorem Visits.visitPending_eq {file : String} {w w' : Walk} {cs : List Cursor}
    (h : Visits file w cs w') :
    Run.visitPending file w.pending w.run = Run.visitPending file w'.pending w'.run := by
  induction h with
  | refl w => rfl
  | turn turn _ ih =>
    rw [Run.visitPending]
    split
    · next hturn => rw [turn] at hturn; simp at hturn
    · next hturn =>
      rw [turn] at hturn
      simp only [Prod.mk.injEq, Except.ok.injEq] at hturn
      obtain ⟨rfl, rfl⟩ := hturn
      exact ih

/-! ## §2 The parent table in the middle of a walk -/

/-- The parent table knows the way up from every place that is still to be visited, and these ways
lead to the root. -/
def Walk.Known (root : Node) (w : Walk) : Prop :=
  ∀ p ∈ w.pending, ∃ links, w.run.parents.Knows p links ∧ Leads root p.node (links.map Link.step)

theorem known_start (run : Run) (root : Node) : (run.start root).Known root := by
  intro p hp
  rw [Run.start, List.mem_singleton] at hp
  subst hp
  exact ⟨[], run.parents.knows_rootPlace root, .here⟩

/-- A turn keeps the ways up known: the children of the visited place hang from it. -/
theorem known_turn {file : String} {root : Node} {run run' : Run} {p : Place}
    {children rest : List Place} (h : run.turn file p = (run', .ok children))
    (hk : Walk.Known root ⟨run, p :: rest⟩) : Walk.Known root ⟨run', children ++ rest⟩ := by
  obtain ⟨visited, _, rfl, rfl⟩ := Run.turn_ok h
  intro q hq
  rcases List.mem_append.1 hq with hq | hq
  · obtain ⟨links, hknows, hleads⟩ := hk p List.mem_cons_self
    obtain ⟨role, position, hget, hchild⟩ := Parents.knows_of_mem_childPlaces hknows hq
    exact ⟨_, hchild, .up hget hleads⟩
  · obtain ⟨links, hknows, hleads⟩ := hk q (List.mem_cons_of_mem _ hq)
    exact ⟨links, hknows.of_extends (Parents.extends_addChildren _ p), hleads⟩

theorem Visits.known {file : String} {root : Node} {w w' : Walk} {cs : List Cursor}
    (h : Visits file w cs w') (hk : w.Known root) : w'.Known root := by
  induction h with
  | refl w => exact hk
  | turn turn _ ih => exact ih (known_turn turn hk)

/-- Whatever was visited already, the rest of the walk fills the table to the same whole. -/
theorem Visits.complete_eq {file : String} {w w' : Walk} {cs : List Cursor}
    (h : Visits file w cs w') :
    Parents.complete w.pending w.run.parents = Parents.complete w'.pending w'.run.parents := by
  induction h with
  | refl w => rfl
  | turn turn _ ih =>
    obtain ⟨visited, _, rfl, rfl⟩ := Run.turn_ok turn
    rw [Parents.complete]
    exact ih

theorem Visits.extends {file : String} {w w' : Walk} {cs : List Cursor} (h : Visits file w cs w') :
    w.run.parents.Extends w'.run.parents := by
  induction h with
  | refl w => exact .refl _
  | turn turn _ ih =>
    obtain ⟨visited, _, rfl, rfl⟩ := Run.turn_ok turn
    exact (Parents.extends_addChildren _ _).trans ih

/-- The parent table of a whole tree, as a walk from its root leaves it. -/
def Run.wholeTable (run : Run) (root : Node) : Parents :=
  Parents.complete (run.start root).pending (run.start root).run.parents

/-- In the middle of a walk, when a place is next, the way up from it ends and leads to the root.
Asked at the place or at any place on its way up, the parent table answers like that of the whole
tree. The root hangs from nothing. -/
theorem table_answers_during_walk (run₀ : Run) (root : Node) {file : String} {cs : List Cursor}
    {run : Run} {p : Place} {rest : List Place}
    (h : Visits file (run₀.start root) cs ⟨run, p :: rest⟩) :
    (∃ links, run.parents.wayUp? p = some links ∧
      ∀ q ∈ p :: links.map (·.parent), ∃ up,
        run.parents.wayUp? q = some up ∧ (run₀.wholeTable root).wayUp? q = some up ∧
        Leads root q.node (up.map Link.step) ∧
        (run.parents.cursor q).ancestors = up.map (·.parent.node) ∧
        (run.parents.cursor q).AnswersLike ((run₀.wholeTable root).cursor q)) ∧
    (run.parents.cursor (run₀.parents.rootPlace root)).parent? = none ∧
    ((run₀.wholeTable root).cursor (run₀.parents.rootPlace root)).parent? = none := by
  have hlater : run.parents.Extends (run₀.wholeTable root) := by
    rw [Run.wholeTable, h.complete_eq]
    exact Parents.extends_complete _ _
  have hroot := (run₀.parents.knows_rootPlace root).of_extends h.extends
  obtain ⟨links, hknows, hleads⟩ := h.known (known_start run₀ root) p List.mem_cons_self
  refine ⟨⟨links, hknows.wayUp?_eq, fun q hq => ?_⟩, ?_, ?_⟩
  · -- Every place on the way up is known in its own right, by what is left of the way.
    have hup : ∃ up, run.parents.Knows q up ∧ Leads root q.node (up.map Link.step) := by
      rcases List.mem_cons.1 hq with rfl | hq
      · exact ⟨links, hknows, hleads⟩
      · obtain ⟨l, hl, rfl⟩ := List.mem_map.1 hq
        obtain ⟨up, hup⟩ := hknows.of_mem hl
        exact ⟨up, hup, hknows.leads_of_mem hleads hl hup⟩
    obtain ⟨up, hup, hupLeads⟩ := hup
    have hwhole := hup.of_extends hlater
    refine ⟨up, hup.wayUp?_eq, hwhole.wayUp?_eq, hupLeads, ?_, .of_eq ?_⟩
    · rw [hup.cursor_eq, Cursor.ancestors, List.map_map]
      rfl
    · rw [hup.cursor_eq, hwhole.cursor_eq]
  · rw [hroot.cursor_eq]
    rfl
  · rw [(hroot.of_extends hlater).cursor_eq]
    rfl

/-- At the second statement of a body, after three turns: the table holds four of the five nodes
and answers like the whole one. -/
theorem table_answers_at_second_statement :
    let leaf : Node := ⟨.literal, ⟨"a.cpp", 4, 8, 4, 9⟩, [], []⟩
    let first : Node := ⟨.exprStatement, ⟨"a.cpp", 3, 3, 3, 6⟩, [], []⟩
    let second : Node := ⟨.returnStatement, ⟨"a.cpp", 4, 1, 4, 9⟩, [], [("value", leaf)]⟩
    let body : Node :=
      ⟨.compoundStatement, ⟨"a.cpp", 2, 1, 5, 1⟩, [], [("statements", first), ("statements", second)]⟩
    let root : Node := ⟨.functionDecl, ⟨"a.cpp", 1, 1, 5, 1⟩, [], [("body", body)]⟩
    let run₀ : Run := { table := [] }
    ∃ cs run p, Visits "a.cpp" (run₀.start root) cs ⟨run, [p]⟩ ∧ p.node = second ∧
      run.parents.links.size = 4 ∧
      (run.parents.cursor p).AnswersLike ((run₀.wholeTable root).cursor p) := by
  intro leaf first second body root run₀
  have h : Visits "a.cpp" (run₀.start root) _ ⟨_, _ :: []⟩ :=
    .turn rfl (.turn rfl (.turn rfl (.refl _)))
  obtain ⟨⟨links, _, hq⟩, _, _⟩ := table_answers_during_walk run₀ root h
  obtain ⟨_, _, _, _, _, hanswers⟩ := hq _ List.mem_cons_self
  exact ⟨_, _, _, h, rfl, rfl, hanswers⟩

/-! ## §3 What a walk gathers -/

/-- The detectors of a table at some cursors: at each of them, those that look at its kind. -/
def Dispatch.inspections (table : Dispatch) (cs : List Cursor) : List (Detector × Cursor) :=
  cs.flatMap fun c => (table.at c.node.kind).map fun d => (d, c)

theorem Dispatch.inspections_concat (table : Dispatch) (cs : List Cursor) (c : Cursor) :
    table.inspections (cs ++ [c])
      = table.inspections cs ++ (table.at c.node.kind).map fun d => (d, c) := by
  simp [inspections]

/-- The run has gathered what the detectors of a table have to say at some cursors, and nothing
else. -/
structure Gathered (table : Dispatch) (cs : List Cursor) (run : Run) : Prop where
  dispatch : run.table = table
  collector : run.collector = .opened ((table.inspections cs).flatMap fun i => i.1.found i.2)
  visited : run.visited = cs.length
  failures : run.failures = (table.inspections cs).countP fun i => i.1.fails i.2
  events : run.events = (table.inspections cs).filterMap fun i => i.1.noted i.2

theorem gathered_begin (table : Dispatch) : Gathered table [] (Run.begin { table }) :=
  ⟨rfl, rfl, rfl, rfl, rfl⟩

/-- A turn of a run that nothing stops succeeds, and gathers what there is at one more cursor. -/
theorem gathered_turn {table : Dispatch} {cs : List Cursor} {run : Run}
    (h : Gathered table cs run) (hs : run.signal ≠ .raised) (file : String) (p : Place) :
    ∃ run', run.turn file p = (run', .ok (run.parents.childPlaces p)) ∧
      run'.parents = run.parents.addChildren p ∧
      (run.signal = .absent → run'.signal = .absent) ∧
      Gathered table (cs ++ [run.parents.cursor p]) run' := by
  have hvisit := Run.visit_opened h.collector p
  have hnode : (run.parents.cursor p).node = p.node := rfl
  rw [Run.turn, if_neg hs, hvisit]
  refine ⟨_, rfl, rfl, fun habsent => ?_, ?_, ?_, ?_, ?_, ?_⟩
  · simp [habsent, Signal.raise]
  · exact h.dispatch
  · simp [Dispatch.inspections_concat, hnode, h.dispatch, List.flatMap_map]
  · simp [h.visited]
  · simp [Dispatch.inspections_concat, hnode, h.dispatch, h.failures, List.countP_map,
      Function.comp_def]
  · have hevents := h.events
    have hnoted : ((table.at p.node.kind).map fun d => (d, run.parents.cursor p)).filterMap
        (fun i => i.1.noted i.2) = (table.at p.node.kind).filterMap (·.noted (run.parents.cursor p)) :=
      List.filterMap_map
    rw [Run.events] at hevents
    rw [Run.events, Dispatch.inspections_concat, List.filterMap_append, hnode, hnoted, ← hevents]
    simp [h.dispatch]

/-- A run that nothing stops visits everything below its pending places, in recursive preorder. -/
theorem exists_visits {table : Dispatch} (file : String) (pending : List Place) :
    ∀ {cs : List Cursor} {run : Run}, Gathered table cs run → run.signal = .absent →
      (∀ p ∈ pending, ∃ links, run.parents.Knows p links) →
      let below := (pending.map run.parents.cursor).flatMap Cursor.preorder
      ∃ run', Visits file ⟨run, pending⟩ below ⟨run', []⟩ ∧ Gathered table (cs ++ below) run' := by
  -- A turn takes one node from the trees below the pending places.
  induction h : Node.totalSize (pending.map (·.node)) using Nat.strongRecOn generalizing pending with
  | ind n ih =>
    intro cs run hg hs hk
    cases pending with
    | nil => exact ⟨run, .refl _, by simpa using hg⟩
    | cons p rest =>
      obtain ⟨links, hknows⟩ := hk p List.mem_cons_self
      have hrest : ∀ q ∈ rest, ∃ links, run.parents.Knows q links := fun q hq =>
        hk q (List.mem_cons_of_mem _ hq)
      obtain ⟨run', hturn, hparents, hs', hg'⟩ := gathered_turn hg (by rw [hs]; decide) file p
      have hcursors := Parents.map_cursor_addChildren hknows hrest
      have hk' := Parents.knows_addChildren hknows hrest
      rw [← hparents] at hcursors hk'
      have hlt : Node.totalSize ((run.parents.childPlaces p ++ rest).map (·.node)) < n := by
        have hsize := Node.totalSize_children p.node
        rw [List.map_cons, Node.totalSize_cons] at h
        rw [List.map_append, Node.totalSize_append, Parents.map_node_childPlaces]
        omega
      obtain ⟨run'', hvisits, hg''⟩ := ih _ hlt _ rfl hg' (hs' hs) hk'
      rw [hcursors] at hvisits hg''
      rw [List.map_cons, Cursor.flatMap_preorder_cons]
      refine ⟨run'', .turn hturn hvisits, ?_⟩
      rwa [List.append_assoc, List.singleton_append] at hg''

/-! ## §4 The report of a tree -/

/-- A fresh run without a signal visits the whole tree, and its report is that of all findings. -/
theorem execute_fresh (table : Dispatch) (root : Node) :
    ∃ run, Visits root.span.file (Run.start { table } root) (Cursor.root root).preorder ⟨run, []⟩ ∧
      Gathered table (Cursor.root root).preorder run ∧
      Run.execute { table } root =
        ({ run with collector := { run.collector with closed := true }, phase := .done },
          .ok (Report.ofFindings
            ((table.inspections (Cursor.root root).preorder).flatMap fun i => i.1.found i.2))) := by
  have hknows := Parents.knows_rootPlace {} root
  have hcursor : [Parents.rootPlace {} root].map (Run.begin { table }).parents.cursor
      = [Cursor.root root] := by
    rw [List.map_singleton]
    exact congrArg (fun c => [c]) hknows.cursor_eq
  obtain ⟨run, hvisits, hg⟩ := exists_visits root.span.file [Parents.rootPlace {} root]
    (gathered_begin table) rfl (by rintro p hp; rw [List.mem_singleton.1 hp]; exact ⟨_, hknows⟩)
  rw [hcursor, List.flatMap_singleton] at hvisits hg
  refine ⟨run, hvisits, hg, ?_⟩
  have hloop := hvisits.visitPending_eq
  rw [Run.visitPending] at hloop
  rw [Run.execute, hloop]
  simp only [hg.collector, Collector.finalize_opened]
  rfl

/-- Which detector inspects which node of a tree: the nodes in recursive preorder and, at each of
them, the detectors that look at its kind and are not left out, in the order of the catalog. -/
def Catalog.inspections (cat : Catalog) (excluded : List String) (root : Node) :
    List (Detector × Cursor) :=
  (Cursor.root root).preorder.flatMap fun c =>
    (cat.detectors.filter fun d => d.looksAt c.node.kind && !excluded.contains d.rule.id).map
      fun d => (d, c)

theorem Catalog.inspections_dispatch (cat : Catalog) (excluded : List String) (root : Node) :
    (cat.dispatch excluded).inspections (Cursor.root root).preorder
      = cat.inspections excluded root := by
  simp only [Dispatch.inspections, Catalog.inspections, Catalog.at_dispatch]

/-- A fresh run gives the report of the recursive specification: what the detectors find at the
nodes in recursive preorder, once each and in order. It visits every node, in the order of a walk,
and counts the inspections that failed. -/
theorem execute_eq_recursive_report (cat : Catalog) (excluded : List String) (root : Node) :
    let inspections := cat.inspections excluded root
    let fresh : Run := { table := cat.dispatch excluded }
    (fresh.execute root).2 = .ok (Report.ofFindings (inspections.flatMap fun i => i.1.found i.2)) ∧
    (fresh.execute root).1.visited = root.size ∧
    (fresh.execute root).1.failures = inspections.countP (fun i => i.1.fails i.2) ∧
    (fresh.execute root).1.events = inspections.filterMap (fun i => i.1.noted i.2) ∧
    (∃ run, Visits root.span.file (fresh.start root) (Cursor.root root).preorder ⟨run, []⟩) ∧
    (Cursor.root root).preorder.map (·.node) = root.walk := by
  intro inspections fresh
  obtain ⟨run, hvisits, hg, hexecute⟩ := execute_fresh (cat.dispatch excluded) root
  rw [Catalog.inspections_dispatch] at hexecute
  have hexecute : fresh.execute root = _ := hexecute
  rw [hexecute]
  refine ⟨rfl, ?_, ?_, ?_, ⟨run, hvisits⟩, ?_⟩
  · rw [hg.visited, Cursor.length_preorder]
    rfl
  · rw [hg.failures, Catalog.inspections_dispatch]
  · have hevents := hg.events
    rw [Catalog.inspections_dispatch] at hevents
    exact hevents
  · rw [Node.walk, Cursor.walk_eq_preorder]

end CppIdioms
