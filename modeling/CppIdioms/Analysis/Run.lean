import CppIdioms.Catalog.Basic
import CppIdioms.Log.Event
import CppIdioms.Report.Collector
import CppIdioms.Tree.Parents

/-!
# Runs

A run walks trees, shows every node to the detectors that look at its kind, and collects what they
find. A detector that fails, or that does not learn what it needs to know, finds nothing at that
node and does not disturb the others. Before each node the stop signal is looked at.

The walk keeps the places that are still to be visited, next one first, and enters the children of
a place in the parent table after the place was visited. What a detector is told about the
surroundings of a node is read off the table as it stands at that moment.

## Contents

* `Signal`: the stop signal of a run.
* `Phase`, `Run`: where a run stands, and what it has gathered.
* `Run.inspect`, `Run.visit`: one detector at a place, and all of them.
* `Run.turn`, `Run.visitPending`: one turn of the walk, and all of them.
* `Run.execute`: a whole tree.

## Main statements

* `Run.map_node_turn`: a turn replaces a node by its children, so the walk ends.
-/

namespace CppIdioms

/-! ## §1 Signals and phases -/

/-- The stop signal of a run. There may be none; one that is raised stays so. -/
inductive Signal where
  | absent
  | lowered
  | raised
  deriving DecidableEq, Repr, Inhabited

/-- The signal after somebody raised it. -/
def Signal.raise : Signal → Signal
  | .absent => .absent
  | _ => .raised

/-- Where a run stands (`EngineState`). -/
inductive Phase where
  | idle
  | traversing
  | done
  | cancelled
  deriving DecidableEq, Repr, Inhabited

/-- The name of a phase. -/
def Phase.name : Phase → String
  | .idle => "idle"
  | .traversing => "traversing"
  | .done => "done"
  | .cancelled => "cancelled"

/-! ## §2 Runs -/

/-- What a run has gathered (`AnalysisRun`). -/
structure Run where
  table : Dispatch
  signal : Signal := .absent
  phase : Phase := .idle
  collector : Collector := {}
  parents : Parents := {}
  visited : Nat := 0
  failures : Nat := 0
  /-- What happened so far, latest first. -/
  history : List Event := []
  deriving Inhabited

namespace Run

/-- What happened so far, in order. -/
def events (run : Run) : List Event := run.history.reverse

/-- The run after something happened. -/
def note (run : Run) (e : Event) : Run := { run with history := e :: run.history }

/-- Show a node to a detector (`_run_detector`). Its findings come with the run, which remembers
what went wrong and whether the detector asked to stop. -/
def inspect (run : Run) (d : Detector) (c : Cursor) : Run × List Finding :=
  let run := if d.halts c then { run with signal := run.signal.raise } else run
  let kind := c.node.kind.name
  match d.inspect c with
  | .ok findings => (run, findings)
  | .error (.unresolved what place) =>
    (run.note (.unresolved d.rule.id kind (Error.unresolved what place).message), [])
  | .error _ =>
    (({ run with failures := run.failures + 1 }).note
      (.failed d.rule.id kind c.node.span.text), [])

/-- Hand findings to the collector. A closed collector takes none. -/
def collect (run : Run) (findings : List Finding) : Run × Option Error :=
  match run.collector.extend findings with
  | .ok (_, collector) => ({ run with collector := collector }, none)
  | .error e => (run, some e)

/-- Show a node to detectors, one after the other. -/
def inspectAll (c : Cursor) : List Detector → Run → Run × Option Error
  | [], run => (run, none)
  | d :: ds, run =>
    let (run, findings) := run.inspect d c
    match run.collect findings with
    | (run, none) => inspectAll c ds run
    | (run, some e) => (run, some e)

/-- Visit a place: show its node to the detectors that look at its kind, with the surroundings that
the parent table tells. -/
def visit (run : Run) (p : Place) : Run × Option Error :=
  let run := { run with visited := run.visited + 1 }
  match run.table.at p.node.kind with
  | [] => (run, none)
  | ds => inspectAll (run.parents.cursor p) ds run

/-! ## §3 The walk -/

/-- One turn of the walk: look at the signal, visit the place, and enter its children in the parent
table. The children are to be visited next. `file` is the file of the tree. -/
def turn (file : String) (run : Run) (p : Place) : Run × Except Error (List Place) :=
  if run.signal = .raised then ({ run with phase := .cancelled }, .error (.cancelled file))
  else
    match run.visit p with
    | (run, some e) => (run, .error e)
    | (run, none) =>
      let children := run.parents.childPlaces p
      ({ run with parents := run.parents.addChildren p }, .ok children)

/-- The places that a turn puts first hold the children of the node, in order. -/
theorem map_node_turn {file : String} {run run' : Run} {p : Place} {children : List Place}
    (h : run.turn file p = (run', .ok children)) :
    children.map (·.node) = p.node.children.map (·.2) := by
  unfold turn at h
  split at h
  · simp at h
  · split at h
    · simp at h
    · simp only [Prod.mk.injEq, Except.ok.injEq] at h
      rw [← h.2, Parents.map_node_childPlaces]

/-- Turns until no place is left, or until one of them fails. -/
def visitPending (file : String) : List Place → Run → Run × Option Error
  | [], run => (run, none)
  | p :: rest, run =>
    match _h : run.turn file p with
    | (run, .error e) => (run, some e)
    | (run, .ok children) => visitPending file (children ++ rest) run
termination_by pending => Node.totalSize (pending.map (·.node))
decreasing_by
  have h := Node.totalSize_children p.node
  rw [List.map_append, Node.totalSize_append, map_node_turn _h, List.map_cons, Node.totalSize_cons]
  omega

/-- The run at the root of a tree: the root has its place and nothing is visited. -/
def begin (run : Run) : Run :=
  { run with phase := .traversing, parents := run.parents.addRoot }

/-- Analyse a tree: the report, or why there is none (`AnalysisRun.execute`). -/
def execute (run : Run) (root : Node) : Run × Except Error Report :=
  match visitPending root.span.file [run.parents.rootPlace root] run.begin with
  | (run, some e) => (run, .error e)
  | (run, none) =>
    match run.collector.finalize with
    | .error e => (run, .error e)
    | .ok (report, collector) =>
      ({ run with collector := collector, phase := .done }, .ok report)

/-- Analyse several trees with the same run, one after the other. -/
def executeAll (run : Run) : List Node → Run × List (Except Error Report)
  | [] => (run, [])
  | root :: roots =>
    let (run, result) := run.execute root
    let (run, results) := run.executeAll roots
    (run, result :: results)

end Run

end CppIdioms
