import CppIdioms.Analysis.Run
import CppIdioms.Catalog.Builtin

/-!
# Analyses

An engine is a frozen catalog with settings. It analyses a tree without the rules that the settings
or the caller leave out, and it analyses several trees into one report.

## Contents

* `Engine`, `Engine.ofParts`: engines.
* `Engine.skipped`: the rules that are left out.
* `Engine.analyze`: one tree.
* `Engine.analyzeMany`: several trees, stopped by a common signal.
-/

namespace CppIdioms

/-- A catalog with settings (`TraversalEngine`). -/
structure Engine where
  catalog : Catalog
  settings : Settings
  deriving Inhabited

/-- What an analysis came to, with what happened on the way and the signal as it was left. -/
structure Outcome where
  result : Except Error Report
  events : List Event
  signal : Signal

namespace Engine

/-- The engine of a catalog and settings, each of them if given.
Without a catalog it has all rules, made for the settings. -/
def ofParts (catalog : Option Catalog) (settings : Option Settings) : Engine × List Event :=
  let s := settings.getD {}
  match catalog with
  | some c => (⟨c.freeze, s⟩, [])
  | none =>
    (⟨Catalog.builtin s, s⟩, if settings.isSome then [Catalog.builtinEvent s] else [])

/-- The ids that a caller leaves out; a value that counts as false leaves out none. -/
def requested (excluded : Value) : Except Fault (List Value) :=
  if excluded.isTrue then excluded.elements else .ok []

/-- The rules that the settings or the caller leave out, in order, each once (`_excluded`). -/
def skipped (e : Engine) (excluded : List Value) : List String :=
  inOrder (e.settings.excluded ++ excluded.map ruleId)

/-- What is told about the rules that are left out before an analysis starts. -/
def skippedEvents (e : Engine) (skipped : List String) : List Event :=
  match skipped.filter fun id => !e.catalog.contains id with
  | [] => []
  | ids => [.unknownRules ids]

/-- Analyse a tree without the rules that are left out (`TraversalEngine.analyze`). -/
def analyze (e : Engine) (root : Node) (excluded : List Value) (signal : Signal) : Outcome :=
  let skipped := e.skipped excluded
  let file := root.span.file
  let (run, result) := Run.execute { table := e.catalog.dispatch skipped, signal } root
  let closing :=
    match result with
    | .ok report => [.finished file run.visited report.findings.length run.failures]
    | .error _ => []
  { result
    events := e.skippedEvents skipped ++ [.started file skipped] ++ run.events ++ closing
    signal := run.signal }

/-- Analyse trees one after the other under a common signal: the reports of those that were
finished, and the files of the others. -/
def analyzeEach (e : Engine) (excluded : List Value) :
    Signal → List Node → Except Error (List Report × List String)
  | _, [] => .ok ([], [])
  | signal, root :: roots =>
    let outcome := e.analyze root excluded signal
    match outcome.result with
    | .ok report =>
      (e.analyzeEach excluded outcome.signal roots).map fun (reports, dropped) =>
        (report :: reports, dropped)
    | .error (.cancelled _) =>
      (e.analyzeEach excluded outcome.signal roots).map fun (reports, dropped) =>
        (reports, root.span.file :: dropped)
    | .error err => .error err

/-- The number of workers is usable: none is given, or a positive number. -/
def checkWorkers (workers : Value) : Except Fault Unit :=
  match workers with
  | .null => .ok ()
  | _ =>
    match workers.exceeds 0 with
    | .ok true => .ok ()
    | .ok false => .error .badValue
    | .error f => .error f

/-- Analyse several trees into one report; a tree whose analysis was stopped adds nothing to it, and
its file is listed (`analyze_many`). -/
def analyzeMany (e : Engine) (roots : List Node) (excluded workers : Value) (signal : Signal) :
    Except Error (Report × List String) :=
  match requested excluded with
  | .error f => .error (.fault f)
  | .ok ids =>
    match checkWorkers (workers.orElse e.settings.workers) with
    | .error f => .error (.fault f)
    | .ok () =>
      (e.analyzeEach ids signal roots).map fun (reports, dropped) => (Report.merge reports, dropped)

end Engine

end CppIdioms
