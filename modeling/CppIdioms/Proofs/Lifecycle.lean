import CppIdioms.Proofs.Traversal
import CppIdioms.Rule.Probe

/-!
# The life of a run

A run can be asked for tree after tree. It hands out one report at most, since that closes its
collector, and once a call was stopped all later ones are, since nobody lowers the signal. The
signal may be raised at any moment, by a detector or from outside, so that calls are described as a
relation: turn after turn, with the signal perhaps raised in between.

## Contents

* `Signal.MayRise`, `Run.Turns`, `Run.Call`: what may happen to the signal from outside, the turns
  of a call, and a whole call.
* `Attempt`, `Calls`: a call with its result, and calls of one run after each other.
* `Run.Continues`: what the turns of a call leave alone.
* `Attempt.Lawful`, `Calls.Sound`: what a call by itself obeys, and what all calls so far have to do
  with the run.

## Main statements

* `Run.turn_cases`: all that a turn can do.
* `Run.Turns.spec`, `Run.Call.spec`: what follows for the turns of a call, and for a call.
* `Calls.sound`: what every sequence of calls preserves.
* `Run.calls_executeAll`: trees analysed one after the other are such a sequence.
* `calls_follow_lifecycle`: the laws of calling a run again and again.
-/

namespace CppIdioms

/-! ## §1 What a visit leaves alone -/

namespace Collector

theorem extend_closed {c : Collector} (h : c.closed) (fs : List Finding) :
    c.extend fs = if fs = [] then .ok (0, c) else .error (.collectorClosed .adding) := by
  cases fs with
  | nil => rfl
  | cons f fs => simp [extend, add, h]

theorem extend_of_not_closed {c : Collector} (h : c.closed = false) (fs : List Finding) :
    ∃ n c', c.extend fs = .ok (n, c') ∧ c'.closed = false := by
  induction fs generalizing c with
  | nil => exact ⟨0, c, rfl, h⟩
  | cons f fs ih =>
    obtain ⟨isNew, c', hadd, hc'⟩ : ∃ isNew c', c.add f = .ok (isNew, c') ∧ c'.closed = false := by
      rw [add, if_neg (by rw [h]; exact Bool.false_ne_true)]
      split
      · exact ⟨_, _, rfl, h⟩
      · exact ⟨_, _, rfl, h⟩
    obtain ⟨n, c'', hextend, hc''⟩ := ih hc'
    refine ⟨n + isNew.toNat, c'', ?_, hc''⟩
    simp only [extend, hadd, hextend]

end Collector

namespace Run

/-- What may become of a run in the middle of a tree: it counts on and stays in its phase, a raised
signal stays raised, and so does a closed collector, with what it holds. -/
structure Continues (run run' : Run) : Prop where
  phase : run'.phase = run.phase
  closed : run'.collector.closed = run.collector.closed
  kept : run.collector.closed → run'.collector = run.collector
  visited : run.visited ≤ run'.visited
  failures : run.failures ≤ run'.failures
  signal : run.signal = .raised → run'.signal = .raised

theorem Continues.refl (run : Run) : run.Continues run :=
  ⟨rfl, rfl, fun _ => rfl, Nat.le_refl _, Nat.le_refl _, id⟩

theorem Continues.trans {run run' run'' : Run} (h : run.Continues run')
    (h' : run'.Continues run'') : run.Continues run'' where
  phase := h'.phase.trans h.phase
  closed := h'.closed.trans h.closed
  kept hclosed := (h'.kept (h.closed.trans hclosed)).trans (h.kept hclosed)
  visited := Nat.le_trans h.visited h'.visited
  failures := Nat.le_trans h.failures h'.failures
  signal hraised := h'.signal (h.signal hraised)

theorem inspect_continues (run : Run) (d : Detector) (c : Cursor) :
    run.Continues (run.inspect d c).1 := by
  rw [inspect_eq]
  refine ⟨rfl, rfl, fun _ => rfl, Nat.le_refl _, Nat.le_add_right _ _, fun hraised => ?_⟩
  simp [hraised, Signal.raise]

/-- A closed collector leaves the run as it is, and fails if there is anything to collect. -/
theorem collect_continues (run : Run) (findings : List Finding) :
    run.Continues (run.collect findings).1 ∧
      ∀ e, (run.collect findings).2 = some e →
        run.collector.closed ∧ e = .collectorClosed .adding := by
  unfold collect
  cases hclosed : run.collector.closed with
  | true =>
    rw [Collector.extend_closed hclosed]
    split
    · next hextend =>
      split at hextend
      · cases hextend
        exact ⟨.refl run, by simp⟩
      · cases hextend
    · next e hextend =>
      split at hextend
      · cases hextend
      · cases hextend
        exact ⟨.refl run, by simp⟩
  | false =>
    obtain ⟨n, c', hextend, hc'⟩ := Collector.extend_of_not_closed hclosed findings
    rw [hextend]
    refine ⟨⟨rfl, hc'.trans hclosed.symm, ?_, Nat.le_refl _, Nat.le_refl _, id⟩, by simp⟩
    simp [hclosed]

theorem inspectAll_continues (c : Cursor) (ds : List Detector) (run : Run) :
    run.Continues (inspectAll c ds run).1 ∧
      ∀ e, (inspectAll c ds run).2 = some e →
        run.collector.closed ∧ e = .collectorClosed .adding := by
  induction ds generalizing run with
  | nil => exact ⟨.refl run, by simp [inspectAll]⟩
  | cons d ds ih =>
    rw [inspectAll]
    have hinspect := run.inspect_continues d c
    generalize run.inspect d c = inspected at hinspect
    obtain ⟨run₁, findings⟩ := inspected
    dsimp only at hinspect ⊢
    obtain ⟨hcollect, herror⟩ := run₁.collect_continues findings
    rw [hinspect.closed] at herror
    split
    · next run₂ heq =>
      rw [heq] at hcollect
      obtain ⟨hrest, hresterror⟩ := ih run₂
      rw [hcollect.closed, hinspect.closed] at hresterror
      exact ⟨hinspect.trans (hcollect.trans hrest), hresterror⟩
    · next run₂ e heq =>
      rw [heq] at hcollect herror
      exact ⟨hinspect.trans hcollect, herror⟩

/-- A visit counts its place, and fails only at a closed collector. -/
theorem visit_continues (run : Run) (p : Place) :
    run.Continues (run.visit p).1 ∧
      ∀ e, (run.visit p).2 = some e → run.collector.closed ∧ e = .collectorClosed .adding := by
  have hcount : run.Continues { run with visited := run.visited + 1 } :=
    ⟨rfl, rfl, fun _ => rfl, Nat.le_succ _, Nat.le_refl _, id⟩
  unfold visit
  dsimp only
  split
  · exact ⟨hcount, by simp⟩
  · obtain ⟨hinspect, herror⟩ := inspectAll_continues
      (run.parents.cursor p) (run.table.at p.node.kind) { run with visited := run.visited + 1 }
    exact ⟨hcount.trans hinspect, herror⟩

/-- All that a turn can do: find the signal raised, meet a closed collector, or visit the place. -/
theorem turn_cases {file : String} {run run' : Run} {p : Place}
    {result : Except Error (List Place)} (h : run.turn file p = (run', result)) :
    (run.signal = .raised ∧ run' = { run with phase := .cancelled } ∧
      result = .error (.cancelled file)) ∨
    (run.signal ≠ .raised ∧ run.Continues run' ∧ run.collector.closed ∧
      result = .error (.collectorClosed .adding)) ∨
    (run.signal ≠ .raised ∧ run.Continues run' ∧ ∃ children, result = .ok children) := by
  by_cases hsignal : run.signal = .raised
  · rw [turn_raised hsignal] at h
    cases h
    exact .inl ⟨hsignal, rfl, rfl⟩
  · obtain ⟨hcontinues, herror⟩ := run.visit_continues p
    rw [turn, if_neg hsignal] at h
    split at h
    · next e heq =>
      rw [heq] at hcontinues herror
      cases h
      obtain ⟨hclosed, rfl⟩ := herror e rfl
      exact .inr (.inl ⟨hsignal, hcontinues, hclosed, rfl⟩)
    · next heq =>
      rw [heq] at hcontinues
      cases h
      exact .inr (.inr ⟨hsignal, { hcontinues with }, _, rfl⟩)

end Run

/-! ## §2 Calls -/

/-- Somebody outside may raise the signal. Nobody lowers it, and where there is none it cannot be
raised. -/
inductive Signal.MayRise : Signal → Signal → Prop where
  | stay (s : Signal) : MayRise s s
  | rise : MayRise .lowered .raised

namespace Run

/-- The turns of a call, until no place is left or one of them fails. The signal may have been
raised before each of them: only the look that a turn begins with reads it, so that a signal raised
at any other moment shows at the next look. -/
inductive Turns (file : String) : List Place → Run → Run → Option Error → Prop where
  | done (run : Run) : Turns file [] run run none
  | fail {run run' : Run} {signal : Signal} {p : Place} {rest : List Place} {e : Error}
      (outside : run.signal.MayRise signal)
      (turn : turn file { run with signal := signal } p = (run', .error e)) :
      Turns file (p :: rest) run run' (some e)
  | next {run run' run'' : Run} {signal : Signal} {p : Place} {children rest : List Place}
      {failure : Option Error} (outside : run.signal.MayRise signal)
      (turn : turn file { run with signal := signal } p = (run', .ok children))
      (tail : Turns file (children ++ rest) run' run'' failure) :
      Turns file (p :: rest) run run'' failure

/-- A call: the turns through a tree, and then the report if the collector hands it out. -/
inductive Call (root : Node) : Run → Run → Except Error Report → Prop where
  | failed {run run' : Run} {e : Error}
      (turns : Turns root.span.file (run.start root).pending (run.start root).run run' (some e)) :
      Call root run run' (.error e)
  | refused {run run' : Run} {e : Error}
      (turns : Turns root.span.file (run.start root).pending (run.start root).run run' none)
      (finalize : run'.collector.finalize = .error e) : Call root run run' (.error e)
  | returned {run run' : Run} {report : Report} {collector : Collector}
      (turns : Turns root.span.file (run.start root).pending (run.start root).run run' none)
      (finalize : run'.collector.finalize = .ok (report, collector)) :
      Call root run { run' with collector := collector, phase := .done } (.ok report)

end Run

/-- A call of a run: the run before and after it, the tree and the result. -/
structure Attempt where
  before : Run
  root : Node
  after : Run
  result : Except Error Report

namespace Attempt

/-- The call returned a report. -/
def returned (a : Attempt) : Bool :=
  match a.result with
  | .ok _ => true
  | .error _ => false

/-- The call was stopped by the signal. -/
def cancelled (a : Attempt) : Bool :=
  match a.result with
  | .error (.cancelled _) => true
  | _ => false

/-- The call met a closed collector. -/
def refused (a : Attempt) : Bool :=
  match a.result with
  | .error (.collectorClosed _) => true
  | _ => false

end Attempt

/-- Calls of one run, one after the other. -/
inductive Calls : Run → List Attempt → Run → Prop where
  | nil (run : Run) : Calls run [] run
  | cons {run run' run'' : Run} {root : Node} {result : Except Error Report} {later : List Attempt}
      (call : Run.Call root run run' result) (tail : Calls run' later run'') :
      Calls run (⟨run, root, run', result⟩ :: later) run''

/-- The phase in which a call with this result leaves the run; calls have no other results. -/
def Phase.after? : Except Error Report → Option Phase
  | .ok _ => some .done
  | .error (.cancelled _) => some .cancelled
  | .error (.collectorClosed _) => some .traversing
  | .error _ => none

/-! ## §3 What a call does -/

namespace Run

theorem continues_of_mayRise {run : Run} {signal : Signal} (h : run.signal.MayRise signal) :
    run.Continues { run with signal := signal } := by
  refine ⟨rfl, rfl, fun _ => rfl, Nat.le_refl _, Nat.le_refl _, fun hraised => ?_⟩
  rw [hraised] at h
  cases h
  rfl

/-- All that the turns of a call can do. -/
theorem Turns.spec {file : String} {pending : List Place} {run run' : Run} {failure : Option Error}
    (h : Turns file pending run run' failure) :
    (failure = none ∧ run.Continues run') ∨
    (failure = some (.collectorClosed .adding) ∧ run.Continues run' ∧ run.collector.closed) ∨
    (failure = some (.cancelled file) ∧ ∃ last, run.Continues last ∧ last.signal = .raised ∧
      run' = { last with phase := .cancelled }) := by
  induction h with
  | done run => exact .inl ⟨rfl, .refl run⟩
  | @fail run run' signal p rest e outside turn =>
    have hrise := continues_of_mayRise outside
    rcases turn_cases turn with ⟨hsignal, rfl, he⟩ | ⟨_, hturn, hclosed, he⟩ | ⟨_, _, children, he⟩
    · cases he
      exact .inr (.inr ⟨rfl, _, hrise, hsignal, rfl⟩)
    · cases he
      exact .inr (.inl ⟨rfl, hrise.trans hturn, hclosed⟩)
    · cases he
  | @next run run' run'' signal p children rest failure outside turn _ ih =>
    have hrise := continues_of_mayRise outside
    rcases turn_cases turn with ⟨_, _, he⟩ | ⟨_, _, _, he⟩ | ⟨_, hturn, _⟩
    · cases he
    · cases he
    · have hstep := hrise.trans hturn
      rcases ih with ⟨hnone, hrest⟩ | ⟨hsome, hrest, hclosed⟩ | ⟨hsome, last, hlast, hraised⟩
      · exact .inl ⟨hnone, hstep.trans hrest⟩
      · exact .inr (.inl ⟨hsome, hstep.trans hrest, hstep.closed ▸ hclosed⟩)
      · exact .inr (.inr ⟨hsome, last, hstep.trans hlast, hraised⟩)

/-- Where the signal is raised, no place is visited. -/
theorem Turns.of_raised {file : String} {p : Place} {rest : List Place} {run run' : Run}
    {failure : Option Error} (h : Turns file (p :: rest) run run' failure)
    (hraised : run.signal = .raised) :
    run' = { run with phase := .cancelled } ∧ failure = some (.cancelled file) := by
  have hsame : ∀ signal, run.signal.MayRise signal → { run with signal := signal } = run := by
    intro signal hrise
    rw [hraised] at hrise
    cases hrise
    rw [← hraised]
  cases h with
  | fail outside turn =>
    rw [hsame _ outside, turn_raised hraised] at turn
    cases turn
    exact ⟨rfl, rfl⟩
  | next outside turn _ =>
    rw [hsame _ outside, turn_raised hraised] at turn
    cases turn

/-- All that a call can do: return a report and close the collector, meet a closed collector and
leave it as it is, or be stopped. -/
theorem Call.spec {root : Node} {run run' : Run} {result : Except Error Report}
    (h : Call root run run' result) :
    (∃ report last, result = .ok report ∧ run.begin.Continues last ∧ run.collector.closed = false ∧
      run' = { last with collector := { last.collector with closed := true }, phase := .done }) ∨
    (∃ use, result = .error (.collectorClosed use) ∧ run.begin.Continues run' ∧
      run.collector.closed) ∨
    (∃ last, result = .error (.cancelled root.span.file) ∧ run.begin.Continues last ∧
      last.signal = .raised ∧ run' = { last with phase := .cancelled }) := by
  cases h with
  | failed turns =>
    rcases turns.spec with ⟨hnone, _⟩ | ⟨hsome, hcontinues, hclosed⟩ | ⟨hsome, last, hlast⟩
    · cases hnone
    · cases hsome
      exact .inr (.inl ⟨_, rfl, hcontinues, hclosed⟩)
    · cases hsome
      exact .inr (.inr ⟨last, rfl, hlast⟩)
  | refused turns finalize =>
    rcases turns.spec with ⟨_, hcontinues⟩ | ⟨hsome, _⟩ | ⟨hsome, _⟩
    · unfold Collector.finalize at finalize
      split at finalize
      · next hclosed =>
        cases finalize
        exact .inr (.inl ⟨_, rfl, hcontinues, hcontinues.closed ▸ hclosed⟩)
      · cases finalize
    · cases hsome
    · cases hsome
  | @returned last _ _ turns finalize =>
    rcases turns.spec with ⟨_, hcontinues⟩ | ⟨hsome, _⟩ | ⟨hsome, _⟩
    · unfold Collector.finalize at finalize
      split at finalize
      · cases finalize
      · next hopen =>
        cases finalize
        have hclosed := hcontinues.closed.symm.trans (Bool.eq_false_iff.2 hopen)
        exact .inl ⟨_, last, rfl, hcontinues, hclosed, rfl⟩
    · cases hsome
    · cases hsome

/-- Where the signal is raised, a call visits nothing and is stopped. -/
theorem Call.of_raised {root : Node} {run run' : Run} {result : Except Error Report}
    (h : Call root run run' result) (hraised : run.signal = .raised) :
    run' = { run.begin with phase := .cancelled } ∧
      result = .error (.cancelled root.span.file) := by
  cases h with
  | failed turns =>
    obtain ⟨hrun, hfailure⟩ := turns.of_raised hraised
    cases hfailure
    exact ⟨hrun, rfl⟩
  | refused turns _ => cases (turns.of_raised hraised).2
  | returned turns _ => cases (turns.of_raised hraised).2

end Run

/-- What a call by itself obeys: the phase tells its result, it returns from an open collector only
and closes it then, it leaves a closed one alone, it is stopped by a raised signal only, and it
counts on. -/
structure Attempt.Lawful (a : Attempt) : Prop where
  phase : Phase.after? a.result = some a.after.phase
  opened : a.returned → a.before.collector.closed = false
  closed : a.after.collector.closed ↔ a.before.collector.closed ∨ a.returned
  kept : a.before.collector.closed → a.after.collector = a.before.collector
  raised : a.before.signal = .raised ∨ a.cancelled → a.after.signal = .raised
  visited : a.before.visited ≤ a.after.visited
  failures : a.before.failures ≤ a.after.failures

/-- A call that does not return is refused or stopped. -/
theorem Attempt.Lawful.refused_or_cancelled {a : Attempt} (h : a.Lawful) (hreturned : ¬a.returned) :
    a.refused ∨ a.cancelled := by
  have hphase := h.phase
  obtain ⟨before, root, after, result⟩ := a
  cases result with
  | ok report => exact absurd rfl hreturned
  | error e =>
    cases e with
    | collectorClosed use => exact .inl rfl
    | cancelled file => exact .inr rfl
    | _ => cases hphase

theorem Run.Call.lawful {root : Node} {run run' : Run} {result : Except Error Report}
    (h : Run.Call root run run' result) : Attempt.Lawful ⟨run, root, run', result⟩ := by
  rcases h.spec with ⟨report, last, rfl, hlast, hopen, rfl⟩ | ⟨use, rfl, hlast, _⟩ |
    ⟨last, rfl, hlast, hraised, rfl⟩
  · refine ⟨rfl, fun _ => hopen, by simp [Attempt.returned], ?_, ?_, hlast.visited, hlast.failures⟩
    · intro hclosed
      cases hopen.symm.trans hclosed
    · rintro (hraised | hcancelled)
      · exact hlast.signal hraised
      · cases hcancelled
  · refine ⟨congrArg some hlast.phase.symm, ?_, ?_, hlast.kept, ?_, hlast.visited, hlast.failures⟩
    · intro hreturned
      cases hreturned
    · simp [Attempt.returned, hlast.closed, Run.begin]
    · rintro (hraised | hcancelled)
      · exact hlast.signal hraised
      · cases hcancelled
  · refine ⟨rfl, ?_, ?_, hlast.kept, fun _ => hraised, hlast.visited, hlast.failures⟩
    · intro hreturned
      cases hreturned
    · simp [Attempt.returned, hlast.closed, Run.begin]

/-- Trees analysed by the deterministic walk are calls in which nobody outside raises the signal. -/
theorem Run.call_execute (run : Run) (root : Node) :
    Run.Call root run (run.execute root).1 (run.execute root).2 := by
  have hturns : ∀ file pending run, Run.Turns file pending run
      (visitPending file pending run).1 (visitPending file pending run).2 := by
    intro file pending run
    fun_induction visitPending file pending run with
    | case1 run => exact .done run
    | case2 p rest run run' e hturn => exact .fail (.stay _) hturn
    | case3 p rest run run' children hturn ih => exact .next (.stay _) hturn ih
  have hcall := hturns root.span.file (run.start root).pending (run.start root).run
  have hstart : visitPending root.span.file [run.parents.rootPlace root] run.begin
      = visitPending root.span.file (run.start root).pending (run.start root).run := rfl
  rw [execute, hstart]
  generalize visitPending root.span.file (run.start root).pending (run.start root).run = turns
    at hcall
  obtain ⟨last, failure⟩ := turns
  cases failure with
  | some e => exact .failed hcall
  | none =>
    dsimp only
    cases hfinalize : last.collector.finalize with
    | error e => exact .refused hcall hfinalize
    | ok handed => exact .returned hcall hfinalize

/-! ## §4 Sequences of calls -/

namespace Calls

/-- Every call of a sequence comes after the calls before it. -/
theorem split {run run' : Run} {earlier later : List Attempt} {call : Attempt}
    (h : Calls run (earlier ++ call :: later) run') :
    Calls run earlier call.before ∧ Run.Call call.root call.before call.after call.result := by
  induction earlier generalizing run with
  | nil =>
    cases h with
    | cons call _ => exact ⟨.nil _, call⟩
  | cons first earlier ih =>
    cases h with
    | cons call tail =>
      obtain ⟨hearlier, hcall⟩ := ih tail
      exact ⟨.cons call hearlier, hcall⟩

/-- What the calls so far have to do with the run: the collector is closed by the one that returned,
the signal is raised if one was stopped, and nothing is counted back. -/
structure Sound (history : List Attempt) (run : Run) : Prop where
  once : history.countP (·.returned) ≤ 1
  closed : run.collector.closed ↔ ∃ a ∈ history, a.returned
  raised : (∃ a ∈ history, a.cancelled) → run.signal = .raised
  counts : ∀ a ∈ history, a.after.visited ≤ run.visited ∧ a.after.failures ≤ run.failures

theorem sound_fresh (table : Dispatch) (signal : Signal) : Sound [] { table, signal } :=
  ⟨Nat.zero_le _, by simp, by simp, by simp⟩

/-- What a call preserves. -/
theorem Sound.append {history : List Attempt} {a : Attempt} (h : Sound history a.before)
    (ha : a.Lawful) : Sound (history ++ [a]) a.after where
  once := by
    rw [List.countP_append, List.countP_singleton]
    by_cases hreturned : a.returned
    · have hnone : history.countP (·.returned) = 0 := by
        rw [List.countP_eq_zero]
        intro b hb hbreturned
        have hclosed := h.closed.2 ⟨b, hb, hbreturned⟩
        rw [ha.opened hreturned] at hclosed
        cases hclosed
      simp [hnone, hreturned]
    · rw [if_neg hreturned]
      exact h.once
  closed := by
    rw [ha.closed, h.closed]
    simp [or_and_right, exists_or]
  raised := by
    rintro ⟨b, hb, hcancelled⟩
    rcases List.mem_append.1 hb with hb | hb
    · exact ha.raised (.inl (h.raised ⟨b, hb, hcancelled⟩))
    · rw [List.mem_singleton] at hb
      subst hb
      exact ha.raised (.inr hcancelled)
  counts := by
    intro b hb
    rcases List.mem_append.1 hb with hb | hb
    · obtain ⟨hvisited, hfailures⟩ := h.counts b hb
      exact ⟨Nat.le_trans hvisited ha.visited, Nat.le_trans hfailures ha.failures⟩
    · rw [List.mem_singleton] at hb
      subst hb
      exact ⟨Nat.le_refl _, Nat.le_refl _⟩

/-- What every sequence of calls preserves. -/
theorem sound {history later : List Attempt} {run run' : Run} (h : Calls run later run')
    (hsound : Sound history run) : Sound (history ++ later) run' := by
  induction h generalizing history with
  | nil run => rwa [List.append_nil]
  | cons call _ ih =>
    have hrest := ih (hsound.append call.lawful)
    rwa [List.append_assoc, List.singleton_append] at hrest

end Calls

/-- Trees analysed one after the other are a sequence of calls. -/
theorem Run.calls_executeAll (run : Run) (roots : List Node) :
    ∃ history, Calls run history (run.executeAll roots).1 ∧ history.map (·.root) = roots ∧
      history.map (·.result) = (run.executeAll roots).2 := by
  induction roots generalizing run with
  | nil => exact ⟨[], .nil run, rfl, rfl⟩
  | cons root roots ih =>
    obtain ⟨history, hcalls, hroots, hresults⟩ := ih (run.execute root).1
    refine ⟨_ :: history, .cons (run.call_execute root) hcalls, ?_, ?_⟩
    · rw [List.map_cons, hroots]
    · rw [List.map_cons, hresults]
      rfl

/-- The laws of calling a run again and again, whoever raises its signal and when: at most one call
returns, and the collector is closed exactly when one did. After each call, the phase tells the
result. After a report, calls are refused or stopped and the collector is left alone. After a call
that was stopped, all calls are, and visit nothing. Nothing is ever counted back. -/
theorem calls_follow_lifecycle (table : Dispatch) (signal : Signal) :
    (∀ history run, Calls { table, signal } history run →
      history.countP (·.returned) ≤ 1 ∧
      (run.collector.closed ↔ ∃ a ∈ history, a.returned) ∧
      ∀ earlier call later, history = earlier ++ call :: later →
        Phase.after? call.result = some call.after.phase ∧
        ((∃ a ∈ earlier, a.returned) →
          (call.refused ∨ call.cancelled) ∧ call.after.collector = call.before.collector) ∧
        ((∃ a ∈ earlier, a.cancelled) →
          call.cancelled ∧ call.after.visited = call.before.visited ∧
            call.after = { call.before.begin with phase := .cancelled }) ∧
        call.before.visited ≤ call.after.visited ∧ call.before.failures ≤ call.after.failures ∧
        ∀ a ∈ earlier,
          a.after.visited ≤ call.before.visited ∧ a.after.failures ≤ call.before.failures) ∧
    ∀ roots, ∃ history, Calls { table, signal } history (Run.executeAll { table, signal } roots).1 ∧
      history.map (·.root) = roots ∧
      history.map (·.result) = (Run.executeAll { table, signal } roots).2 := by
  refine ⟨?_, fun roots => Run.calls_executeAll _ roots⟩
  intro history run hcalls
  have hsound := hcalls.sound (Calls.sound_fresh table signal)
  refine ⟨hsound.once, hsound.closed, ?_⟩
  rintro earlier ⟨before, root, after, result⟩ later rfl
  obtain ⟨hearlier, hcall⟩ := hcalls.split
  dsimp only at hearlier hcall ⊢
  have hbefore := hearlier.sound (Calls.sound_fresh table signal)
  have hlawful := hcall.lawful
  refine ⟨hlawful.phase, ?_, ?_, hlawful.visited, hlawful.failures, hbefore.counts⟩
  · intro hreturned
    have hclosed := hbefore.closed.2 hreturned
    refine ⟨hlawful.refused_or_cancelled fun hagain => ?_, hlawful.kept hclosed⟩
    cases (hlawful.opened hagain).symm.trans hclosed
  · intro hcancelled
    obtain ⟨rfl, rfl⟩ := hcall.of_raised (hbefore.raised hcancelled)
    exact ⟨rfl, rfl, rfl⟩

/-- The first call returns a report, the second meets the closed collector with a finding, and the
third finds the signal raised from outside. The fourth one is stopped like the third. -/
theorem lifecycle_of_four_calls :
    let probe := Probe.reporting.detector (Probe.rule "R1" .warning [.returnStatement])
    let table : Dispatch := [(.returnStatement, [probe])]
    let root : Node := ⟨.returnStatement, ⟨"a.cpp", 1, 1, 1, 9⟩, [], []⟩
    ∃ first second third fourth last,
      Calls { table, signal := .lowered } [first, second, third, fourth] last ∧
      [first, second, third, fourth].map (·.root) = [root, root, root, root] ∧
      first.returned ∧ second.refused ∧ third.cancelled ∧ fourth.cancelled ∧
      last.collector.closed ∧ second.after.phase = .traversing ∧
      second.after.collector = second.before.collector ∧
      second.before.collector.findings.length = 1 ∧
      second.after.visited = 2 ∧ third.after.visited = 2 ∧ fourth.after.visited = 2 := by
  intro probe table root
  let report := Probe.report probe.rule ⟨root, []⟩
  let run₀ : Run := { table, signal := .lowered }
  obtain ⟨parents₁, hturns⟩ : ∃ parents₁, Run.Turns root.span.file (run₀.start root).pending
      (run₀.start root).run
      ⟨table, .lowered, .traversing, ⟨[report], false⟩, parents₁, 1, 0, []⟩ none :=
    ⟨_, .next (.stay _) rfl (.done _)⟩
  have hfirst : Run.Call root run₀ ⟨table, .lowered, .done, ⟨[report], true⟩, parents₁, 1, 0, []⟩
      (.ok ⟨[report]⟩) := by
    refine .returned hturns ?_
    simp [Collector.finalize]
  obtain ⟨run₂, hsecond, hvisited₂, hsignal₂⟩ : ∃ run₂, Run.Call root
      ⟨table, .lowered, .done, ⟨[report], true⟩, parents₁, 1, 0, []⟩ run₂
      (.error (.collectorClosed .adding)) ∧ run₂.visited = 2 ∧ run₂.signal = .lowered :=
    ⟨⟨table, .lowered, .traversing, ⟨[report], true⟩, parents₁.addRoot, 2, 0, []⟩,
      .failed (.fail (.stay _) rfl), rfl, rfl⟩
  obtain ⟨run₃, hthird, hvisited₃⟩ : ∃ run₃,
      Run.Call root run₂ run₃ (.error (.cancelled "a.cpp")) ∧ run₃.visited = run₂.visited :=
    ⟨_, .failed (.fail (show Signal.MayRise run₂.signal .raised from hsignal₂ ▸ .rise)
      (Run.turn_raised rfl _ _)), rfl⟩
  have hlast := Calls.cons (run₃.call_execute root) (.nil _)
  have hcalls := Calls.cons hfirst (.cons hsecond (.cons hthird hlast))
  obtain ⟨_, hclosed, hcall⟩ := (calls_follow_lifecycle table .lowered).1 _ _ hcalls
  obtain ⟨hphase, hrefused, _⟩ := hcall [_] _ [_, _] rfl
  obtain ⟨_, _, hcancelled, _⟩ := hcall [_, _, _] _ [] rfl
  obtain ⟨hfourth, hvisited₄, _⟩ := hcancelled ⟨_, .tail _ (.tail _ (.head _)), rfl⟩
  have hkept := (hrefused ⟨_, .head _, rfl⟩).2
  exact ⟨_, _, _, _, _, hcalls, rfl, rfl, rfl, rfl, hfourth, hclosed.2 ⟨_, .head _, rfl⟩,
    (Option.some.inj hphase).symm, hkept, rfl, hvisited₂, hvisited₃.trans hvisited₂,
    hvisited₄.trans (hvisited₃.trans hvisited₂)⟩

end CppIdioms
