import CppIdioms.Proofs.Correspondence
import CppIdioms.Rule.Probe

/-!
# Several trees at once

Trees are analysed by workers that share nothing but the stop signal. A job is the analysis of one
tree; workers take jobs and go on with them in any order, one look at the signal or one visit at a
time, and the signal may be raised at any moment, by a detector or from outside. Whatever the order,
a job ends with the whole report of its tree, or with nothing because one of its own looks found the
signal raised.

## Contents

* `Stage`, `Job`, `Pool`: where the analysis of a tree stands, with what its looks at the signal found,
  and all of them with the common signal.
* `Job.Advances`, `Pool.Work`, `Pool.Step`, `Schedule`: what a worker does next with a job, what workers
  do, what can happen at all, and any number of such steps.
* `gather`, `Pool.returned?`: what is handed out once every job is over.
* `Dispatch.report`: the whole report of a tree.
* `Covers`, `Job.Sound`: what a run in the middle of its tree and a job have to do with that report.
* `Job.stopped`: a look of the job found the signal raised.
* `Engine.Schedules`: the schedules of an engine.

## Main statements

* `Pool.Step.cost_lt`, `Pool.exists_work`: schedules end, and until then some worker can go on.
* `Job.Advances.sound`, `Schedule.sound`: what one step and every schedule preserve.
* `gather_of_sound`: what is handed out in the end.
* `exists_schedule_analyzeMany`: one tree after the other is one of the schedules.
* `every_schedule_merges_complete_reports`: the laws of analysing several trees.
-/

namespace CppIdioms

/-! ## §1 Jobs -/

/-- Where the analysis of a tree stands. -/
inductive Stage where
  /-- No worker has taken it yet. -/
  | queued
  /-- The signal is looked at before the first of the places that are left, if there is any. -/
  | walking (run : Run) (pending : List Place)
  /-- The signal was looked at and not raised, and a place is visited next. -/
  | cleared (run : Run) (next : Place) (pending : List Place)
  /-- The analysis is over. -/
  | settled (result : Except Error Report)

/-- The analysis of a tree, and what its looks at the signal found, latest first: whether it was
raised. -/
structure Job where
  root : Node
  stage : Stage
  looks : List Bool

/-- The job before any worker took it. -/
def Job.submitted (root : Node) : Job := ⟨root, .queued, []⟩

/-- A worker has the job. -/
def Job.busy (job : Job) : Bool :=
  match job.stage with
  | .queued => false
  | .walking _ _ => true
  | .cleared _ _ _ => true
  | .settled _ => false

/-- The job after a worker took it. -/
def Job.taken (table : Dispatch) (signal : Signal) (job : Job) : Job :=
  let walk := Run.start { table, signal } job.root
  { job with stage := .walking walk.run walk.pending }

/-- The common signal after a visit that left the signal of its run so. -/
def Signal.afterVisit : Signal → Signal → Signal
  | .raised, _ => .raised
  | _, .raised => .raised
  | shared, _ => shared

/-- What a worker does next with a job, under the common signal before and after it. -/
inductive Job.Advances : Signal → Job → Signal → Job → Prop where
  /-- Nothing is left to visit, and the report is handed out. The signal is not looked at. -/
  | finish {signal : Signal} {root : Node} {run : Run} {looks : List Bool} :
      Advances signal ⟨root, .walking run [], looks⟩ signal
        ⟨root, .settled (run.collector.finalize.map (·.1)), looks⟩
  /-- The signal is found raised before a place. -/
  | stop {root : Node} {run run' : Run} {p : Place} {rest : List Place} {looks : List Bool}
      {e : Error}
      (turn : Run.turn root.span.file { run with signal := .raised } p = (run', .error e)) :
      Advances .raised ⟨root, .walking run (p :: rest), looks⟩ .raised
        ⟨root, .settled (.error e), true :: looks⟩
  /-- The signal is not found raised before a place. -/
  | look {signal : Signal} {root : Node} {run : Run} {p : Place} {rest : List Place}
      {looks : List Bool} (clear : signal ≠ .raised) :
      Advances signal ⟨root, .walking run (p :: rest), looks⟩ signal
        ⟨root, .cleared { run with signal := signal } p rest, false :: looks⟩
  /-- The place is visited, whatever happened to the signal since it was looked at. -/
  | visit {signal : Signal} {root : Node} {run run' : Run} {p : Place} {children rest : List Place}
      {looks : List Bool} (turn : run.turn root.span.file p = (run', .ok children)) :
      Advances signal ⟨root, .cleared run p rest, looks⟩ (signal.afterVisit run'.signal)
        ⟨root, .walking run' (children ++ rest), looks⟩
  /-- The visit fails. -/
  | fail {signal : Signal} {root : Node} {run run' : Run} {p : Place} {rest : List Place}
      {looks : List Bool} {e : Error} (turn : run.turn root.span.file p = (run', .error e)) :
      Advances signal ⟨root, .cleared run p rest, looks⟩ (signal.afterVisit run'.signal)
        ⟨root, .settled (.error e), looks⟩

/-! ## §2 Pools -/

/-- The jobs, in the order of the trees, and the common signal. -/
structure Pool where
  jobs : List Job
  signal : Signal

/-- The pool before any job was taken. -/
def Pool.submitted (roots : List Node) (signal : Signal) : Pool :=
  ⟨roots.map Job.submitted, signal⟩

/-- A worker takes a job, if not all of them are busy, or goes on with the one it has. -/
inductive Pool.Work (table : Dispatch) (workers : Nat) : Pool → Pool → Prop where
  | take {before after : List Job} {job : Job} {signal : Signal} (queued : job.stage = .queued)
      (free : (before ++ job :: after).countP Job.busy < workers) :
      Work table workers ⟨before ++ job :: after, signal⟩
        ⟨before ++ job.taken table signal :: after, signal⟩
  | advance {before after : List Job} {job job' : Job} {signal signal' : Signal}
      (advances : Job.Advances signal job signal' job') :
      Work table workers ⟨before ++ job :: after, signal⟩ ⟨before ++ job' :: after, signal'⟩

/-- A worker does something, or somebody raises the signal. Nobody lowers it. -/
inductive Pool.Step (table : Dispatch) (workers : Nat) : Pool → Pool → Prop where
  | work {p q : Pool} (work : p.Work table workers q) : Step table workers p q
  | raise {jobs : List Job} : Step table workers ⟨jobs, .lowered⟩ ⟨jobs, .raised⟩

/-- So many steps lead from one pool to the other. -/
inductive Schedule (table : Dispatch) (workers : Nat) : Pool → Nat → Pool → Prop where
  | refl (p : Pool) : Schedule table workers p 0 p
  | step {p q r : Pool} {n : Nat} (head : p.Step table workers q)
      (tail : Schedule table workers q n r) : Schedule table workers p (n + 1) r

theorem Schedule.trans {table : Dispatch} {workers n m : Nat} {p q r : Pool}
    (h₁ : Schedule table workers p n q) (h₂ : Schedule table workers q m r) :
    Schedule table workers p (m + n) r := by
  induction h₁ with
  | refl p => exact h₂
  | step head _ ih => exact .step head (ih h₂)

/-- The reports of the jobs that gave one and the files of those that were stopped, or the first
other error, once every job is over. -/
def gather : List Job → Option (Except Error (List Report × List String))
  | [] => some (.ok ([], []))
  | job :: jobs =>
    match job.stage, gather jobs with
    | .settled (.ok report), some rest =>
      some (rest.map fun (reports, dropped) => (report :: reports, dropped))
    | .settled (.error (.cancelled _)), some rest =>
      some (rest.map fun (reports, dropped) => (reports, job.root.span.file :: dropped))
    | .settled (.error e), some _ => some (.error e)
    | _, _ => none

/-- What an analysis of several trees returns, once every job is over. -/
def Pool.returned? (p : Pool) : Option (Except Error (Report × List String)) :=
  (gather p.jobs).map fun r => r.map fun (reports, dropped) => (Report.merge reports, dropped)

/-! ## §3 Schedules end -/

/-- A bound on the steps that a job still takes: a look and a visit for every node that is left, and
one step to take it and one to end it. -/
def Job.cost (job : Job) : Nat :=
  match job.stage with
  | .queued => 2 * job.root.size + 2
  | .walking _ pending => 2 * Node.totalSize (pending.map (·.node)) + 1
  | .cleared _ p rest => 2 * Node.totalSize ((p :: rest).map (·.node))
  | .settled _ => 0

/-- A bound on the steps that several jobs still take. -/
def Job.totalCost : List Job → Nat
  | [] => 0
  | job :: jobs => job.cost + totalCost jobs

theorem Job.totalCost_append (before after : List Job) :
    totalCost (before ++ after) = totalCost before + totalCost after := by
  induction before with
  | nil => simp [totalCost]
  | cons job jobs ih => rw [List.cons_append, totalCost, totalCost, ih, Nat.add_assoc]

/-- A bound on the steps that all jobs still take, and the one that raises the signal. -/
def Pool.cost (p : Pool) : Nat := Job.totalCost p.jobs + if p.signal = .lowered then 1 else 0

theorem Job.cost_taken {job : Job} (h : job.stage = .queued) (table : Dispatch) (signal : Signal) :
    (job.taken table signal).cost < job.cost := by
  have hqueued : job.cost = 2 * job.root.size + 2 := by rw [cost, h]
  have htaken : (job.taken table signal).cost = 2 * (job.root.size + 0) + 1 := rfl
  omega

theorem Job.Advances.cost_lt {job job' : Job} {signal signal' : Signal}
    (h : Job.Advances signal job signal' job') : job'.cost < job.cost := by
  cases h with
  | finish => exact Nat.lt_of_lt_of_le Nat.zero_lt_one (Nat.le_add_left _ _)
  | stop _ => exact Nat.zero_lt_succ _
  | look _ => exact Nat.lt_succ_self _
  | @visit _ _ _ _ p _ _ _ turn =>
    have hsize := Node.totalSize_children p.node
    simp only [Job.cost, List.map_append, Node.totalSize_append, Run.map_node_turn turn,
      List.map_cons, Node.totalSize_cons]
    omega
  | @fail _ _ _ _ p rest _ _ _ =>
    have hpos := p.node.size_pos
    simp only [Job.cost, List.map_cons, Node.totalSize_cons]
    omega

/-- A worker leaves the signal as it is, or raised. -/
theorem Job.Advances.signal_eq {job job' : Job} {signal signal' : Signal}
    (h : Job.Advances signal job signal' job') : signal' = signal ∨ signal' = .raised := by
  have hvisit : ∀ left, signal.afterVisit left = signal ∨ signal.afterVisit left = .raised := by
    intro left
    cases signal <;> cases left <;> simp [Signal.afterVisit]
  cases h with
  | finish => exact .inl rfl
  | stop _ => exact .inl rfl
  | look _ => exact .inl rfl
  | visit _ => exact hvisit _
  | fail _ => exact hvisit _

theorem Pool.Work.cost_lt {table : Dispatch} {workers : Nat} {p q : Pool}
    (h : p.Work table workers q) : q.cost < p.cost := by
  cases h with
  | @take _ _ _ signal queued _ =>
    have hjob := Job.cost_taken queued table signal
    simp only [Pool.cost, Job.totalCost_append, Job.totalCost]
    omega
  | advance advances =>
    have hjob := advances.cost_lt
    simp only [Pool.cost, Job.totalCost_append, Job.totalCost]
    rcases advances.signal_eq with hsignal | hsignal
    · rw [hsignal]
      omega
    · rw [hsignal, if_neg (by decide)]
      omega

/-- Every step brings the end nearer. -/
theorem Pool.Step.cost_lt {table : Dispatch} {workers : Nat} {p q : Pool}
    (h : p.Step table workers q) : q.cost < p.cost := by
  cases h with
  | work work => exact work.cost_lt
  | raise => exact Nat.lt_succ_self _

theorem Schedule.length_le {table : Dispatch} {workers n : Nat} {p q : Pool}
    (h : Schedule table workers p n q) : n + q.cost ≤ p.cost := by
  induction h with
  | refl p => omega
  | step head _ ih =>
    have hlt := head.cost_lt
    omega

theorem Pool.cost_submitted_le (roots : List Node) (signal : Signal) :
    (Pool.submitted roots signal).cost ≤ 2 * Node.totalSize roots + 2 * roots.length + 1 := by
  have hjobs : Job.totalCost (roots.map Job.submitted)
      = 2 * Node.totalSize roots + 2 * roots.length := by
    induction roots with
    | nil => rfl
    | cons root roots ih =>
      have hroot : (Job.submitted root).cost = 2 * root.size + 2 := rfl
      rw [List.map_cons, Job.totalCost, ih, hroot, Node.totalSize_cons, List.length_cons]
      omega
  rw [Pool.cost, Pool.submitted, hjobs]
  split <;> omega

/-- A worker can go on with the job it has. -/
theorem Job.exists_advances {job : Job} (h : job.busy) (signal : Signal) :
    ∃ signal' job', Job.Advances signal job signal' job' := by
  obtain ⟨root, stage, looks⟩ := job
  cases stage with
  | queued => cases h
  | settled result => cases h
  | walking run pending =>
    cases pending with
    | nil => exact ⟨_, _, .finish⟩
    | cons p rest =>
      by_cases hsignal : signal = .raised
      · subst hsignal
        exact ⟨_, _, .stop (Run.turn_raised rfl _ p)⟩
      · exact ⟨_, _, .look hsignal⟩
  | cleared run p rest =>
    cases hturn : run.turn root.span.file p with
    | mk run' result =>
      cases result with
      | ok children => exact ⟨_, _, .visit hturn⟩
      | error e => exact ⟨_, _, .fail hturn⟩

theorem gather_isSome {jobs : List Job} (h : ∀ job ∈ jobs, ∃ result, job.stage = .settled result) :
    (gather jobs).isSome := by
  induction jobs with
  | nil => rfl
  | cons job jobs ih =>
    obtain ⟨⟨result, hjob⟩, hjobs⟩ := List.forall_mem_cons.1 h
    obtain ⟨rest, hrest⟩ := Option.isSome_iff_exists.1 (ih hjobs)
    rw [gather, hjob, hrest]
    cases result with
    | ok report => rfl
    | error e => cases e <;> rfl

/-- Until every job is over, some worker can go on. -/
theorem Pool.exists_work (table : Dispatch) {workers : Nat} (hworkers : 0 < workers) (p : Pool) :
    p.returned?.isSome ∨ ∃ q, p.Work table workers q := by
  obtain ⟨jobs, signal⟩ := p
  by_cases hbusy : ∃ job ∈ jobs, job.busy
  · obtain ⟨job, hjob, hbusy⟩ := hbusy
    obtain ⟨before, after, rfl⟩ := List.append_of_mem hjob
    obtain ⟨signal', job', hadvances⟩ := Job.exists_advances hbusy signal
    exact .inr ⟨_, .advance hadvances⟩
  by_cases hqueued : ∃ job ∈ jobs, job.stage = .queued
  · obtain ⟨job, hjob, hqueued⟩ := hqueued
    have hfree : jobs.countP Job.busy = 0 :=
      List.countP_eq_zero.2 fun job hjob hbusy' => hbusy ⟨job, hjob, hbusy'⟩
    obtain ⟨before, after, rfl⟩ := List.append_of_mem hjob
    exact .inr ⟨_, .take hqueued (by rw [hfree]; exact hworkers)⟩
  · left
    rw [Pool.returned?, Option.isSome_map]
    refine gather_isSome fun job hjob => ?_
    obtain ⟨root, stage, looks⟩ := job
    cases stage with
    | queued => exact absurd ⟨_, hjob, rfl⟩ hqueued
    | walking run pending => exact absurd ⟨_, hjob, rfl⟩ hbusy
    | cleared run p rest => exact absurd ⟨_, hjob, rfl⟩ hbusy
    | settled result => exact ⟨result, rfl⟩

/-! ## §4 What a step preserves -/

/-- The report of a tree: what the detectors of a table find at all its nodes. -/
def Dispatch.report (table : Dispatch) (root : Node) : Report :=
  Report.ofFindings ((table.inspections (Cursor.root root).preorder).flatMap fun i => i.1.found i.2)

/-- In the middle of a tree, a run has gathered what there is at the nodes before the pending
places, and knows the ways up from these. -/
def Covers (table : Dispatch) (root : Node) (run : Run) (pending : List Place) : Prop :=
  ∃ cs, Gathered table cs run ∧ (∀ q ∈ pending, ∃ links, run.parents.Knows q links) ∧
    cs ++ (pending.map run.parents.cursor).flatMap Cursor.preorder = (Cursor.root root).preorder

theorem covers_start (table : Dispatch) (signal : Signal) (root : Node) :
    Covers table root (Run.start { table, signal } root).run
      (Run.start { table, signal } root).pending := by
  have hknows := Parents.knows_rootPlace {} root
  refine ⟨[], ⟨rfl, rfl, rfl, rfl, rfl⟩, ?_, ?_⟩
  · intro q hq
    rw [List.mem_singleton.1 hq]
    exact ⟨_, hknows⟩
  · have hcursor : [Parents.rootPlace {} root].map (Parents.addRoot {}).cursor
        = [Cursor.root root] := by
      rw [List.map_singleton, hknows.cursor_eq]
      rfl
    change [] ++ ([Parents.rootPlace {} root].map (Parents.addRoot {}).cursor).flatMap _ = _
    rw [hcursor, List.nil_append, List.flatMap_singleton]

/-- Looking at the signal gathers nothing. -/
theorem Covers.look {table : Dispatch} {root : Node} {run : Run} {pending : List Place}
    (h : Covers table root run pending) (signal : Signal) :
    Covers table root { run with signal := signal } pending := by
  obtain ⟨cs, hg, hrest⟩ := h
  exact ⟨cs, ⟨hg.dispatch, hg.collector, hg.visited, hg.failures, hg.events⟩, hrest⟩

/-- A visit that was cleared succeeds, and the children of the place wait in its stead. -/
theorem Covers.visit {table : Dispatch} {root : Node} {run : Run} {p : Place} {rest : List Place}
    (h : Covers table root run (p :: rest)) (hsignal : run.signal ≠ .raised) (file : String) :
    ∃ run' children, run.turn file p = (run', .ok children) ∧
      Covers table root run' (children ++ rest) := by
  obtain ⟨cs, hg, hknown, hall⟩ := h
  obtain ⟨⟨links, hp⟩, hrest⟩ := List.forall_mem_cons.1 hknown
  obtain ⟨run', hturn, hparents, _, hg'⟩ := gathered_turn hg hsignal file p
  refine ⟨run', _, hturn, _, hg', hparents ▸ Parents.knows_addChildren hp hrest, ?_⟩
  rw [hparents, Parents.map_cursor_addChildren hp hrest, List.append_assoc, List.singleton_append,
    ← Cursor.flatMap_preorder_cons]
  exact hall

/-- When nothing is left, the report of the tree is handed out. -/
theorem Covers.finish {table : Dispatch} {root : Node} {run : Run} (h : Covers table root run []) :
    run.collector.finalize.map (·.1) = .ok (table.report root) := by
  obtain ⟨cs, hg, _, hall⟩ := h
  rw [List.map_nil, List.flatMap_nil, List.append_nil] at hall
  rw [hg.collector, hall]
  rfl

/-- What a job has to do with the report of its tree: it gives the whole report, unless one of its
looks found the signal raised. -/
def Job.Sound (table : Dispatch) (job : Job) : Prop :=
  match job.stage with
  | .queued => true ∉ job.looks
  | .walking run pending => true ∉ job.looks ∧ Covers table job.root run pending
  | .cleared run p rest =>
    true ∉ job.looks ∧ run.signal ≠ .raised ∧ Covers table job.root run (p :: rest)
  | .settled result =>
    result = if true ∈ job.looks then .error (.cancelled job.root.span.file)
      else .ok (table.report job.root)

theorem Job.Sound.taken {table : Dispatch} {job : Job} (h : job.Sound table)
    (hqueued : job.stage = .queued) (signal : Signal) : (job.taken table signal).Sound table := by
  rw [Sound, hqueued] at h
  exact ⟨h, covers_start table signal job.root⟩

/-- What a worker does with a job keeps it sound. A visit that was cleared does not fail. -/
theorem Job.Advances.sound {table : Dispatch} {job job' : Job} {signal signal' : Signal}
    (h : Job.Advances signal job signal' job') (hsound : job.Sound table) : job'.Sound table := by
  cases h with
  | finish =>
    obtain ⟨hlooks, hcovers⟩ := hsound
    exact hcovers.finish.trans (if_neg hlooks).symm
  | stop turn =>
    rw [Run.turn_raised rfl] at turn
    cases turn
    exact (if_pos List.mem_cons_self).symm
  | look clear =>
    obtain ⟨hlooks, hcovers⟩ := hsound
    exact ⟨by simpa using hlooks, clear, hcovers.look _⟩
  | visit turn =>
    obtain ⟨hlooks, hclear, hcovers⟩ := hsound
    obtain ⟨run', children, hturn, hcovers'⟩ := hcovers.visit hclear _
    rw [turn] at hturn
    cases hturn
    exact ⟨hlooks, hcovers'⟩
  | fail turn =>
    obtain ⟨_, hclear, hcovers⟩ := hsound
    obtain ⟨run', children, hturn, _⟩ := hcovers.visit hclear _
    rw [turn] at hturn
    cases hturn

/-- A look that finds the signal raised finds it so because it is. -/
theorem Job.Advances.looks {job job' : Job} {signal signal' : Signal}
    (h : Job.Advances signal job signal' job') (hraised : true ∈ job'.looks) :
    true ∈ job.looks ∨ signal' = .raised := by
  cases h with
  | finish => exact .inl hraised
  | stop _ => exact .inr rfl
  | look _ => exact .inl (by simpa using hraised)
  | visit _ => exact .inl hraised
  | fail _ => exact .inl hraised

theorem Job.Advances.root {job job' : Job} {signal signal' : Signal}
    (h : Job.Advances signal job signal' job') : job'.root = job.root := by
  cases h <;> rfl

/-! ## §5 What schedules preserve -/

/-- Every job is sound, and no look found the signal raised before it was. -/
structure Pool.Sound (table : Dispatch) (roots : List Node) (p : Pool) : Prop where
  roots : p.jobs.map (·.root) = roots
  jobs : ∀ job ∈ p.jobs, job.Sound table
  looks : ∀ job ∈ p.jobs, true ∈ job.looks → p.signal = .raised

theorem Pool.sound_submitted (table : Dispatch) (roots : List Node) (signal : Signal) :
    (Pool.submitted roots signal).Sound table roots := by
  refine ⟨by simp [submitted, Job.submitted, Function.comp_def], ?_, ?_⟩ <;> intro job hjob <;>
    obtain ⟨root, _, rfl⟩ := List.mem_map.1 hjob
  · exact List.not_mem_nil
  · exact fun h => absurd h List.not_mem_nil

/-- One job is replaced, and the signal is left or raised. -/
theorem Pool.Sound.replace {table : Dispatch} {roots : List Node} {before after : List Job}
    {job job' : Job} {signal signal' : Signal}
    (h : Pool.Sound table roots ⟨before ++ job :: after, signal⟩) (hroot : job'.root = job.root)
    (hjob : job'.Sound table) (hlooks : true ∈ job'.looks → true ∈ job.looks ∨ signal' = .raised)
    (hsignal : signal' = signal ∨ signal' = .raised) :
    Pool.Sound table roots ⟨before ++ job' :: after, signal'⟩ := by
  have hraised : signal = .raised → signal' = .raised := fun hs =>
    hsignal.elim (fun heq => heq.trans hs) id
  obtain ⟨hroots, hjobs, holder⟩ := h
  refine ⟨?_, ?_, ?_⟩
  · simpa [hroot] using hroots
  · intro other hother
    rcases List.mem_append.1 hother with hother | hother
    · exact hjobs other (List.mem_append_left _ hother)
    · rcases List.mem_cons.1 hother with rfl | hother
      · exact hjob
      · exact hjobs other (List.mem_append_right _ (List.mem_cons_of_mem _ hother))
  · intro other hother hlook
    rcases List.mem_append.1 hother with hother | hother
    · exact hraised (holder other (List.mem_append_left _ hother) hlook)
    · rcases List.mem_cons.1 hother with rfl | hother
      · rcases hlooks hlook with hlook | hsignal'
        · exact hraised (holder job (List.mem_append_right _ List.mem_cons_self) hlook)
        · exact hsignal'
      · exact hraised
          (holder other (List.mem_append_right _ (List.mem_cons_of_mem _ hother)) hlook)

theorem Pool.Step.sound {table : Dispatch} {workers : Nat} {roots : List Node} {p q : Pool}
    (h : p.Step table workers q) (hsound : p.Sound table roots) : q.Sound table roots := by
  cases h with
  | raise => exact ⟨hsound.roots, hsound.jobs, fun _ _ _ => rfl⟩
  | work work =>
    cases work with
    | @take before after job signal queued _ =>
      have hjob := hsound.jobs job (List.mem_append_right _ List.mem_cons_self)
      exact hsound.replace rfl (hjob.taken queued signal) .inl (.inl rfl)
    | @advance before after job job' signal signal' advances =>
      have hjob := hsound.jobs job (List.mem_append_right _ List.mem_cons_self)
      exact hsound.replace advances.root (advances.sound hjob) advances.looks advances.signal_eq

theorem Schedule.sound {table : Dispatch} {workers n : Nat} {roots : List Node} {p q : Pool}
    (h : Schedule table workers p n q) (hsound : p.Sound table roots) : q.Sound table roots := by
  induction h with
  | refl p => exact hsound
  | step head _ ih => exact ih (head.sound hsound)

/-! ## §6 What is handed out -/

/-- A look of the job found the signal raised. -/
def Job.stopped (job : Job) : Bool := job.looks.contains true

theorem Job.stage_of_settled {table : Dispatch} {job : Job} (h : job.Sound table)
    {result : Except Error Report} (hstage : job.stage = .settled result) :
    job.stage = .settled (if job.stopped then .error (.cancelled job.root.span.file)
      else .ok (table.report job.root)) := by
  rw [Sound, hstage] at h
  simp only [hstage, h, stopped, List.contains_iff_mem]

/-- Jobs that are over and sound: the reports of those that were not stopped, and the files of the
others. -/
theorem gather_of_sound {table : Dispatch} {jobs : List Job} (hsound : ∀ job ∈ jobs, job.Sound table)
    {result : Except Error (List Report × List String)} (hresult : gather jobs = some result) :
    (∀ job ∈ jobs, job.stage = .settled (if job.stopped then .error (.cancelled job.root.span.file)
      else .ok (table.report job.root))) ∧
    result = .ok ((jobs.filter (!·.stopped)).map fun job => table.report job.root,
      (jobs.filter (·.stopped)).map (·.root.span.file)) := by
  induction jobs generalizing result with
  | nil =>
    cases hresult
    exact ⟨fun _ h => absurd h List.not_mem_nil, rfl⟩
  | cons job jobs ih =>
    obtain ⟨hjob, hjobs⟩ := List.forall_mem_cons.1 hsound
    rw [gather] at hresult
    cases hrest : gather jobs with
    | none => simp [hrest] at hresult
    | some rest =>
      obtain ⟨hstages, rfl⟩ := ih hjobs hrest
      have hsettled : ∃ result, job.stage = .settled result := by
        cases hstage : job.stage with
        | settled result => exact ⟨result, rfl⟩
        | queued => simp [hstage] at hresult
        | walking run pending => simp [hstage] at hresult
        | cleared run p rest => simp [hstage] at hresult
      obtain ⟨own, hown⟩ := hsettled
      have hstage := Job.stage_of_settled hjob hown
      refine ⟨List.forall_mem_cons.2 ⟨hstage, hstages⟩, ?_⟩
      rw [hstage, hrest] at hresult
      cases hstopped : job.stopped with
      | true =>
        rw [hstopped] at hresult
        simpa [hstopped, Except.map] using hresult.symm
      | false =>
        rw [hstopped] at hresult
        simpa [hstopped, Except.map] using hresult.symm

/-! ## §7 One tree after the other -/

/-- What a run hands out after its turns. -/
def Run.handedOut : Run × Option Error → Except Error Report
  | (_, some e) => .error e
  | (run, none) => run.collector.finalize.map (·.1)

theorem Run.execute_eq (run : Run) (root : Node) :
    let turns := visitPending root.span.file (run.start root).pending (run.start root).run
    (run.execute root).2 = handedOut turns ∧ (run.execute root).1.signal = turns.1.signal := by
  intro turns
  have hturns : turns = visitPending root.span.file [run.parents.rootPlace root] run.begin := rfl
  rw [execute, ← hturns]
  obtain ⟨run', failure⟩ := turns
  cases failure with
  | some e => exact ⟨rfl, rfl⟩
  | none =>
    simp only [handedOut]
    cases run'.collector.finalize <;> exact ⟨rfl, rfl⟩

theorem Signal.afterVisit_eq {shared left : Signal} (h : left = shared ∨ left = .raised) :
    shared.afterVisit left = left := by
  rcases h with rfl | rfl
  · cases left <;> rfl
  · cases shared <;> rfl

section Sequential

variable {table : Dispatch} {workers : Nat} (before after : List Job)

/-- A worker that is left alone with its job looks and visits until the walk ends. -/
theorem exists_schedule_walk (root : Node) (pending : List Place) (run : Run) (looks : List Bool) :
    let turns := Run.visitPending root.span.file pending run
    ∃ n looks', Schedule table workers
      ⟨before ++ ⟨root, .walking run pending, looks⟩ :: after, run.signal⟩ n
      ⟨before ++ ⟨root, .settled (Run.handedOut turns), looks'⟩ :: after, turns.1.signal⟩ := by
  intro turns
  fun_induction Run.visitPending root.span.file pending run generalizing looks with
  | case1 run => exact ⟨1, looks, .step (.work (.advance .finish)) (.refl _)⟩
  | case2 p rest run run' e hturn =>
    by_cases hraised : run.signal = .raised
    · have hsame : { run with signal := .raised } = run := by rw [← hraised]
      have hleft : run'.signal = .raised := by
        rw [Run.turn_raised hraised] at hturn
        cases hturn
        exact hraised
      have hstop : Job.Advances run.signal ⟨root, .walking run (p :: rest), looks⟩ run'.signal
          ⟨root, .settled (.error e), true :: looks⟩ := by
        rw [hraised, hleft]
        exact .stop (by rw [hsame]; exact hturn)
      exact ⟨1, _, .step (.work (.advance hstop)) (.refl _)⟩
    · have hfail : Job.Advances run.signal ⟨root, .cleared run p rest, false :: looks⟩ run'.signal
          ⟨root, .settled (.error e), false :: looks⟩ := by
        rw [← Signal.afterVisit_eq (Run.turn_signal hturn)]
        exact .fail hturn
      exact ⟨2, _, .step (.work (.advance (.look hraised)))
        (.step (.work (.advance hfail)) (.refl _))⟩
  | case3 p rest run run' children hturn ih =>
    have hclear : run.signal ≠ .raised := by
      intro hraised
      rw [Run.turn_raised hraised] at hturn
      cases hturn
    have hvisit : Job.Advances run.signal ⟨root, .cleared run p rest, false :: looks⟩ run'.signal
        ⟨root, .walking run' (children ++ rest), false :: looks⟩ := by
      rw [← Signal.afterVisit_eq (Run.turn_signal hturn)]
      exact .visit hturn
    obtain ⟨n, looks', hrest⟩ := ih (false :: looks)
    exact ⟨n + 2, looks', .step (.work (.advance (.look hclear)))
      (.step (.work (.advance hvisit)) hrest)⟩

/-- A worker that is left alone analyses one more tree. -/
theorem exists_schedule_job (e : Engine) (requested : List Value) (root : Node) (signal : Signal)
    (hfree : (before ++ .submitted root :: after).countP Job.busy < workers) :
    let outcome := e.analyze root requested signal
    ∃ n looks, Schedule (e.catalog.dispatch (e.skipped requested)) workers
      ⟨before ++ .submitted root :: after, signal⟩ n
      ⟨before ++ ⟨root, .settled outcome.result, looks⟩ :: after, outcome.signal⟩ := by
  intro outcome
  let run : Run := { table := e.catalog.dispatch (e.skipped requested), signal }
  obtain ⟨hresult, hsignal⟩ := run.execute_eq root
  obtain ⟨n, looks, hwalk⟩ := @exists_schedule_walk run.table workers before after root
    (run.start root).pending (run.start root).run []
  rw [← hresult, ← hsignal] at hwalk
  exact ⟨n + 1, looks, .step (.work (.take rfl hfree)) hwalk⟩

/-- One tree after the other: every job that is over stays, and the next one is taken. -/
theorem exists_schedule_each (e : Engine) (requested : List Value) (hworkers : 0 < workers)
    (roots : List Node) (signal : Signal) (done : List Job)
    (hdone : ∀ job ∈ done, job.busy = false) :
    ∃ n jobs signal', Schedule (e.catalog.dispatch (e.skipped requested)) workers
      ⟨done ++ roots.map Job.submitted, signal⟩ n ⟨done ++ jobs, signal'⟩ ∧
      gather jobs = some (e.analyzeEach requested signal roots) := by
  induction roots generalizing signal done with
  | nil => exact ⟨0, [], signal, .refl _, rfl⟩
  | cons root roots ih =>
    let rest := roots.map Job.submitted
    have hfree : (done ++ .submitted root :: rest).countP Job.busy < workers := by
      have hnone : (done ++ .submitted root :: rest).countP Job.busy = 0 := by
        refine List.countP_eq_zero.2 fun job hjob => ?_
        rcases List.mem_append.1 hjob with hjob | hjob
        · rw [hdone job hjob]
          decide
        · rcases List.mem_cons.1 hjob with rfl | hjob
          · exact Bool.false_ne_true
          · obtain ⟨_, _, rfl⟩ := List.mem_map.1 hjob
            exact Bool.false_ne_true
      omega
    obtain ⟨n, looks, hjob⟩ := exists_schedule_job done rest e requested root signal hfree
    set outcome := e.analyze root requested signal with houtcome
    let job : Job := ⟨root, .settled outcome.result, looks⟩
    obtain ⟨m, jobs, signal', hrest, hgather⟩ := ih outcome.signal (done ++ [job]) (by
      intro other hother
      rcases List.mem_append.1 hother with hother | hother
      · exact hdone other hother
      · rw [List.mem_singleton.1 hother]
        rfl)
    rw [List.append_assoc, List.append_assoc] at hrest
    refine ⟨m + n, job :: jobs, signal', hjob.trans hrest, ?_⟩
    have hstage : job.stage = .settled outcome.result := rfl
    rw [gather, hgather, hstage, Engine.analyzeEach, ← houtcome]
    cases outcome.result with
    | ok report => rfl
    | error e => cases e <;> rfl

end Sequential

/-- Analysing one tree after the other is one of the schedules, for any number of workers. -/
theorem exists_schedule_analyzeMany (e : Engine) {excluded given : Value} {requested : List Value}
    (hrequested : Engine.requested excluded = .ok requested)
    (hgiven : Engine.checkWorkers (given.orElse e.settings.workers) = .ok ()) {workers : Nat}
    (hworkers : 0 < workers) (roots : List Node) (signal : Signal) :
    ∃ n p, Schedule (e.catalog.dispatch (e.skipped requested)) workers
      (Pool.submitted roots signal) n p ∧
      p.returned? = some (e.analyzeMany roots excluded given signal) := by
  obtain ⟨n, jobs, signal', hschedule, hgather⟩ :=
    exists_schedule_each e requested hworkers roots signal [] (fun _ h => absurd h List.not_mem_nil)
  refine ⟨n, ⟨jobs, signal'⟩, hschedule, ?_⟩
  rw [Pool.returned?, hgather, Engine.analyzeMany, hrequested, hgiven]
  rfl

/-! ## §8 The laws of analysing several trees -/

theorem Catalog.report_dispatch (cat : Catalog) (ids : List String) (root : Node) :
    (cat.dispatch ids).report root
      = Report.ofFindings (foundBelow (cat.kept ids) [Cursor.root root]) := by
  rw [Dispatch.report, inspections_dispatch, ← reportWithout_eq]
  rfl

theorem Engine.analyze_eq_report (e : Engine) (root : Node) (requested : List Value) :
    (e.analyze root requested .absent).result
      = .ok ((e.catalog.dispatch (e.skipped requested)).report root) := by
  rw [Catalog.report_dispatch, analyze_eq_foundBelow]

/-- Merging the reports of several trees gives the same for every order of the trees. -/
theorem Catalog.merge_report_perm {cat : Catalog} (hown : cat.ReportsOwnRules)
    (hids : cat.ids.Nodup) (ids : List String) {roots roots' : List Node}
    (hperm : roots'.Perm roots) :
    Report.merge (roots'.map (cat.dispatch ids).report)
      = Report.merge (roots.map (cat.dispatch ids).report) := by
  have hmerge : ∀ roots : List Node, Report.merge (roots.map (cat.dispatch ids).report)
      = Report.ofFindings (foundBelow (cat.kept ids) (roots.map Cursor.root)) := by
    intro roots
    rw [foundBelow_eq_flatMap, List.flatMap_map, ← Report.merge_ofFindings]
    exact congrArg Report.merge (List.map_congr_left fun root _ => cat.report_dispatch ids root)
  have hfound : (foundBelow (cat.kept ids) (roots'.map Cursor.root)).Perm
      (foundBelow (cat.kept ids) (roots.map Cursor.root)) := by
    rw [foundBelow_eq_flatMap, foundBelow_eq_flatMap]
    exact (hperm.map _).flatMap_right _
  rw [hmerge, hmerge]
  exact Report.ofFindings_eq_of_perm
    (keysTell_foundBelow (hown.ownFindings ids) (nodup_ids_kept hids ids) _) hfound

/-- So many steps lead from the submitted trees to the pool. -/
def Engine.Schedules (e : Engine) (requested : List Value) (workers : Nat) (roots : List Node)
    (signal : Signal) (n : Nat) (p : Pool) : Prop :=
  Schedule (e.catalog.dispatch (e.skipped requested)) workers (Pool.submitted roots signal) n p

section Laws

variable {e : Engine} {requested : List Value} {workers : Nat} {roots : List Node} {signal : Signal}
  {n : Nat} {p : Pool} {result : Except Error (Report × List String)}

/-- Whatever the schedule, the whole reports of the trees that were not stopped are merged. -/
theorem Engine.Schedules.returned (h : e.Schedules requested workers roots signal n p)
    (hreturned : p.returned? = some result) :
    let complete := (e.catalog.dispatch (e.skipped requested)).report
    p.jobs.map (·.root) = roots ∧
    (∀ job ∈ p.jobs, job.stage = .settled (if job.stopped then .error (.cancelled job.root.span.file)
      else .ok (complete job.root))) ∧
    result = .ok (Report.merge ((p.jobs.filter (!·.stopped)).map fun job => complete job.root),
      (p.jobs.filter (·.stopped)).map (·.root.span.file)) := by
  intro complete
  have hsound := Schedule.sound h (Pool.sound_submitted _ roots signal)
  obtain ⟨gathered, hgather, rfl⟩ := Option.map_eq_some_iff.1 hreturned
  obtain ⟨hstages, rfl⟩ := gather_of_sound hsound.jobs hgather
  exact ⟨hsound.roots, hstages, rfl⟩

/-- If the signal was never raised, no tree was stopped. -/
theorem Engine.Schedules.returned_of_not_raised (h : e.Schedules requested workers roots signal n p)
    (hsignal : p.signal ≠ .raised) (hreturned : p.returned? = some result) :
    result = .ok (Report.merge
      (roots.map (e.catalog.dispatch (e.skipped requested)).report), []) := by
  have hsound := Schedule.sound h (Pool.sound_submitted _ roots signal)
  obtain ⟨hroots, _, rfl⟩ := h.returned hreturned
  have hclear : ∀ job ∈ p.jobs, job.stopped = false := by
    intro job hjob
    by_contra hstopped
    exact hsignal (hsound.looks job hjob (by simpa [Job.stopped] using hstopped))
  have hall : p.jobs.filter (!·.stopped) = p.jobs :=
    List.filter_eq_self.2 fun job hjob => by simp [hclear job hjob]
  have hnone : p.jobs.filter (·.stopped) = [] :=
    List.filter_eq_nil_iff.2 fun job hjob => by simp [hclear job hjob]
  rw [hall, hnone, ← hroots, List.map_map]
  rfl

end Laws

/-- Several trees are analysed by any positive number of workers, in any order of their looks and
visits, and the signal may be raised at any moment.

Every schedule ends, and until then some worker can go on. In the end each tree adds its whole
report, or nothing if one of its own looks found the signal raised, and what is returned is the
merged report of those that add theirs. If the signal was never raised, this is the merged report of
all trees, each analysed for itself, whatever the schedule and the number of workers; it does not
depend on the order of the trees either, if detectors report in the name of their own rules and each
id is taken once, which registration sees to. Analysing one tree after the other is one of the
schedules. -/
theorem every_schedule_merges_complete_reports (e : Engine) (requested : List Value)
    (roots : List Node) (workers : Nat) (hworkers : 0 < workers) (signal : Signal) :
    ∃ complete : Node → Report,
      (∀ root, (e.analyze root requested .absent).result = .ok (complete root)) ∧
      (∀ n p, e.Schedules requested workers roots signal n p →
        n ≤ 2 * Node.totalSize roots + 2 * roots.length + 1 ∧
        (p.returned?.isSome ∨
          ∃ q, p.Work (e.catalog.dispatch (e.skipped requested)) workers q)) ∧
      (∀ n p result, e.Schedules requested workers roots signal n p → p.returned? = some result →
        p.jobs.map (·.root) = roots ∧
        (∀ job ∈ p.jobs, job.stage = .settled
          (if job.stopped then .error (.cancelled job.root.span.file)
            else .ok (complete job.root))) ∧
        result = .ok
          (Report.merge ((p.jobs.filter (!·.stopped)).map fun job => complete job.root),
            (p.jobs.filter (·.stopped)).map (·.root.span.file))) ∧
      (∀ workers' n p result, e.Schedules requested workers' roots signal n p →
        p.signal ≠ .raised → p.returned? = some result →
        result = .ok (Report.merge (roots.map complete), [])) ∧
      (e.catalog.ReportsOwnRules → e.catalog.ids.Nodup →
        ∀ roots' workers' signal' n p result, roots'.Perm roots →
          e.Schedules requested workers' roots' signal' n p → p.signal ≠ .raised →
          p.returned? = some result → result = .ok (Report.merge (roots.map complete), [])) ∧
      (∀ excluded given, Engine.requested excluded = .ok requested →
        Engine.checkWorkers (given.orElse e.settings.workers) = .ok () →
        ∃ n p, e.Schedules requested workers roots signal n p ∧
          p.returned? = some (e.analyzeMany roots excluded given signal)) := by
  refine ⟨(e.catalog.dispatch (e.skipped requested)).report,
    fun root => e.analyze_eq_report root requested, ?_, ?_, ?_, ?_, ?_⟩
  · intro n p h
    have hlength := Schedule.length_le h
    have hcost := Pool.cost_submitted_le roots signal
    exact ⟨by omega, p.exists_work _ hworkers⟩
  · intro n p result h hreturned
    exact h.returned hreturned
  · intro workers' n p result h hsignal hreturned
    exact h.returned_of_not_raised hsignal hreturned
  · intro hown hids roots' workers' signal' n p result hperm h hsignal hreturned
    rw [h.returned_of_not_raised hsignal hreturned, Catalog.merge_report_perm hown hids _ hperm]
  · intro excluded given hrequested hgiven
    exact exists_schedule_analyzeMany e hrequested hgiven hworkers roots signal

/-- Two workers, and the signal is raised after each of them has looked once. The first file is then
at its last node and adds its report, the second one is not and adds nothing. -/
theorem schedule_of_two_files :
    let probe := Probe.reporting.detector (Probe.rule "R1" .warning [.returnStatement])
    let e : Engine := ⟨⟨[probe], true⟩, {}⟩
    let first : Node := ⟨.returnStatement, ⟨"a.cpp", 1, 1, 1, 9⟩, [], []⟩
    let second : Node := ⟨.compoundStatement, ⟨"b.cpp", 1, 1, 3, 1⟩, [],
      [("statements", ⟨.returnStatement, ⟨"b.cpp", 2, 1, 2, 9⟩, [], []⟩)]⟩
    ∃ complete : Node → Report,
      (e.analyze first [] .absent).result = .ok (complete first) ∧
      (complete first).findings.map (·.rule) = ["R1"] ∧
      (∃ p, e.Schedules [] 2 [first, second] .lowered 9 p ∧
        p.returned? = some (.ok (Report.merge [complete first], ["b.cpp"]))) ∧
      ∀ n p result, e.Schedules [] 1 [second, first] .lowered n p → p.signal ≠ .raised →
        p.returned? = some result →
        result = .ok (Report.merge [complete first, complete second], []) := by
  intro probe e first second
  have hids : (Catalog.mk [probe] false).ids.Nodup := by
    have hnone : ({} : Catalog).ids.Nodup := List.nodup_nil
    exact Catalog.nodup_ids_registerAll hnone (show Catalog.registerAll {} [probe] = _ from rfl)
  have hown : e.catalog.ReportsOwnRules := by
    intro d hd c findings hinspect f hf
    obtain rfl := List.mem_singleton.1 hd
    cases hinspect
    exact ⟨c.node, _, List.mem_singleton.1 hf⟩
  obtain ⟨complete, hcomplete, _, hreturned, _, hperm, _⟩ :=
    every_schedule_merges_complete_reports e [] [first, second] 2 (by decide) .lowered
  have hfirst := hcomplete first
  refine ⟨complete, hfirst, ?_, ?_, ?_⟩
  · rw [Engine.eq_of_analyze hfirst]
    decide +kernel
  · have hskipped : e.skipped [] = [] := by decide +kernel
    let run : Run := { table := e.catalog.dispatch [], signal := .lowered }
    obtain ⟨run₁, hfirst⟩ : ∃ run₁, (run.start first).run.turn "a.cpp" (run.parents.rootPlace first)
        = (run₁, .ok []) := ⟨_, rfl⟩
    obtain ⟨run₂, q, hsecond⟩ : ∃ run₂ q,
        (run.start second).run.turn "b.cpp" (run.parents.rootPlace second) = (run₂, .ok [q]) :=
      ⟨_, _, rfl⟩
    -- The first file is at its last node when the signal is raised, the second one is not.
    let ended : Pool :=
      ⟨[⟨first, .settled (run₁.collector.finalize.map (·.1)), [false]⟩,
        ⟨second, .settled (.error (.cancelled "b.cpp")), [true, false]⟩], .raised⟩
    have hschedule : Schedule (e.catalog.dispatch []) 2 (.submitted [first, second] .lowered) 9 ended :=
      .step (.work (@Pool.Work.take _ _ [] [_] _ _ rfl (by decide))) <|
      .step (.work (@Pool.Work.take _ _ [_] [] _ _ rfl (by decide))) <|
      .step (.work (@Pool.Work.advance _ _ [] [_] _ _ _ _ (.look (by decide)))) <|
      .step (.work (@Pool.Work.advance _ _ [_] [] _ _ _ _ (.look (by decide)))) <|
      .step .raise <|
      .step (.work (@Pool.Work.advance _ _ [] [_] _ _ _ _ (.visit hfirst))) <|
      .step (.work (@Pool.Work.advance _ _ [_] [] _ _ _ _ (.visit hsecond))) <|
      .step (.work (@Pool.Work.advance _ _ [] [_] _ _ _ _ .finish)) <|
      .step (.work (@Pool.Work.advance _ _ [_] [] _ _ _ _ (.stop (Run.turn_raised rfl _ _)))) <|
      .refl _
    rw [← hskipped] at hschedule
    have hover : ended.returned?.isSome := by
      rw [Pool.returned?, Option.isSome_map]
      refine gather_isSome fun job hjob => ?_
      rcases List.mem_pair.1 hjob with rfl | rfl <;> exact ⟨_, rfl⟩
    obtain ⟨result, hresult⟩ := Option.isSome_iff_exists.1 hover
    obtain ⟨_, _, hmerged⟩ := hreturned _ _ _ hschedule hresult
    exact ⟨ended, hschedule, hresult.trans (congrArg some hmerged)⟩
  · intro n p result h
    exact hperm hown hids _ _ _ _ _ _ (.swap _ _ _) h

end CppIdioms
