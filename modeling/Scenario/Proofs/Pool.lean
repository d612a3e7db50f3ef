import Scenario.Pool
import Scenario.Proofs.Disk
import Scenario.Proofs.Run.Job
/-!
Jobs that do not disturb each other.

The steps of a pool may come in any order: flows are handed over, runs are looked at, tasks end, and
anybody cancels any run at any time. Under all of them the table holds the runs whose tasks have not
ended, and what becomes of a job depends on the steps that name it alone.
-/
namespace Scenario

namespace Pool

/-- One step of a pool. A run may also be cancelled by its token, whether it is in the table or
not: by whoever started it, or by somebody who found it in the table before. -/
inductive Action where
  | submit (id : RunId) (options : RunOptions) (now : Nat)
      (loaded : Except FlowError (Option Flow))
  | look (id : RunId) (now : Nat) (transport : Transport)
  | leave (id : RunId)
  | cancel (id : RunId)
  | signal (id : RunId)

def Action.id : Action → RunId
  | .submit id .. | .look id .. | .leave id | .cancel id | .signal id => id

/-- The id with which a flow is handed over. -/
def Action.submitted? : Action → Option RunId
  | .submit id .. => some id
  | .look .. | .leave _ | .cancel _ | .signal _ => none

def submissions (actions : List Action) : List RunId := actions.filterMap (·.submitted?)

def after (pool : Pool) : Action → Pool
  | .submit id options now loaded => pool.submit id options now loaded
  | .look id now transport => (pool.look id now transport).1
  | .leave id => pool.leave id
  | .cancel id => (pool.cancel id).2
  | .signal id => pool.signal id

def afterAll (pool : Pool) (actions : List Action) : Pool := actions.foldl after pool

section Jobs

theorem lookup_map_entry {α : Type} (entries : List (RunId × α)) (id other : RunId) (a : α) :
    (entries.map fun entry => if entry.1 = id then (id, a) else entry).lookup other =
      if other = id then (entries.lookup id).map fun _ => a else entries.lookup other := by
  induction entries with
  | nil => simp
  | cons entry entries ih =>
    obtain ⟨key, b⟩ := entry
    rw [List.map_cons, List.lookup_cons, List.lookup_cons, List.lookup_cons, ih]
    by_cases here : key = id
    · subst here
      by_cases asked : other = key
      · simp [asked]
      · simp [asked, beq_false_of_ne asked]
    · by_cases asked : other = key
      · subst asked
        simp [here]
      · simp [here, beq_false_of_ne asked, beq_false_of_ne (Ne.symm here)]

variable (pool : Pool) (id other : RunId)

theorem task?_setTask (task : RunTask) : (pool.setTask id task).task? other =
    if other = id then (pool.task? id).map fun _ => task else pool.task? other :=
  lookup_map_entry pool.tasks id other task

theorem task?_submit (options : RunOptions) (now : Nat) (loaded : Except FlowError (Option Flow)) :
    (pool.submit id options now loaded).task? other =
      (pool.task? other).or (if other = id then
        some ⟨id, pool.newJob options now loaded⟩ else none) := by
  rw [task?, submit, List.lookup_append, List.lookup_cons]
  by_cases asked : other = id
  · simp [asked, task?]
  · simp [asked, beq_false_of_ne asked, task?]

theorem task?_look (now : Nat) (transport : Transport) :
    (pool.look id now transport).1.task? other =
      if other = id then (pool.task? id).map fun task => (task.poll now transport).1
      else pool.task? other := by
  unfold look
  cases found : pool.task? id with
  | none =>
    by_cases asked : other = id
    · simp [asked, found]
    · simp [asked]
  | some task => simp [task?_setTask, found]

theorem task?_signal : (pool.signal id).task? other =
    if other = id then (pool.task? id).map RunTask.cancel else pool.task? other := by
  unfold signal
  cases found : pool.task? id with
  | none =>
    by_cases asked : other = id
    · simp [asked, found]
    · simp [asked]
  | some task => simp [task?_setTask, found]

theorem task?_leave : (pool.leave id).task? other = pool.task? other := by
  unfold leave
  split <;> rfl

theorem task?_cancel : (pool.cancel id).2.task? other =
    if other = id ∧ id ∈ pool.table then (pool.task? id).map RunTask.cancel
    else pool.task? other := by
  unfold cancel
  by_cases active : id ∈ pool.table
  · simp [active, task?_signal]
  · simp [active]

-- The same of the jobs, without the ids that their tasks carry.

theorem job?_submit (options : RunOptions) (now : Nat) (loaded : Except FlowError (Option Flow)) :
    (pool.submit id options now loaded).job? other =
      (pool.job? other).or (if other = id then
        some (pool.newJob options now loaded) else none) := by
  rw [job?, task?_submit, Option.map_or, apply_ite (Option.map RunTask.job)]
  rfl

theorem job?_look (now : Nat) (transport : Transport) :
    (pool.look id now transport).1.job? other =
      if other = id then (pool.job? id).map fun job => (job.poll now transport).1
      else pool.job? other := by
  rw [job?, task?_look, apply_ite (Option.map RunTask.job), Option.map_map, job?, Option.map_map]
  rfl

theorem job?_signal : (pool.signal id).job? other =
    if other = id then (pool.job? id).map Job.cancel else pool.job? other := by
  rw [job?, task?_signal, apply_ite (Option.map RunTask.job), Option.map_map, job?, Option.map_map]
  rfl

theorem job?_leave : (pool.leave id).job? other = pool.job? other := by
  rw [job?, task?_leave, job?]

theorem job?_cancel : (pool.cancel id).2.job? other =
    if other = id ∧ id ∈ pool.table then (pool.job? id).map Job.cancel else pool.job? other := by
  rw [job?, task?_cancel, apply_ite (Option.map RunTask.job), Option.map_map, job?, Option.map_map]
  rfl

end Jobs

section Table

variable (pool : Pool) (id other : RunId)

/-- A job was handed over with the id and is over. -/
def Ended : Prop := ∃ job, pool.job? id = some job ∧ job.isActive = false

theorem mem_table_submit (options : RunOptions) (now : Nat)
    (loaded : Except FlowError (Option Flow)) :
    other ∈ (pool.submit id options now loaded).table ↔
      other ∈ pool.table ∨ other = id ∧ (pool.newJob options now loaded).isActive = true := by
  unfold submit
  by_cases active : (pool.newJob options now loaded).isActive = true
  · simp [active]
  · simp [active]

@[simp] theorem table_look (now : Nat) (transport : Transport) :
    (pool.look id now transport).1.table = pool.table := by
  unfold look
  split <;> rfl

@[simp] theorem table_signal : (pool.signal id).table = pool.table := by
  unfold signal
  split <;> rfl

@[simp] theorem table_cancel : (pool.cancel id).2.table = pool.table := by
  unfold cancel
  split
  · exact pool.table_signal id
  · rfl

theorem mem_table_leave :
    other ∈ (pool.leave id).table ↔ other ∈ pool.table ∧ ¬ (other = id ∧ pool.Ended id) := by
  unfold leave Ended
  cases found : pool.job? id with
  | none => simp
  | some job =>
    cases active : job.isActive with
    | true => simp [active]
    | false => simp [active]

end Table

theorem newJob_after (pool : Pool) (action : Action) : (pool.after action).newJob = pool.newJob := by
  have signalled (id : RunId) : (pool.signal id).newJob = pool.newJob := by
    unfold signal
    split <;> rfl
  cases action with
  | submit => rfl
  | look id now transport =>
    unfold after look
    dsimp only
    split <;> rfl
  | leave id =>
    unfold after leave
    dsimp only
    split <;> rfl
  | cancel id =>
    unfold after cancel
    dsimp only
    split
    · exact signalled id
    · rfl
  | signal id => exact signalled id

section Apart

/-- Two pools that know the same of one job. -/
structure Agree (id : RunId) (pool twin : Pool) : Prop where
  newJob : pool.newJob = twin.newJob
  task : pool.task? id = twin.task? id
  member : id ∈ pool.table ↔ id ∈ twin.table

variable {id : RunId} {pool twin : Pool}

theorem Agree.refl (id : RunId) (pool : Pool) : Agree id pool pool :=
  ⟨rfl, rfl, Iff.rfl⟩

theorem Agree.job (agree : Agree id pool twin) : pool.job? id = twin.job? id := by
  rw [job?, agree.task, job?]

/-- What a step does to one job depends on nothing else in the pool. -/
theorem Agree.after (agree : Agree id pool twin) (action : Action) :
    Agree id (pool.after action) (twin.after action) := by
  refine ⟨by rw [newJob_after, newJob_after, agree.newJob], ?_, ?_⟩
  · cases action with
    | submit other options now loaded =>
      simp only [Pool.after, task?_submit, agree.task, agree.newJob]
    | look other now transport =>
      simp only [Pool.after, task?_look]
      by_cases asked : id = other
      · subst asked
        rw [agree.task]
      · simp only [asked, if_false, agree.task]
    | leave other => simp only [Pool.after, task?_leave, agree.task]
    | cancel other =>
      simp only [Pool.after, task?_cancel]
      by_cases asked : id = other
      · subst asked
        simp only [agree.task, agree.member]
      · simp only [asked, false_and, if_false, agree.task]
    | signal other =>
      simp only [Pool.after, task?_signal]
      by_cases asked : id = other
      · subst asked
        rw [agree.task]
      · simp only [asked, if_false, agree.task]
  · cases action with
    | submit other options now loaded =>
      simp only [Pool.after, mem_table_submit, agree.member, agree.newJob]
    | look other now transport => simp only [Pool.after, table_look, agree.member]
    | leave other =>
      simp only [Pool.after, mem_table_leave, agree.member]
      by_cases asked : id = other
      · subst asked
        simp only [Ended, agree.job]
      · simp only [asked, false_and]
    | cancel other => simp only [Pool.after, table_cancel, agree.member]
    | signal other => simp only [Pool.after, table_signal, agree.member]

theorem agree_of_ne {action : Action} (apart : id ≠ action.id) (pool : Pool) :
    Agree id (pool.after action) pool := by
  refine ⟨newJob_after pool action, ?_, ?_⟩
  · cases action with
    | submit other options now loaded =>
      have apart : id ≠ other := apart
      simp [Pool.after, task?_submit, apart]
    | look other now transport =>
      have apart : id ≠ other := apart
      simp [Pool.after, task?_look, apart]
    | leave other => exact pool.task?_leave other id
    | cancel other =>
      have apart : id ≠ other := apart
      simp [Pool.after, task?_cancel, apart]
    | signal other =>
      have apart : id ≠ other := apart
      simp [Pool.after, task?_signal, apart]
  · cases action with
    | submit other options now loaded =>
      have apart : id ≠ other := apart
      simp [Pool.after, mem_table_submit, apart]
    | look other now transport => simp [Pool.after]
    | leave other =>
      have apart : id ≠ other := apart
      simp [Pool.after, mem_table_leave, apart]
    | cancel other => simp [Pool.after]
    | signal other => simp [Pool.after]

theorem Agree.trans {third : Pool} (agree : Agree id pool twin) (other : Agree id twin third) :
    Agree id pool third :=
  ⟨agree.newJob.trans other.newJob, agree.task.trans other.task,
    agree.member.trans other.member⟩

theorem Agree.afterAll (actions : List Action) (agree : Agree id pool twin) :
    Agree id (pool.afterAll actions) (twin.afterAll (actions.filter (·.id = id))) := by
  induction actions generalizing pool twin with
  | nil => exact agree
  | cons action later ih =>
    by_cases named : action.id = id
    · rw [List.filter_cons_of_pos (by simpa using named)]
      exact ih (agree.after action)
    · rw [List.filter_cons_of_neg (by simpa using named)]
      exact ih ((agree_of_ne (Ne.symm named) pool).trans agree)

end Apart

section Labels

/-- Every task carries the id under which it is found. -/
def Labelled (pool : Pool) : Prop := ∀ id task, pool.task? id = some task → task.runId = id

variable {pool : Pool}

theorem labelled_start (registry : Registry) (tolerance : UInt32) (epoch : Nat) :
    (start registry tolerance epoch).Labelled := by
  intro id task found
  rw [task?, start, List.lookup_nil] at found
  cases found

theorem Labelled.submit (labelled : pool.Labelled) (id : RunId) (options : RunOptions) (now : Nat)
    (loaded : Except FlowError (Option Flow)) : (pool.submit id options now loaded).Labelled := by
  intro other task found
  rw [task?_submit, Option.or_eq_some_iff] at found
  rcases found with before | ⟨-, added⟩
  · exact labelled other task before
  · split at added
    · rename_i same
      cases added
      exact same.symm
    · cases added

theorem Labelled.setTask (labelled : pool.Labelled) {id : RunId} {task changed : RunTask}
    (found : pool.task? id = some task) (same : changed.runId = task.runId) :
    (pool.setTask id changed).Labelled := by
  intro other later stands
  rw [task?_setTask] at stands
  split at stands
  · rename_i named
    rw [found] at stands
    cases stands
    rw [same, labelled id task found, named]
  · exact labelled other later stands

theorem Labelled.signal (labelled : pool.Labelled) (id : RunId) : (pool.signal id).Labelled := by
  unfold Pool.signal
  split
  · rename_i task found
    exact labelled.setTask found rfl
  · exact labelled

theorem Labelled.after (labelled : pool.Labelled) (action : Action) :
    (pool.after action).Labelled := by
  cases action with
  | submit id options now loaded => exact labelled.submit id options now loaded
  | look id now transport =>
    unfold Pool.after look
    dsimp only
    split
    · rename_i task found
      exact labelled.setTask found rfl
    · exact labelled
  | leave id =>
    intro other task found
    exact labelled other task ((pool.task?_leave id other).symm.trans found)
  | cancel id =>
    unfold Pool.after cancel
    dsimp only
    split
    · exact labelled.signal id
    · exact labelled
  | signal id => exact labelled.signal id

theorem Labelled.afterAll (labelled : pool.Labelled) (actions : List Action) :
    (pool.afterAll actions).Labelled := by
  induction actions generalizing pool with
  | nil => exact labelled
  | cons action later ih => exact ih (labelled.after action)

end Labels

section Cancelled

/-- The node whose step a run starts by a step of the pool. -/
def begun? (pool : Pool) (id : RunId) : Action → Option Node
  | .look other now transport =>
    if other = id then (pool.job? id).bind (·.begun? (.look now transport)) else none
  | .submit .. | .leave _ | .cancel _ | .signal _ => none

/-- The nodes whose steps a run starts, in the order in which it does. -/
def begun (pool : Pool) (id : RunId) : List Action → List Node
  | [] => []
  | action :: later => (pool.begun? id action).toList ++ (pool.after action).begun id later

variable {pool : Pool} {id : RunId} {job : Job}

theorem job?_after (found : pool.job? id = some job) (action : Action) :
    (pool.after action).job? id = some job ∨
      ∃ event, (pool.after action).job? id = some (job.after event) := by
  by_cases named : id = action.id
  · cases action with
    | submit other options now loaded =>
      left
      simp [after, job?_submit, found]
    | look other now transport =>
      have same : other = id := named.symm
      subst same
      right
      exact ⟨.look now transport, by simp [after, job?_look, found, Job.after]⟩
    | leave other =>
      left
      simp [after, job?_leave, found]
    | cancel other =>
      have same : other = id := named.symm
      subst same
      by_cases active : other ∈ pool.table
      · right
        exact ⟨.cancel, by simp [after, job?_cancel, active, found, Job.after]⟩
      · left
        simp [after, job?_cancel, active, found]
    | signal other =>
      have same : other = id := named.symm
      subst same
      right
      exact ⟨.cancel, by simp [after, job?_signal, found, Job.after]⟩
  · left
    rw [(agree_of_ne named pool).job, found]

theorem begun_of_halted (found : pool.job? id = some job) (halted : job.Halted)
    (later : List Action) : pool.begun id later = [] := by
  induction later generalizing pool job with
  | nil => rfl
  | cons action later ih =>
    have none : pool.begun? id action = none := by
      cases action with
      | look other now transport =>
        simp only [begun?, found, Option.bind_some, halted.begun?_eq, ite_self]
      | submit | leave | cancel | signal => rfl
    rw [begun, none, Option.toList_none, List.nil_append]
    rcases job?_after found action with kept | ⟨event, moved⟩
    · exact ih kept halted
    · exact ih moved (halted.after event)

end Cancelled

section History

/-- A flow that makes a graph was handed over with the id. -/
def Spawned (id : RunId) (actions : List Action) : Prop :=
  ∃ options now loaded graph, .submit id options now loaded ∈ actions ∧
    graphToRun loaded = .ok graph

/-- The run had ended, and then its task did. -/
def TaskEnded (pool : Pool) (id : RunId) (actions : List Action) : Prop :=
  ∃ before, before ++ [.leave id] <+: actions ∧ (pool.afterAll before).Ended id

variable {pool : Pool} {id : RunId} {actions : List Action}

theorem afterAll_append (pool : Pool) (actions later : List Action) :
    pool.afterAll (actions ++ later) = (pool.afterAll actions).afterAll later :=
  List.foldl_append

theorem afterAll_snoc (pool : Pool) (actions : List Action) (action : Action) :
    pool.afterAll (actions ++ [action]) = (pool.afterAll actions).after action :=
  pool.afterAll_append actions [action]

theorem submissions_snoc (actions : List Action) (action : Action) :
    submissions (actions ++ [action]) = submissions actions ++ action.submitted?.toList := by
  cases action <;> simp [submissions, Action.submitted?]

theorem spawned_snoc (action : Action) : Spawned id (actions ++ [action]) ↔
    Spawned id actions ∨ ∃ options now loaded graph, action = .submit id options now loaded ∧
      graphToRun loaded = .ok graph := by
  simp only [Spawned, List.mem_append, List.mem_singleton]
  constructor
  · rintro ⟨options, now, loaded, graph, before | last, made⟩
    · exact .inl ⟨options, now, loaded, graph, before, made⟩
    · exact .inr ⟨options, now, loaded, graph, last.symm, made⟩
  · rintro (⟨options, now, loaded, graph, before, made⟩ | ⟨options, now, loaded, graph, rfl, made⟩)
    · exact ⟨options, now, loaded, graph, .inl before, made⟩
    · exact ⟨options, now, loaded, graph, .inr rfl, made⟩

theorem taskEnded_snoc (action : Action) : TaskEnded pool id (actions ++ [action]) ↔
    TaskEnded pool id actions ∨ action = .leave id ∧ (pool.afterAll actions).Ended id := by
  constructor
  · rintro ⟨before, inside, ended⟩
    rcases List.prefix_concat_iff.mp inside with whole | earlier
    · obtain ⟨same, last⟩ := List.append_inj' whole rfl
      subst same
      exact .inr ⟨(List.singleton_inj.mp last).symm, ended⟩
    · exact .inl ⟨before, earlier, ended⟩
  · rintro (⟨before, earlier, ended⟩ | ⟨rfl, ended⟩)
    · exact ⟨before, earlier.trans (List.prefix_append actions [action]), ended⟩
    · exact ⟨actions, List.prefix_refl _, ended⟩

theorem isSome_job?_after (pool : Pool) (id : RunId) (action : Action) :
    ((pool.after action).job? id).isSome ↔
      (pool.job? id).isSome ∨ action.submitted? = some id := by
  cases action with
  | submit other options now loaded =>
    by_cases asked : id = other
    · simp [after, job?_submit, Action.submitted?, asked]
    · simp [after, job?_submit, Action.submitted?, asked, Ne.symm asked]
  | look other now transport =>
    by_cases asked : id = other
    · simp [after, job?_look, Action.submitted?, asked]
    · simp [after, job?_look, Action.submitted?, asked]
  | leave other => simp [after, job?_leave, Action.submitted?]
  | cancel other =>
    by_cases asked : id = other ∧ other ∈ pool.table
    · simp [after, job?_cancel, Action.submitted?, asked]
    · simp [after, job?_cancel, Action.submitted?, asked]
  | signal other =>
    by_cases asked : id = other
    · simp [after, job?_signal, Action.submitted?, asked]
    · simp [after, job?_signal, Action.submitted?, asked]

variable (registry : Registry) (tolerance : UInt32) (epoch : Nat)

theorem isSome_job?_iff (id : RunId) (actions : List Action) :
    (((start registry tolerance epoch).afterAll actions).job? id).isSome ↔
      id ∈ submissions actions := by
  induction actions using List.reverseRecOn with
  | nil => simp [afterAll, start, job?, task?, submissions]
  | append_singleton actions action ih =>
    rw [afterAll_snoc, isSome_job?_after, ih, submissions_snoc, List.mem_append]
    simp [eq_comm]

theorem isActive_newJob_iff (pool : Pool) (options : RunOptions) (now : Nat)
    (loaded : Except FlowError (Option Flow)) :
    (pool.newJob options now loaded).isActive = true ↔ ∃ graph, graphToRun loaded = .ok graph := by
  unfold newJob Job.start
  cases graphToRun loaded with
  | ok graph => exact iff_of_true rfl ⟨graph, rfl⟩
  | error e => exact iff_of_false nofun nofun

/-- What is known of a table after some steps. -/
structure Tracks (start : Pool) (actions : List Action) : Prop where
  member : ∀ id, id ∈ (start.afterAll actions).table ↔
    Spawned id actions ∧ ¬ start.TaskEnded id actions
  distinct : (start.afterAll actions).table.Nodup
  accepted : ∀ id, Spawned id actions →
    ∃ run, (start.afterAll actions).job? id = some (.accepted run)

theorem accepted_after {pool : Pool} {id : RunId} {run : Run}
    (found : pool.job? id = some (.accepted run)) (action : Action) :
    ∃ after, (pool.after action).job? id = some (.accepted after) := by
  rcases job?_after found action with kept | ⟨event, moved⟩
  · exact ⟨run, kept⟩
  · cases event <;> exact ⟨_, moved⟩

theorem not_taskEnded_of_fresh {id : RunId} {actions : List Action}
    (fresh : id ∉ submissions actions) :
    ¬ (start registry tolerance epoch).TaskEnded id actions := by
  rintro ⟨before, ⟨later, rfl⟩, job, found, -⟩
  have present : id ∈ submissions before :=
    (isSome_job?_iff registry tolerance epoch id before).mp (by simp [found])
  apply fresh
  simp only [submissions, List.filterMap_append, List.mem_append] at present ⊢
  exact .inl (.inl present)

theorem not_spawned_of_fresh {id : RunId} {actions : List Action}
    (fresh : id ∉ submissions actions) : ¬ Spawned id actions := by
  rintro ⟨options, now, loaded, graph, member, -⟩
  exact fresh (List.mem_filterMap.mpr ⟨_, member, rfl⟩)

theorem newJob_of_graphToRun (pool : Pool) (options : RunOptions) (now : Nat)
    {loaded : Except FlowError (Option Flow)} {graph : Graph}
    (made : graphToRun loaded = .ok graph) :
    ∃ run, pool.newJob options now loaded = .accepted run := by
  rw [newJob, Job.start, made]
  exact ⟨_, rfl⟩

variable {registry tolerance epoch}

section Step

variable {actions : List Action} (tracks : Tracks (start registry tolerance epoch) actions)

include tracks

theorem Tracks.submit {other : RunId} {options : RunOptions} {now : Nat}
    {loaded : Except FlowError (Option Flow)} (fresh : other ∉ submissions actions) :
    Tracks (start registry tolerance epoch)
      (actions ++ [.submit other options now loaded]) := by
  have unknown : ((start registry tolerance epoch).afterAll actions).job? other = none := by
    rw [← Option.not_isSome_iff_eq_none, isSome_job?_iff]
    exact fresh
  have absent : other ∉ ((start registry tolerance epoch).afterAll actions).table := by
    rw [tracks.member]
    exact fun ⟨spawned, _⟩ => not_spawned_of_fresh fresh spawned
  constructor
  · intro id
    rw [afterAll_snoc, spawned_snoc, taskEnded_snoc, after, mem_table_submit, tracks.member,
      isActive_newJob_iff]
    by_cases asked : id = other
    · subst asked
      simp [not_spawned_of_fresh fresh, not_taskEnded_of_fresh registry tolerance epoch fresh]
    · simp [asked, Ne.symm asked]
  · rw [afterAll_snoc, after, Pool.submit]
    dsimp only
    split
    · exact List.nodup_append.mpr ⟨tracks.distinct, List.nodup_singleton other,
        fun a member b last => fun same => absent (List.mem_singleton.mp last ▸ same ▸ member)⟩
    · exact tracks.distinct
  · intro id spawned
    rw [afterAll_snoc]
    rcases (spawned_snoc _).mp spawned with before | ⟨_, _, _, graph, same, made⟩
    · obtain ⟨run, found⟩ := tracks.accepted id before
      exact accepted_after found _
    · cases same
      obtain ⟨run, accepted⟩ := newJob_of_graphToRun
        ((start registry tolerance epoch).afterAll actions) options now made
      exact ⟨run, by simp [after, job?_submit, unknown, accepted]⟩

theorem Tracks.leave (other : RunId) :
    Tracks (start registry tolerance epoch) (actions ++ [.leave other]) := by
  constructor
  · intro id
    rw [afterAll_snoc, spawned_snoc, taskEnded_snoc, after, mem_table_leave, tracks.member]
    by_cases asked : id = other
    · simp [asked, and_assoc]
    · simp [asked, Ne.symm asked]
  · rw [afterAll_snoc, after, Pool.leave]
    split
    · exact tracks.distinct
    · exact tracks.distinct.filter _
  · intro id spawned
    rw [afterAll_snoc]
    rcases (spawned_snoc _).mp spawned with before | ⟨_, _, _, _, same, _⟩
    · obtain ⟨run, found⟩ := tracks.accepted id before
      exact accepted_after found _
    · cases same

theorem Tracks.aside {action : Action}
    (same : (((start registry tolerance epoch).afterAll actions).after action).table =
      ((start registry tolerance epoch).afterAll actions).table)
    (submits : ∀ id options now loaded, action ≠ .submit id options now loaded)
    (leaves : ∀ id, action ≠ .leave id) :
    Tracks (start registry tolerance epoch) (actions ++ [action]) := by
  constructor
  · intro id
    rw [afterAll_snoc, spawned_snoc, taskEnded_snoc, same, tracks.member]
    simp [submits, leaves]
  · rw [afterAll_snoc, same]
    exact tracks.distinct
  · intro id spawned
    rw [afterAll_snoc]
    rcases (spawned_snoc _).mp spawned with before | ⟨_, _, _, _, last, _⟩
    · obtain ⟨run, found⟩ := tracks.accepted id before
      exact accepted_after found _
    · exact (submits _ _ _ _ last).elim

end Step

theorem tracks_afterAll (actions : List Action) (distinct : (submissions actions).Nodup) :
    Tracks (start registry tolerance epoch) actions := by
  induction actions using List.reverseRecOn with
  | nil =>
    constructor
    · intro id
      simp [afterAll, start, Spawned]
    · exact .nil
    · rintro id ⟨_, _, _, _, ⟨⟩, _⟩
  | append_singleton actions action ih =>
    rw [submissions_snoc, List.nodup_append] at distinct
    have tracks := ih distinct.1
    cases action with
    | submit id options now loaded =>
      refine tracks.submit fun member => ?_
      exact distinct.2.2 id member id (by simp [Action.submitted?]) rfl
    | leave id => exact tracks.leave id
    | look | cancel | signal => exact tracks.aside (by simp [after]) nofun nofun

end History

section Active

variable {pool : Pool}

theorem mem_active_iff (pool : Pool) (id : RunId) : id ∈ pool.active ↔ id ∈ pool.table :=
  List.mem_mergeSort

theorem active_ascending (distinct : pool.table.Nodup) :
    pool.active.Pairwise fun a b => a.number < b.number := by
  have sorted : pool.active.Pairwise fun a b => decide (a.number ≤ b.number) = true := by
    apply List.pairwise_mergeSort
    · intro a b c first second
      exact decide_eq_true (Fin.le_trans (of_decide_eq_true first) (of_decide_eq_true second))
    · intro a b
      simpa using Fin.le_total a.number b.number
  have apart : pool.active.Nodup := (List.mergeSort_perm _ _).nodup_iff.mpr distinct
  refine (sorted.and apart).imp ?_
  rintro ⟨a⟩ ⟨b⟩ ⟨le, ne⟩
  refine Nat.lt_of_le_of_ne (of_decide_eq_true le) fun same => ne ?_
  exact congrArg RunId.mk (Fin.ext same)

/-- No run is active whose result was delivered, nor will it be. -/
theorem not_mem_table_of_fresh {id : RunId} (absent : id ∉ pool.table) {later : List Action}
    (fresh : id ∉ submissions later) : id ∉ (pool.afterAll later).table := by
  induction later generalizing pool with
  | nil => exact absent
  | cons action later ih =>
    have apart : action.submitted? ≠ some id ∧ id ∉ submissions later := by
      constructor
      · intro same
        exact fresh (List.mem_filterMap.mpr ⟨action, List.mem_cons_self, same⟩)
      · intro member
        obtain ⟨other, inside, same⟩ := List.mem_filterMap.mp member
        exact fresh (List.mem_filterMap.mpr ⟨other, List.mem_cons_of_mem action inside, same⟩)
    refine ih ?_ apart.2
    cases action with
    | submit other options now loaded =>
      have ne : id ≠ other := fun same => apart.1 (congrArg some same.symm)
      simp [after, mem_table_submit, absent, ne]
    | leave other => simp [after, mem_table_leave, absent]
    | look | cancel | signal => simpa [after] using absent

theorem absent_of_outcome {id : RunId} {outcome : List LogEntry × RunResult}
    (delivered : pool.outcome? id = some outcome) :
    id ∉ pool.table ∧ (pool.job? id).isSome := by
  unfold outcome? at delivered
  constructor
  · intro active
    simp [active] at delivered
  · cases found : pool.task? id with
    | none => simp [found] at delivered
    | some task => simp [job?, found]

/-- To set the token of a run cancels that run and no other: it starts no step any more. -/
structure Stops (pool : Pool) (id : RunId) : Prop where
  token : ∃ run, pool.job? id = some (.accepted run) ∧
    (pool.signal id).job? id = some (.accepted run.cancel)
  others : ∀ other, other ≠ id → (pool.signal id).job? other = pool.job? other
  table : (pool.signal id).table = pool.table
  halts : ∀ later, (pool.signal id).begun id later = []

theorem stops_of_accepted {id : RunId} {run : Run}
    (found : pool.job? id = some (.accepted run)) : pool.Stops id := by
  have signalled : (pool.signal id).job? id = some (.accepted run.cancel) := by
    simp [job?_signal, found, Job.cancel]
  constructor
  · exact ⟨run, found, signalled⟩
  · intro other apart
    rw [job?_signal, if_neg apart]
  · exact pool.table_signal id
  · exact begun_of_halted signalled (.inl rfl)

theorem accepted_afterAll {id : RunId} {run : Run} (found : pool.job? id = some (.accepted run))
    (later : List Action) : ∃ after, (pool.afterAll later).job? id = some (.accepted after) := by
  induction later generalizing pool run with
  | nil => exact ⟨run, found⟩
  | cons action later ih =>
    obtain ⟨after, kept⟩ := accepted_after found action
    exact ih kept

end Active

/-- The runs of a pool are kept apart: `pool` is what some steps make of `origin`. -/
structure Orderly (origin : Pool) (actions : List Action) (pool : Pool) : Prop where
  /-- The table holds the runs that were spawned and whose tasks have not ended. -/
  member : ∀ id, id ∈ pool.table ↔ Spawned id actions ∧ ¬ origin.TaskEnded id actions
  listed : ∀ id, id ∈ pool.active ↔ id ∈ pool.table
  ascending : pool.active.Pairwise fun a b => a.number < b.number
  found : ∀ id, (pool.cancel id).1 = true ↔ id ∈ pool.table
  cancelled : ∀ id ∈ pool.table, (pool.cancel id).2 = pool.signal id
  refused : ∀ id, id ∉ pool.table → (pool.cancel id).2 = pool
  /-- Whoever found a run in the table stops it, whatever came between. -/
  stops : ∀ id ∈ pool.table, ∀ between, (pool.afterAll between).Stops id
  /-- A run whose result was delivered is never active again. -/
  delivered : ∀ id outcome, pool.outcome? id = some outcome → ∀ later,
    (submissions (actions ++ later)).Nodup → id ∉ (pool.afterAll later).table
  /-- What becomes of a job is what the steps that name it make of it. -/
  apart : ∀ id, pool.job? id = (origin.afterAll (actions.filter (·.id = id))).job? id ∧
    pool.outcome? id = (origin.afterAll (actions.filter (·.id = id))).outcome? id

theorem Agree.outcome?_eq {id : RunId} {pool twin : Pool} (agree : Agree id pool twin) :
    pool.outcome? id = twin.outcome? id := by
  unfold outcome?
  simp only [agree.member, agree.task]

/-- In whatever order flows are handed over, runs are looked at, tasks end, and runs are cancelled:
if no id is given twice, the runs are kept apart. -/
theorem afterAll_orderly (registry : Registry) (tolerance : UInt32) (epoch : Nat)
    (actions : List Action) (distinct : (submissions actions).Nodup) :
    Orderly (start registry tolerance epoch) actions
      ((start registry tolerance epoch).afterAll actions) := by
  have tracks : Tracks (start registry tolerance epoch) actions := tracks_afterAll actions distinct
  constructor
  · exact tracks.member
  · exact mem_active_iff _
  · exact active_ascending tracks.distinct
  · intro id
    unfold cancel
    split <;> simp [*]
  · intro id active
    rw [cancel, if_pos active]
  · intro id absent
    rw [cancel, if_neg absent]
  · intro id active between
    obtain ⟨run, found⟩ := tracks.accepted id ((tracks.member id).mp active).1
    obtain ⟨after, kept⟩ := accepted_afterAll found between
    exact stops_of_accepted kept
  · intro id outcome delivered later once
    obtain ⟨absent, present⟩ := absent_of_outcome delivered
    rw [submissions, List.filterMap_append, List.nodup_append] at once
    refine not_mem_table_of_fresh absent fun member => ?_
    have known := (isSome_job?_iff registry tolerance epoch id actions).mp present
    exact once.2.2 id known id member rfl
  · intro id
    have agree := (Agree.refl id (start registry tolerance epoch)).afterAll actions
    exact ⟨agree.job, agree.outcome?_eq⟩

/-- Two runs and a job that is rejected; one of the runs is cancelled and leaves. -/
def traffic : List Action :=
  [.submit (.ofNat 1) .default 0 (.ok (some .polling)), .submit (.ofNat 2) .default 0 (.ok none),
    .submit (.ofNat 3) .default 0 (.ok (some .polling)), .look (.ofNat 1) 0 .offline,
    .cancel (.ofNat 1), .look (.ofNat 3) 1 .offline, .look (.ofNat 1) 1 .offline,
    .leave (.ofNat 1), .leave (.ofNat 3)]

theorem traffic_orderly :
    (submissions traffic).Nodup ∧
      let pool := (start .standard 0 0).afterAll traffic
      pool.table = [.ofNat 3] ∧ (pool.cancel (.ofNat 3)).1 = true ∧
        (pool.cancel (.ofNat 1)).1 = false ∧ pool.Stops (.ofNat 3) ∧
        (∃ outcome, pool.outcome? (.ofNat 1) = some outcome) ∧
        ∀ later, (submissions (traffic ++ later)).Nodup →
          RunId.ofNat 1 ∉ (pool.afterAll later).table := by
  have distinct : (submissions traffic).Nodup := by decide
  have orderly := afterAll_orderly .standard 0 0 traffic distinct
  have table : ((start .standard 0 0).afterAll traffic).table = [.ofNat 3] := by rfl
  have delivered : (((start .standard 0 0).afterAll traffic).outcome? (.ofNat 1)).isSome := by rfl
  obtain ⟨outcome, delivered⟩ := Option.isSome_iff_exists.mp delivered
  have active : RunId.ofNat 3 ∈ ((start .standard 0 0).afterAll traffic).table := by
    rw [table]
    exact List.mem_singleton_self _
  have absent : RunId.ofNat 1 ∉ ((start .standard 0 0).afterAll traffic).table := by
    rw [table]
    decide
  refine ⟨distinct, table, (orderly.found _).mpr active, ?_, orderly.stops _ active [],
    ⟨outcome, delivered⟩, orderly.delivered _ outcome delivered⟩
  exact Bool.eq_false_iff.mpr fun found => absent ((orderly.found _).mp found)

end Pool

end Scenario
