import Mathlib.Logic.Relation
import ObjectVolume.Proofs.Eviction.Course
/-!
# Tasks that a call leaves behind

| here | there |
| --- | --- |
| `Task.reader`, `Owner.handle` | the producer of `bulk_delete` and its `AbortOnDropHandle` |
| `Task.unstarted`, `Task.started`, `Owner.set` | the workers of `parallel_delete` and their `JoinSet` |
| `Spawned.drop` | what becomes of a task when `run_cancellable` drops the operation |
| `Runtime`, `Runtime.Aborts` | **the boundary of the model**: the runtime, and what it documents of abortion |

A call is a task that spawns others. When it is left, the owners of these are dropped, and the tasks are
still there: what becomes of them is up to the runtime, and `Step` says nothing of it. `Runtime` has the
two questions that matter, and `Runtime.Aborts` the answers that handle, set and runtime are documented
to give.

A task has turns, each from one wait to the next. If another thread is in the middle of a turn when the
task is aborted, it comes to the end of this turn. `Later` goes through all that can happen. Whatever
the runtime does, the store stays as a call that was not left might have had it on its way
(`Later.interim`). If the runtime aborts what is dropped, all the tasks come to an end, with no more turns
than those that threads were in the middle of, and after these the store changes no more
(`Later.stopped`).
-/
namespace ObjectVolume.Eviction

open Store (Memory memory)

/-! ## Tasks and their turns -/

/-- A task that a call has spawned and that is not over. -/
inductive Task where
  /-- Reads the listing of the bulk pass. -/
  | reader
  /-- A removal that has been dispatched and has had no turn yet. -/
  | unstarted (ref : ObjectRef)
  /-- A removal that has started and waits. -/
  | started (ref : ObjectRef)
  deriving DecidableEq

/-- What a call keeps its tasks by. -/
inductive Owner where
  /-- A handle that aborts its task when it is dropped. -/
  | handle
  /-- A set that aborts its tasks when it is dropped. -/
  | set

def Task.owner : Task → Owner
  | reader => .handle
  | unstarted _ | started _ => .set

/-- The tasks that are at work at a stage. A version of the marker, and the bucket, are removed by the call
itself. -/
def Stage.tasks : Stage → List Task
  | bulk _ p => if p.reader = .reading then [.reader] else []
  | single _ _ p => p.dispatched.map .unstarted ++ p.running.map .started
  | _ => []

variable {σ : Type} {S : Store σ} {c : Call} {bucket : String}

/-- One turn of a task in a store, what is left of the task, and the store after it. What the reader
reads was listed beforehand. -/
inductive Turn (S : Store σ) (bucket : String) : Task → σ → Option Task → σ → Prop
  | read (s : σ) : Turn S bucket .reader s (some .reader) s
  | readLast (s : σ) : Turn S bucket .reader s none s
  | start (ref : ObjectRef) (s : σ) :
      Turn S bucket (.unstarted ref) s (some (.started ref)) (S.startRemoval bucket ref s)
  | finish (ref : ObjectRef) (s : σ) {ending : Single.Ending}
      (ends : (S.endRemoval bucket ref s).1.ending = some ending) :
      Turn S bucket (.started ref) s none (S.endRemoval bucket ref s).2
  | stall (ref : ObjectRef) (s : σ) (stalls : (S.endRemoval bucket ref s).1.ending = none) :
      Turn S bucket (.started ref) s (some (.started ref)) (S.endRemoval bucket ref s).2

/-- Tasks that a set owns are tasks of the single pass. -/
theorem single_of_mem_tasks {stage : Stage} {task : Task} (h : task ∈ stage.tasks)
    (hset : task.owner = .set) : ∃ primary rest p, stage = .single primary rest p := by
  cases stage with
  | single primary rest p => exact ⟨primary, rest, p, rfl⟩
  | bulk rest p =>
    simp only [Stage.tasks] at h
    split at h
    · rw [List.mem_singleton.1 h] at hset
      cases hset
    · cases h
  | _ => cases h

/-! ## The runtime -/

/-- A task as its runtime has it. -/
structure Spawned where
  task : Task
  /-- A thread is in the middle of a turn of the task. -/
  inTurn : Bool
  aborted : Bool := false

/-- What a runtime decides about tasks whose owner is dropped. -/
structure Runtime where
  /-- Dropping the owner aborts the task. -/
  aborts : Owner → Bool
  /-- A task that waits, aborted or not, may be given another turn. -/
  givesTurn : (aborted : Bool) → Bool

/-- The owner of a task is dropped. -/
def Spawned.drop (R : Runtime) (t : Spawned) : Spawned :=
  { t with aborted := t.aborted || R.aborts t.task.owner }

/-- What is documented: both owners abort what they own when they are dropped, and a task that was
aborted while it waits is given no turn any more. -/
structure Runtime.Aborts (R : Runtime) : Prop where
  owned : ∀ o, R.aborts o = true
  final : R.givesTurn true = false

/-- A runtime where tasks outlive their owners. -/
def Runtime.detaching : Runtime :=
  ⟨fun _ => false, fun _ => true⟩

/-- One step of a runtime with tasks that are left behind. -/
inductive RuntimeStep (R : Runtime) (S : Store σ) (bucket : String) :
    σ × List Spawned → σ × List Spawned → Prop
  /-- A thread begins a turn. -/
  | enter {s : σ} {before after : List Spawned} {t : Spawned} (waits : t.inTurn = false)
      (given : R.givesTurn t.aborted = true) :
      RuntimeStep R S bucket (s, before ++ t :: after) (s, before ++ { t with inTurn := true } :: after)
  /-- A thread comes to the end of a turn, which an abortion does not prevent. -/
  | leave {s s' : σ} {before after : List Spawned} {t : Spawned} {next : Option Task}
      (inTurn : t.inTurn = true) (turn : Turn S bucket t.task s next s') :
      RuntimeStep R S bucket (s, before ++ t :: after)
        (s', before ++ (next.toList.map fun task => { t with task, inTurn := false }) ++ after)
  /-- An aborted task is over. -/
  | shut {s : σ} {before after : List Spawned} {t : Spawned} (waits : t.inTurn = false)
      (aborted : t.aborted = true) :
      RuntimeStep R S bucket (s, before ++ t :: after) (s, before ++ after)

/-- All that a runtime can come to with tasks that are left behind. -/
def Later (R : Runtime) (S : Store σ) (bucket : String) :
    σ × List Spawned → σ × List Spawned → Prop :=
  Relation.ReflTransGen (RuntimeStep R S bucket)

/-- The tasks that a thread is in the middle of a turn of. -/
def midTurn (tasks : List Spawned) : List Task :=
  (tasks.filter (·.inTurn)).map (·.task)

/-- No thread is in the middle of a turn. -/
def Quiet (tasks : List Spawned) : Prop :=
  ∀ t ∈ tasks, t.inTurn = false

/-- Each of the tasks comes to the end of one turn, in this order. -/
inductive Turns (S : Store σ) (bucket : String) : σ → List Task → σ → Prop
  | nil (s : σ) : Turns S bucket s [] s
  | concat {s s' s'' : σ} {tasks : List Task} {task : Task} {next : Option Task}
      (earlier : Turns S bucket s tasks s') (turn : Turn S bucket task s' next s'') :
      Turns S bucket s (tasks ++ [task]) s''

/-- On every way that tasks left behind can take from here, all of them come to an end. -/
inductive Cleared (R : Runtime) (S : Store σ) (bucket : String) : σ × List Spawned → Prop
  | over (s : σ) : Cleared R S bucket (s, [])
  | steps {p : σ × List Spawned} : (∃ q, RuntimeStep R S bucket p q) →
      (∀ q, RuntimeStep R S bucket p q → Cleared R S bucket q) → Cleared R S bucket p

/-- Tasks that are left behind change the store no more. -/
def Ceased (R : Runtime) (S : Store σ) (bucket : String) (s : σ) (tasks : List Spawned) : Prop :=
  ∀ s' tasks', Later R S bucket (s, tasks) (s', tasks') → s' = s

variable {R : Runtime} {s s' : σ} {tasks tasks' : List Spawned}

/-! ## Dropped tasks do nothing more -/

theorem aborted_drop (aborts : R.Aborts) {t : Spawned} (h : t ∈ tasks.map (·.drop R)) :
    t.aborted = true := by
  obtain ⟨u, _, rfl⟩ := List.mem_map.1 h
  simp [Spawned.drop, aborts.owned]

/-- An abortion is never taken back. -/
theorem RuntimeStep.aborted (h : RuntimeStep R S bucket (s, tasks) (s', tasks'))
    (ha : ∀ t ∈ tasks, t.aborted = true) : ∀ t ∈ tasks', t.aborted = true := by
  intro t ht
  cases h with
  | @enter _ before after u waits given =>
    have hu : u.aborted = true := ha u (by simp)
    rcases List.mem_append.1 ht with ht | ht
    · exact ha t (by simp [ht])
    · rcases List.mem_cons.1 ht with rfl | ht
      · exact hu
      · exact ha t (by simp [ht])
  | @leave _ _ before after u next inTurn turn =>
    have hu : u.aborted = true := ha u (by simp)
    rcases List.mem_append.1 ht with ht | ht
    · rcases List.mem_append.1 ht with ht | ht
      · exact ha t (by simp [ht])
      · obtain ⟨task, _, rfl⟩ := List.mem_map.1 ht
        exact hu
    · exact ha t (by simp [ht])
  | @shut _ before after u waits aborted =>
    rcases List.mem_append.1 ht with ht | ht <;> exact ha t (by simp [ht])

theorem Later.aborted {p q : σ × List Spawned} (h : Later R S bucket p q)
    (ha : ∀ t ∈ p.2, t.aborted = true) : ∀ t ∈ q.2, t.aborted = true := by
  induction h with
  | refl => exact ha
  | tail _ step ih => exact step.aborted ih

theorem midTurn_of_quiet (h : Quiet tasks) : midTurn tasks = [] := by
  rw [midTurn, List.filter_eq_nil_iff.2 fun t ht => by simp [h t ht]]
  rfl

theorem Turns.eq_of_nil (h : Turns S bucket s [] s') : s' = s := by
  generalize hnone : ([] : List Task) = none at h
  cases h with
  | nil => rfl
  | concat => simp at hnone

/-- In a step of aborted tasks, one that a thread is in the middle of a turn of comes to the end of it,
or one that waits is over. No further turn begins. -/
theorem RuntimeStep.finishes (aborts : R.Aborts) (h : RuntimeStep R S bucket (s, tasks) (s', tasks'))
    (ha : ∀ t ∈ tasks, t.aborted = true) :
    (s' = s ∧ midTurn tasks' = midTurn tasks ∧ tasks'.length < tasks.length) ∨
      ∃ task next, Turn S bucket task s next s' ∧ (task :: midTurn tasks').Perm (midTurn tasks) ∧
        tasks'.length ≤ tasks.length := by
  cases h with
  | @enter _ before after t waits given =>
    rw [ha t (by simp), aborts.final] at given
    cases given
  | @leave _ _ before after t next inTurn turn =>
    refine .inr ⟨t.task, next, turn, ?_, by cases next <;> simp⟩
    have hover : midTurn (next.toList.map fun task => { t with task, inTurn := false }) = [] :=
      midTurn_of_quiet fun u hu => by
        obtain ⟨task, _, rfl⟩ := List.mem_map.1 hu
        rfl
    simp only [midTurn] at hover
    simpa [midTurn, List.filter_cons, inTurn, hover] using List.perm_middle.symm
  | shut waits aborted => exact .inl ⟨rfl, by simp [midTurn, waits], by simp⟩

/-- **Aborted tasks.** The only turns that come after their abortion are those that threads were in the
middle of, one of each. -/
theorem Later.turns (aborts : R.Aborts) (ha : ∀ t ∈ tasks, t.aborted = true)
    {q : σ × List Spawned} (h : Later R S bucket (s, tasks) q) :
    ∃ finished, Turns S bucket s finished q.1 ∧ (finished ++ midTurn q.2).Perm (midTurn tasks) := by
  induction h with
  | refl => exact ⟨[], .nil s, .refl _⟩
  | @tail p q hlater step ih =>
    obtain ⟨finished, hturns, hperm⟩ := ih
    rcases step.finishes aborts (Later.aborted hlater ha) with
      ⟨hstore, hmid, -⟩ | ⟨task, next, turn, hmid, -⟩
    · exact ⟨finished, hstore ▸ hturns, hmid ▸ hperm⟩
    · refine ⟨finished ++ [task], .concat hturns turn, ?_⟩
      rw [List.append_assoc, List.singleton_append]
      exact (hmid.append_left finished).trans hperm

/-- A turn can always come to its end. -/
theorem exists_turn (S : Store σ) (bucket : String) (task : Task) (s : σ) :
    ∃ next s', Turn S bucket task s next s' := by
  cases task with
  | reader => exact ⟨_, _, .readLast s⟩
  | unstarted ref => exact ⟨_, _, .start ref s⟩
  | started ref =>
    cases hending : (S.endRemoval bucket ref s).1.ending with
    | none => exact ⟨_, _, .stall ref s hending⟩
    | some ending => exact ⟨_, _, .finish ref s hending⟩

theorem RuntimeStep.exists_of_aborted {t : Spawned} (aborted : t.aborted = true) :
    ∃ q, RuntimeStep R S bucket (s, t :: tasks) q := by
  cases hturn : t.inTurn with
  | false => exact ⟨_, @RuntimeStep.shut _ R S bucket s [] tasks t hturn aborted⟩
  | true =>
    obtain ⟨next, s', turn⟩ := exists_turn S bucket t.task s
    exact ⟨_, @RuntimeStep.leave _ R S bucket s s' [] tasks t next hturn turn⟩

/-- A step of aborted tasks leaves fewer of them, or fewer turns. -/
theorem RuntimeStep.fewer (aborts : R.Aborts) (h : RuntimeStep R S bucket (s, tasks) (s', tasks'))
    (ha : ∀ t ∈ tasks, t.aborted = true) :
    tasks'.length + (midTurn tasks').length < tasks.length + (midTurn tasks).length := by
  rcases h.finishes aborts ha with ⟨-, hmid, hlt⟩ | ⟨task, next, -, hmid, hle⟩
  · rw [hmid]
    omega
  · have hlength := hmid.length_eq
    rw [List.length_cons] at hlength
    omega

/-- Aborted tasks come to an end. -/
theorem cleared_of_aborted (aborts : R.Aborts) (ha : ∀ t ∈ tasks, t.aborted = true) :
    Cleared R S bucket (s, tasks) := by
  induction hn : tasks.length + (midTurn tasks).length using Nat.strongRecOn generalizing s tasks with
  | ind n ih =>
    subst hn
    cases tasks with
    | nil => exact .over s
    | cons t tasks =>
      refine .steps (RuntimeStep.exists_of_aborted (ha t List.mem_cons_self)) ?_
      rintro ⟨s', tasks'⟩ hstep
      exact ih _ (hstep.fewer aborts ha) (hstep.aborted ha) rfl

/-- Once no thread is in the middle of a turn, aborted tasks change the store no more. -/
theorem ceased_of_aborted (aborts : R.Aborts) (ha : ∀ t ∈ tasks, t.aborted = true)
    (quiet : Quiet tasks) : Ceased R S bucket s tasks := by
  intro s' tasks' h
  obtain ⟨finished, hturns, hperm⟩ := Later.turns aborts ha h
  rw [midTurn_of_quiet quiet] at hperm
  rw [(List.append_eq_nil_iff.1 hperm.eq_nil).1] at hturns
  exact hturns.eq_of_nil

/-- **Dropped tasks.** After their owners are dropped, threads come to the end of the turns that they
are in the middle of, all the tasks come to an end, and the store changes no more after these turns. -/
theorem Later.stopped (aborts : R.Aborts)
    (h : Later R S bucket (s, tasks.map (·.drop R)) (s', tasks')) :
    (∃ finished, Turns S bucket s finished s' ∧ (finished ++ midTurn tasks').Perm (midTurn tasks)) ∧
      Cleared R S bucket (s', tasks') ∧ (Quiet tasks' → Ceased R S bucket s' tasks') := by
  have ha : ∀ t ∈ tasks.map (·.drop R), t.aborted = true := fun _ ht => aborted_drop aborts ht
  have hmid : midTurn (tasks.map (·.drop R)) = midTurn tasks := by
    simp [midTurn, List.filter_map, Spawned.drop, Function.comp_def]
  rw [← hmid]
  have ha' := h.aborted ha
  exact ⟨Later.turns aborts ha h, cleared_of_aborted aborts ha', ceased_of_aborted aborts ha'⟩

/-! ## What the store comes to -/

/-- The store and the tasks go along with a call that has not answered. `gone` are tasks of the call
that are over or aborted. -/
structure Shadows (x : State σ) (s : σ) (tasks gone : List Task) : Prop where
  store : x.store = s
  tasks : (tasks ++ gone).Perm x.stage.tasks
  unanswered : x.stage.answer? = none

namespace Shadows

variable {x : State σ} {task : Task} {left left' gone : List Task} {next : Option Task}

theorem perm (h : Shadows x s left gone) (hp : left'.Perm left) : Shadows x s left' gone :=
  ⟨h.store, (hp.append_right gone).trans h.tasks, h.unanswered⟩

/-- A task that is over is one that the call is done with. -/
theorem tail (h : Shadows x s (task :: left) gone) : Shadows x s left (task :: gone) :=
  ⟨h.store, List.perm_middle.trans h.tasks, h.unanswered⟩

theorem single (h : Shadows x s (task :: left) gone) (hset : task.owner = .set) :
    ∃ token primary rest p, x = ⟨s, token, .single primary rest p⟩ ∧
      (task :: (left ++ gone)).Perm (p.dispatched.map .unstarted ++ p.running.map .started) := by
  obtain ⟨primary, rest, p, hstage⟩ := single_of_mem_tasks (h.tasks.subset (by simp)) hset
  obtain ⟨s, token, stage⟩ := x
  obtain ⟨rfl, htasks, -⟩ := h
  cases hstage
  exact ⟨token, primary, rest, p, rfl, htasks⟩

/-- A turn of a task that was left behind is one that it might have had in the call. -/
theorem turn (h : Shadows x s (task :: left) gone) (turn : Turn S c.bucket task s next s') :
    ∃ y gone', (y = x ∨ ∃ a, Step S c x a y) ∧ Shadows y s' (next.toList ++ left) gone' := by
  cases turn with
  | read => exact ⟨x, gone, .inl rfl, h⟩
  | readLast => exact ⟨x, .reader :: gone, .inl rfl, h.tail⟩
  | start ref =>
    obtain ⟨token, primary, rest, p, rfl, htasks⟩ := h.single rfl
    have hdispatched : ref ∈ p.dispatched := by simpa using htasks.subset List.mem_cons_self
    refine ⟨_, gone, .inr ⟨_, .single (.start ref hdispatched)⟩, rfl, ?_, rfl⟩
    have herase := (List.perm_cons_erase hdispatched).map Task.unstarted
    have hleft := (htasks.trans (herase.append_right _)).cons_inv
    refine (hleft.cons (.started ref)).trans ?_
    simp only [Stage.tasks, Single.Pass.launch, List.map_append, List.map_cons, List.map_nil]
    rw [← List.append_assoc]
    exact (List.perm_append_singleton _ _).symm
  | @finish ref _ ending ends =>
    obtain ⟨token, primary, rest, p, rfl, htasks⟩ := h.single rfl
    have hrunning : ref ∈ p.running := by simpa using htasks.subset List.mem_cons_self
    refine ⟨_, gone, .inr ⟨_, .single (.finish ref hrunning ends)⟩, rfl, ?_, rfl⟩
    have herase := (List.perm_cons_erase hrunning).map Task.started
    have hleft := (htasks.trans ((herase.append_left _).trans List.perm_middle)).cons_inv
    cases ending <;> exact hleft
  | stall ref _ stalls =>
    obtain ⟨token, primary, rest, p, rfl, htasks⟩ := h.single rfl
    have hrunning : ref ∈ p.running := by simpa using htasks.subset List.mem_cons_self
    exact ⟨_, gone, .inr ⟨_, .single (.stall ref hrunning stalls)⟩, rfl, htasks, rfl⟩

end Shadows

variable {m m' : Memory} {x : State Memory}

/-- Any of the tasks may be looked at first. -/
theorem perm_task (before after : List Spawned) (t : Spawned) :
    (t.task :: (before ++ after).map (·.task)).Perm ((before ++ t :: after).map (·.task)) :=
  (List.perm_middle.map Spawned.task).symm

/-- Whatever becomes of tasks that were left behind, some call on course goes along with them. -/
theorem Later.shadowed (hs : m.Sound) (hmax : c.limit ≤ Single.maxPermits)
    {p q : Memory × List Spawned} (h : Later R memory c.bucket p q) {gone : List Task}
    (hx : OnCourse m c x) (hshadows : Shadows x p.1 (p.2.map (·.task)) gone) :
    ∃ y gone', OnCourse m c y ∧ Shadows y q.1 (q.2.map (·.task)) gone' := by
  induction h with
  | refl => exact ⟨x, gone, hx, hshadows⟩
  | tail _ step ih =>
    obtain ⟨y, gone, hy, hshadows⟩ := ih
    cases step with
    | enter => exact ⟨y, gone, hy, by simpa using hshadows⟩
    | @leave _ _ before after t next inTurn turn =>
      obtain ⟨z, gone, hstep, hshadows⟩ := (hshadows.perm (perm_task before after t)).turn turn
      refine ⟨z, gone, ?_, hshadows.perm ?_⟩
      · rcases hstep with rfl | ⟨a, hstep⟩
        · exact hy
        · exact (hy.step hs hmax hstep).1
      · cases next with
        | none => simp
        | some task => simp
    | @shut _ before after t waits aborted =>
      exact ⟨y, _, hy, (hshadows.perm (perm_task before after t)).tail⟩

/-- **Tasks that were left behind.** On every runtime, even one that aborts none of them, they delete
nothing but what the call was to delete before its last step. -/
theorem Later.interim (hs : m.Sound) (hmax : c.limit ≤ Single.maxPermits) (hx : OnCourse m c x)
    (hopen : x.stage.answer? = none) (hspawned : tasks.map (·.task) = x.stage.tasks)
    (h : Later R memory c.bucket (x.store, tasks.map (·.drop R)) (m', tasks')) : Interim m c m' := by
  have hstart : Shadows x x.store ((tasks.map (·.drop R)).map (·.task)) [] :=
    ⟨rfl, by simp [← hspawned, Spawned.drop, Function.comp_def], hopen⟩
  obtain ⟨y, gone, hy, hshadows⟩ := h.shadowed hs hmax hx hstart
  have hinterim := hy.interim hs hshadows.unanswered
  rwa [hshadows.store] at hinterim

end ObjectVolume.Eviction
