import HermOS.Cube.CreateConcurrent

/-!
# The states of the tasks

Whatever the order of the steps, the answers of the two requests determine a task from the phase and
the progress of its future.  Hence they determine the lists which `main` builds between the phases
and the status with which it exits, as long as the console never raises.
-/

namespace HermOS
namespace Cube

open WorkerPool (Slot)

namespace Host

variable (host : Host)

/-- A task behind the first phase. -/
def createdTask (i : Fin host.total) : Task :=
  host.createTask i (.init i)

/-- A task in a phase, by the progress of its future. -/
def taskAt : Phase host.total → Slot → Fin host.total → Task
  | .create, .waiting, i => .init i
  | .create, .running, i => (Task.init i).enterCreate
  | .create, .finished, i => host.createdTask i
  | .destroy _ _, .waiting, i => host.createdTask i
  | .destroy _ _, .running, i => (host.createdTask i).enterDestroy
  | .destroy _ _, .finished, i => host.destroyTask i (host.createdTask i)

/-- The tasks which the first phase leaves in a state. -/
def createdIn (wanted : Task.State) : List (Fin host.total) :=
  (List.finRange host.total).filter fun i => (host.createdTask i).state = wanted

/-- A task behind both phases. -/
def finalTask (i : Fin host.total) : Task :=
  if (host.createdTask i).state = .created then host.destroyTask i (host.createdTask i)
  else host.createdTask i

/-- A task behind a phase. -/
def taskBehind : Phase host.total → Fin host.total → Task
  | .create => host.createdTask
  | .destroy _ _ => host.finalTask

def destroyFailed : List (Fin host.total) :=
  (host.createdIn .created).filter fun i => (host.finalTask i).state = .failed

/-- The status with which `main` exits unless it raises. -/
def exitStatus : ℕ :=
  if host.createdIn .created = [] ∨ host.createdIn .failed ++ host.destroyFailed ≠ [] then 1 else 0

variable {host} {i : Fin host.total}

@[simp] theorem mem_createdIn {wanted : Task.State} :
    i ∈ host.createdIn wanted ↔ (host.createdTask i).state = wanted := by
  simp [createdIn]

@[simp] theorem mem_destroyFailed : i ∈ host.destroyFailed ↔
    (host.createdTask i).state = .created ∧ (host.finalTask i).state = .failed := by
  simp [destroyFailed]

end Host

/-- The console does not raise. -/
def Drawn {total : ℕ} (_ : State total) (label : Label) : Prop :=
  label.drawn = true

/-- The lists of the second phase. -/
def Phase.Sound (host : Host) : Phase host.total → Prop
  | .create => True
  | .destroy created failed =>
      0 < host.workers ∧ created = host.createdIn .created ∧ failed = host.createdIn .failed ∧
        created ≠ []

/-- What the progress of a future tells about the requests of its task. -/
def Phase.Noted (host : Host) (past : List Label) :
    Phase host.total → Slot → Fin host.total → Prop
  | .create, .finished, i => .created i (host.create i) ∈ past
  | .destroy _ _, .running, i => (host.createdTask i).sandboxId.truthy host.floatIs = true
  | .destroy _ _, .finished, i => (host.createdTask i).sandboxId.truthy host.floatIs = true →
      .destroyed i (host.createdTask i).sandboxId (host.destroy i) ∈ past
  | _, _, _ => True

/-- What the main thread knows of the executor. -/
def MainPc.Knows (host : Host) (phase : Phase host.total) (pool : WorkerPool) : MainPc → Prop
  | .opening | .pooling => pool.submitted = 0
  | .submitting => 0 < host.workers ∧ pool.submitted ≤ phase.items.length
  | .awaiting seen | .updating seen =>
      0 < host.workers ∧ pool.submitted = phase.items.length ∧ seen ≤ pool.done
  | .leaving raised => 0 < host.workers ∧ pool.submitted = phase.items.length ∧ raised = false
  | .closing | .reporting =>
      0 < host.workers ∧ pool.submitted = phase.items.length ∧ pool.submitted ≤ pool.done
  | .exited status =>
      (host.workers ≤ 0 ∧ phase = .create ∧ pool.submitted = 0 ∧ status = 1) ∨
        (0 < host.workers ∧ pool.submitted = phase.items.length ∧ pool.submitted ≤ pool.done ∧
          (phase = .create → host.createdIn .created = []) ∧ status = host.exitStatus)

/-- The answers of the requests determine the state. -/
structure Agrees (host : Host) (past : List Label) (state : State host.total) : Prop where
  phase : state.phase.Sound host
  main : state.main.Knows host state.phase state.pool
  carries : state.pool.Carries state.phase.items (host.taskAt state.phase) state.task
  noted : ∀ {item i}, state.phase.items[item]? = some i →
    state.phase.Noted host past (state.pool.slot item) i
  earlier : state.phase ≠ .create → ∀ i : Fin host.total, .created i (host.create i) ∈ past

variable {host : Host} {past : List Label} {label : Label} {state : State host.total}

theorem Phase.Sound.nodup {phase : Phase host.total} (sound : phase.Sound host) :
    phase.items.Nodup := by
  cases phase with
  | create => exact List.nodup_finRange _
  | destroy created failed =>
      obtain ⟨_, rfl, _, _⟩ := sound
      exact (List.nodup_finRange _).filter _

theorem Phase.Noted.mono {phase : Phase host.total} {slot : Slot} {i : Fin host.total}
    (noted : phase.Noted host past slot i) : phase.Noted host (past ++ [label]) slot i := by
  match phase, slot, noted with
  | .create, .finished, answered => exact List.mem_append_left _ answered
  | .destroy _ _, .finished, answered =>
      exact fun with_id => List.mem_append_left _ (answered with_id)
  | .destroy _ _, .running, with_id => exact with_id
  | .create, .waiting, _ | .create, .running, _ | .destroy _ _, .waiting, _ => trivial

/-- The main thread only counts the futures which have been submitted and those which have
finished. -/
theorem MainPc.Knows.mono {phase : Phase host.total} {pool after : WorkerPool} {main : MainPc}
    (knows : main.Knows host phase pool) (submitted : after.submitted = pool.submitted)
    (more : pool.done ≤ after.done) : main.Knows host phase after := by
  cases main with
  | opening | pooling => exact submitted.trans knows
  | submitting => exact ⟨knows.1, submitted ▸ knows.2⟩
  | awaiting seen | updating seen =>
      exact ⟨knows.1, submitted.trans knows.2.1, knows.2.2.trans more⟩
  | leaving raised => exact ⟨knows.1, submitted.trans knows.2.1, knows.2.2⟩
  | closing | reporting =>
      exact ⟨knows.1, submitted.trans knows.2.1, (submitted ▸ knows.2.2).trans more⟩
  | exited status =>
      rcases knows with ⟨none, first, empty, failed⟩ | ⟨some, all, idle, last, status⟩
      · exact .inl ⟨none, first, submitted.trans empty, failed⟩
      · exact .inr ⟨some, submitted.trans all, (submitted ▸ idle).trans more, last, status⟩

namespace Agrees

theorem moveMain (agrees : Agrees host past state) {main : MainPc}
    (knows : main.Knows host state.phase state.pool) :
    Agrees host (past ++ [label]) (state.moveMain main) where
  phase := agrees.phase
  main := knows
  carries := agrees.carries
  noted at_item := (agrees.noted at_item).mono
  earlier second i := List.mem_append_left _ (agrees.earlier second i)

/-- A future progresses and leaves its task as it belongs to its progress. -/
theorem work (agrees : Agrees host past state) {item : ℕ} {i : Fin host.total} {slot : Slot}
    {pool : WorkerPool} (at_item : state.phase.items[item]? = some i)
    (moved : pool.slot = Function.update state.pool.slot item slot)
    (submitted : pool.submitted = state.pool.submitted) (more : state.pool.done ≤ pool.done)
    (noted : state.phase.Noted host (past ++ [label]) slot i) :
    Agrees host (past ++ [label])
      ((state.setPool pool).setTask i (host.taskAt state.phase slot i)) where
  phase := agrees.phase
  main := agrees.main.mono submitted more
  carries := agrees.carries.move agrees.phase.nodup at_item moved
  noted := by
    intro other held at_other
    change state.phase.Noted host (past ++ [label]) (pool.slot other) held
    rw [moved]
    rcases eq_or_ne other item with rfl | ne
    · obtain rfl : i = held := Option.some.inj (at_item.symm.trans at_other)
      rwa [Function.update_self]
    · rw [Function.update_of_ne ne]
      exact (agrees.noted at_other).mono
  earlier second i := List.mem_append_left _ (agrees.earlier second i)

theorem noted_settled (agrees : Agrees host past state)
    (all : state.pool.submitted = state.phase.items.length)
    (idle : state.pool.submitted ≤ state.pool.done) {i : Fin host.total}
    (inside : i ∈ state.phase.items) : state.phase.Noted host past .finished i := by
  obtain ⟨item, below, rfl⟩ := List.getElem_of_mem inside
  have noted := agrees.noted (List.getElem?_eq_getElem below)
  rwa [WorkerPool.slot_of_all idle (all ▸ below)] at noted

/-- Every task behind a phase whose futures have all finished. -/
theorem task_settled (agrees : Agrees host past state)
    (all : state.pool.submitted = state.phase.items.length)
    (idle : state.pool.submitted ≤ state.pool.done) (i : Fin host.total) :
    state.task i = host.taskBehind state.phase i := by
  have settled : i ∈ state.phase.items → state.task i = host.taskAt state.phase .finished i :=
    agrees.carries.settled fun item below => WorkerPool.slot_of_all idle (all ▸ below)
  have untouched := agrees.carries.other i
  have sound := agrees.phase
  generalize state.phase = phase at *
  cases phase with
  | create => exact settled (List.mem_finRange i)
  | destroy created failed =>
      obtain ⟨_, rfl, _, _⟩ := sound
      change state.task i = host.finalTask i
      unfold Host.finalTask
      split
      next created => exact settled (Host.mem_createdIn.mpr created)
      next other => exact untouched fun inside => other (Host.mem_createdIn.mp inside)

end Agrees

theorem agrees_init : Agrees host [] (.init host.total) :=
  ⟨trivial, rfl, .start fun _ => rfl, fun _ => trivial, fun second => absurd rfl second⟩

/-- The lists which `main` builds behind the first phase. -/
theorem Agrees.tasksIn_create (agrees : Agrees host past state) (in_phase : state.phase = .create)
    (all : state.pool.submitted = state.phase.items.length)
    (idle : state.pool.submitted ≤ state.pool.done) (wanted : Task.State) :
    state.tasksIn (List.finRange host.total) wanted = host.createdIn wanted := by
  refine List.filter_congr fun i _ => ?_
  rw [agrees.task_settled all idle, in_phase]
  rfl

/-- The list which `main` builds behind the second phase. -/
theorem Agrees.tasksIn_destroy (agrees : Agrees host past state)
    {created failed : List (Fin host.total)} (in_phase : state.phase = .destroy created failed)
    (all : state.pool.submitted = state.phase.items.length)
    (idle : state.pool.submitted ≤ state.pool.done) :
    state.tasksIn created .failed = created.filter fun i => (host.finalTask i).state = .failed := by
  refine List.filter_congr fun i _ => ?_
  rw [agrees.task_settled all idle, in_phase]
  rfl

/-! ### Steps -/

namespace Agrees

theorem submit (agrees : Agrees host past state) (at_pc : state.main = .submitting)
    (more : state.pool.submitted < state.phase.items.length) :
    Agrees host (past ++ [label]) (state.setPool state.pool.submit) where
  phase := agrees.phase
  main := by
    have knows := agrees.main
    change state.main.Knows host state.phase state.pool.submit
    rw [at_pc] at knows ⊢
    exact ⟨knows.1, more⟩
  carries := ⟨agrees.carries.item, agrees.carries.other⟩
  noted at_item := (agrees.noted at_item).mono
  earlier second i := List.mem_append_left _ (agrees.earlier second i)

/-- Without a worker the first executor is refused, so that there is no second one. -/
theorem in_create (agrees : Agrees host past state) (none : host.workers ≤ 0) :
    state.phase = .create := by
  have sound := agrees.phase
  cases at_phase : state.phase with
  | create => rfl
  | destroy created failed =>
      rw [at_phase] at sound
      exact absurd sound.1 (not_lt.mpr none)

theorem startDestroy (agrees : Agrees host past state) (at_pc : state.main = .reporting)
    (in_phase : state.phase = .create)
    (some_created : state.tasksIn (List.finRange host.total) .created ≠ []) :
    Agrees host (past ++ [label])
      (state.startPhase (.destroy (state.tasksIn (List.finRange host.total) .created)
        (state.tasksIn (List.finRange host.total) .failed))) := by
  have knows := agrees.main
  rw [at_pc] at knows
  obtain ⟨some_worker, all, idle⟩ := knows
  have settled := agrees.task_settled all idle
  have noted : ∀ i ∈ state.phase.items, state.phase.Noted host past .finished i :=
    fun _ => agrees.noted_settled all idle
  rw [agrees.tasksIn_create in_phase all idle] at some_created
  rw [agrees.tasksIn_create in_phase all idle, agrees.tasksIn_create in_phase all idle]
  rw [in_phase] at settled noted
  exact ⟨⟨some_worker, rfl, rfl, some_created⟩, rfl, .start settled, fun _ => trivial,
    fun _ i => List.mem_append_left _ (noted i (List.mem_finRange i))⟩

/-- The status computed behind the second phase. -/
theorem status_destroy (agrees : Agrees host past state)
    {created failed : List (Fin host.total)} (in_phase : state.phase = .destroy created failed)
    (all : state.pool.submitted = state.phase.items.length)
    (idle : state.pool.submitted ≤ state.pool.done) :
    (if failed ++ state.tasksIn created .failed = [] then 0 else 1) = host.exitStatus := by
  have sound := agrees.phase
  rw [agrees.tasksIn_destroy in_phase all idle]
  rw [in_phase] at sound
  obtain ⟨_, rfl, rfl, some_created⟩ := sound
  simp only [Host.exitStatus, some_created, false_or, Host.destroyFailed, ne_eq, ite_not]

theorem beginItem (agrees : Agrees host past state) {i : Fin host.total}
    (waiting : state.pool.begun < state.pool.submitted)
    (at_item : state.phase.items[state.pool.begun]? = some i)
    (noted : state.phase.Noted host (past ++ [label]) .running i) :
    Agrees host (past ++ [label])
      ((state.setPool (state.pool.begin waiting)).setTask i (host.taskAt state.phase .running i)) :=
  agrees.work at_item (WorkerPool.slot_begin waiting) rfl le_rfl noted

theorem finishItem (agrees : Agrees host past state) {item : ℕ} {i : Fin host.total}
    (started : item < state.pool.begun) (running : state.pool.finished item = false)
    (at_item : state.phase.items[item]? = some i)
    (noted : state.phase.Noted host (past ++ [label]) .finished i) :
    Agrees host (past ++ [label])
      ((state.setPool (state.pool.finish item started)).setTask i
        (host.taskAt state.phase .finished i)) := by
  refine agrees.work at_item (WorkerPool.slot_finish started) rfl ?_ noted
  rw [WorkerPool.done_finish started running]
  exact Nat.le_succ _

theorem enterCreate (agrees : Agrees host past state) {i : Fin host.total}
    (in_phase : state.phase = .create) (waiting : state.pool.begun < state.pool.submitted)
    (at_item : state.phase.items[state.pool.begun]? = some i) :
    Agrees host (past ++ [label])
      ((state.setPool (state.pool.begin waiting)).setTask i (state.task i).enterCreate) := by
  have entered : (state.task i).enterCreate = host.taskAt state.phase .running i := by
    rw [agrees.carries.item at_item, WorkerPool.slot_begun, in_phase]
    rfl
  rw [entered]
  refine agrees.beginItem waiting at_item ?_
  rw [in_phase]
  trivial

theorem leaveCreate (agrees : Agrees host past state) {item : ℕ} {i : Fin host.total}
    (in_phase : state.phase = .create) (started : item < state.pool.begun)
    (running : state.pool.finished item = false) (at_item : state.phase.items[item]? = some i) :
    Agrees host (past ++ [.created i (host.create i)])
      ((state.setPool (state.pool.finish item started)).setTask i
        ((state.task i).leaveCreate (host.create i))) := by
  have left : (state.task i).leaveCreate (host.create i) =
      host.taskAt state.phase .finished i := by
    rw [agrees.carries.item at_item, WorkerPool.slot_eq_running.mpr ⟨started, running⟩, in_phase]
    rfl
  rw [left]
  refine agrees.finishItem started running at_item ?_
  rw [in_phase]
  exact List.mem_append_right _ (List.mem_singleton_self _)

/-- A task of the second phase which has still to be begun. -/
theorem task_created (agrees : Agrees host past state) {i : Fin host.total}
    {created failed : List (Fin host.total)} (in_phase : state.phase = .destroy created failed)
    (at_item : state.phase.items[state.pool.begun]? = some i) :
    state.task i = host.createdTask i := by
  rw [agrees.carries.item at_item, WorkerPool.slot_begun, in_phase]
  rfl

theorem skipDestroy (agrees : Agrees host past state) {i : Fin host.total}
    {created failed : List (Fin host.total)} (in_phase : state.phase = .destroy created failed)
    (waiting : state.pool.begun < state.pool.submitted)
    (at_item : state.phase.items[state.pool.begun]? = some i)
    (without_id : (state.task i).sandboxId.truthy host.floatIs = false) :
    Agrees host (past ++ [label]) (state.setPool (state.pool.skip waiting)) := by
  rw [agrees.task_created in_phase at_item] at without_id
  have skipped : state.task i = host.taskAt state.phase .finished i := by
    rw [agrees.task_created in_phase at_item, in_phase]
    exact (Host.destroyTask_withoutId without_id).symm
  have moved : Agrees host (past ++ [label])
      ((state.setPool (state.pool.skip waiting)).setTask i (state.task i)) := by
    rw [skipped]
    refine agrees.work at_item (WorkerPool.slot_skip waiting) rfl ?_ ?_
    · rw [WorkerPool.done_skip]
      exact Nat.le_succ _
    · rw [in_phase]
      exact fun with_id => absurd (without_id.symm.trans with_id) Bool.false_ne_true
  exact State.setTask_self (state.setPool (state.pool.skip waiting)) i ▸ moved

theorem enterDestroy (agrees : Agrees host past state) {i : Fin host.total}
    {created failed : List (Fin host.total)} (in_phase : state.phase = .destroy created failed)
    (waiting : state.pool.begun < state.pool.submitted)
    (at_item : state.phase.items[state.pool.begun]? = some i)
    (with_id : (state.task i).sandboxId.truthy host.floatIs = true) :
    Agrees host (past ++ [label])
      ((state.setPool (state.pool.begin waiting)).setTask i (state.task i).enterDestroy) := by
  rw [agrees.task_created in_phase at_item] at with_id
  have entered : (state.task i).enterDestroy = host.taskAt state.phase .running i := by
    rw [agrees.task_created in_phase at_item, in_phase]
    rfl
  rw [entered]
  refine agrees.beginItem waiting at_item ?_
  rw [in_phase]
  exact with_id

theorem leaveDestroy (agrees : Agrees host past state) {item : ℕ} {i : Fin host.total}
    {created failed : List (Fin host.total)} (in_phase : state.phase = .destroy created failed)
    (started : item < state.pool.begun) (running : state.pool.finished item = false)
    (at_item : state.phase.items[item]? = some i) :
    Agrees host (past ++ [.destroyed i (state.task i).sandboxId (host.destroy i)])
      ((state.setPool (state.pool.finish item started)).setTask i
        ((state.task i).leaveDestroy (host.destroy i))) := by
  have at_slot : state.pool.slot item = .running :=
    WorkerPool.slot_eq_running.mpr ⟨started, running⟩
  have at_task := agrees.carries.item at_item
  have with_id := agrees.noted at_item
  rw [at_slot, in_phase] at at_task with_id
  have left : (state.task i).leaveDestroy (host.destroy i) =
      host.taskAt state.phase .finished i := by
    rw [at_task, in_phase]
    exact (Host.destroyTask_withId with_id).symm
  have named : (state.task i).sandboxId = (host.createdTask i).sandboxId := by
    rw [at_task]
    rfl
  rw [left, named]
  refine agrees.finishItem started running at_item ?_
  rw [in_phase]
  exact fun _ => List.mem_append_right _ (List.mem_singleton_self _)

end Agrees

theorem agrees_step {before after : State host.total} (agrees : Agrees host past before)
    (step : ((createConcurrent host).restrict Drawn).Step before label after) :
    Agrees host (past ++ [label]) after := by
  obtain ⟨step, drawn⟩ := step
  have knows : ∀ {main}, before.main = main → main.Knows host before.phase before.pool := by
    rintro _ rfl
    exact agrees.main
  cases step with
  | opened at_pc => exact agrees.moveMain (knows at_pc :)
  | pooled at_pc some_worker =>
      have none_yet : before.pool.submitted = 0 := knows at_pc
      exact agrees.moveMain ⟨some_worker, none_yet ▸ Nat.zero_le _⟩
  | refused at_pc none =>
      exact agrees.moveMain (.inl ⟨none, agrees.in_create none, knows at_pc, rfl⟩)
  | submit at_pc more => exact agrees.submit at_pc more
  | submitted at_pc all =>
      obtain ⟨some_worker, bound⟩ := knows at_pc
      exact agrees.moveMain ⟨some_worker, le_antisymm bound all, Nat.zero_le _⟩
  | completed at_pc next =>
      obtain ⟨some_worker, all, _⟩ := knows at_pc
      exact agrees.moveMain ⟨some_worker, all, next⟩
  | updated at_pc => exact agrees.moveMain (knows at_pc :)
  | exhausted at_pc every =>
      obtain ⟨some_worker, all, _⟩ := knows at_pc
      exact agrees.moveMain ⟨some_worker, all, rfl⟩
  | shutDown at_pc idle =>
      obtain ⟨some_worker, all, rfl⟩ := knows at_pc
      exact agrees.moveMain ⟨some_worker, all, idle⟩
  | closed at_pc => exact agrees.moveMain (knows at_pc :)
  | reportedNone at_pc in_phase none =>
      obtain ⟨some_worker, all, idle⟩ := knows at_pc
      rw [agrees.tasksIn_create in_phase all idle] at none
      have status : 1 = host.exitStatus := (if_pos (.inl none)).symm
      exact agrees.moveMain (.inr ⟨some_worker, all, idle, fun _ => none, status⟩)
  | reportedCreated at_pc in_phase some_created =>
      exact agrees.startDestroy at_pc in_phase some_created
  | reportedDestroyed at_pc in_phase =>
      obtain ⟨some_worker, all, idle⟩ := knows at_pc
      have status := agrees.status_destroy in_phase all idle
      exact agrees.moveMain (.inr ⟨some_worker, all, idle, by simp [in_phase], status⟩)
  | raised at_pc => cases drawn
  | enterCreate in_phase free at_item => exact agrees.enterCreate in_phase free.waiting at_item
  | leaveCreate in_phase started running at_item =>
      exact agrees.leaveCreate in_phase started running at_item
  | skipDestroy in_phase free at_item without_id =>
      exact agrees.skipDestroy in_phase free.waiting at_item without_id
  | enterDestroy in_phase free at_item with_id =>
      exact agrees.enterDestroy in_phase free.waiting at_item with_id
  | leaveDestroy in_phase started running at_item =>
      exact agrees.leaveDestroy in_phase started running at_item

end Cube
end HermOS
