import HermOS.Library.Json
import HermOS.Library.TransitionSystem
import HermOS.Library.WorkerPool
import Mathlib.Data.List.FinRange

/-!
# Concurrent creation of sandboxes

`create_concurrent.py` as a step machine.  One executor creates all sandboxes, and behind it a
second one destroys those which were created, while the main thread redraws its dashboard whenever a
future has finished.  A request is left by a later step than the one which enters it, so that
requests of different tasks overlap.  Times are left out.
-/

namespace HermOS
namespace Cube

open Python (Text)

/-! ### Tasks -/

inductive Task.State
  | pending
  | creating
  | created
  | destroying
  | done
  | failed
  deriving DecidableEq

structure Task where
  idx : ℕ
  state : Task.State
  sandboxId : Json
  status : Text
  error : Text

/-- An exception which a request raises. -/
structure Raised where
  /-- Its class derives from `Exception`, unlike `KeyboardInterrupt`. -/
  isException : Bool
  /-- `type(e).__name__`. -/
  typeName : Text
  text : Text

/-- `Task(idx=i + 1)`. -/
def Task.init (i : ℕ) : Task :=
  ⟨i + 1, .pending, .str [], [], []⟩

/-- The handler of `create_task` and `destroy_task`; what it does not catch stays in the future. -/
def Task.handle (task : Task) (e : Raised) : Task :=
  if e.isException then
    { task with state := .failed, error := e.text.take 120, status := e.typeName }
  else task

theorem Task.handle_state (task : Task) (e : Raised) :
    (task.handle e).state = if e.isException then .failed else task.state := by
  unfold Task.handle
  split <;> rfl

/-- `data.get("sandboxID", data.get("sandbox_id", ""))`. -/
def sandboxIdOf (data : Json.Fields) : Json :=
  Json.getOr data "sandboxID" (Json.getOr data "sandbox_id" (.str []))

def Task.enterCreate (task : Task) : Task :=
  { task with state := .creating, status := "Creating".toList }

def Task.leaveCreate (task : Task) : Except Raised Json.Fields → Task
  | .ok data =>
      { task with
        sandboxId := sandboxIdOf data
        state := .created
        status := "Created".toList }
  | .error e => task.handle e

/-- `destroy_task` up to its request, behind the test of `task.sandbox_id`. -/
def Task.enterDestroy (task : Task) : Task :=
  { task with state := .destroying, status := "Destroying".toList }

def Task.leaveDestroy (task : Task) : Except Raised Unit → Task
  | .ok () => { task with state := .done, status := "Destroyed".toList }
  | .error e => task.handle e

/-! ### The program and its surroundings -/

/-- What a run depends on besides the order of its steps. -/
structure Host where
  count : ℤ
  workersArg : Option ℤ
  /-- Compares the float of a literal with an integer. -/
  floatIs : Text → ℤ → Bool
  /-- `api_create` for a task; where the response is no object, `data.get` raises. -/
  create : ℕ → Except Raised Json.Fields
  /-- `api_destroy` for the sandbox of a task. -/
  destroy : ℕ → Except Raised Unit

namespace Host

variable (host : Host)

def workers : ℤ :=
  host.workersArg.getD host.count

/-- `len(tasks)`. -/
def total : ℕ :=
  host.count.toNat

def createTask (i : ℕ) (task : Task) : Task :=
  task.enterCreate.leaveCreate (host.create i)

def destroyTask (i : ℕ) (task : Task) : Task :=
  if task.sandboxId.truthy host.floatIs then task.enterDestroy.leaveDestroy (host.destroy i)
  else task

variable {host} {i : ℕ} {task : Task}

theorem destroyTask_withId (with_id : task.sandboxId.truthy host.floatIs = true) :
    host.destroyTask i task = task.enterDestroy.leaveDestroy (host.destroy i) :=
  if_pos with_id

theorem destroyTask_withoutId (without_id : task.sandboxId.truthy host.floatIs = false) :
    host.destroyTask i task = task :=
  if_neg (by simp [without_id])

end Host

/-- The two executors, the second of which has the lists which `main` builds behind the first. -/
inductive Phase (total : ℕ)
  | create
  | destroy (created failed : List (Fin total))

/-- The tasks whose futures are submitted. -/
def Phase.items {total : ℕ} : Phase total → List (Fin total)
  | .create => List.finRange total
  | .destroy created _ => created

/-- Program points of the main thread in a phase. -/
inductive MainPc
  | opening
  | pooling
  | submitting
  /-- In the loop over `as_completed`, behind so many futures. -/
  | awaiting (seen : ℕ)
  /-- In `live.update`, for the last of so many futures. -/
  | updating (seen : ℕ)
  /-- In `shutdown` of the executor, on the way out of the loop or with an exception. -/
  | leaving (raised : Bool)
  /-- In the last `live.update` and the exit of `Live`. -/
  | closing
  /-- Printing what the phase has done. -/
  | reporting
  /-- The process has exited; an exception which nobody catches makes the status 1. -/
  | exited (status : ℕ)

/-- Where an exception at the console leads. -/
def MainPc.raised : MainPc → Option MainPc
  | .updating _ => some (.leaving true)
  | .opening | .closing | .reporting => some (.exited 1)
  | _ => none

/-- Main thread, executor and tasks. -/
structure State (total : ℕ) where
  phase : Phase total
  main : MainPc
  pool : WorkerPool
  task : Fin total → Task

namespace State

variable {total : ℕ}

def init (total : ℕ) : State total :=
  ⟨.create, .opening, .empty, fun i => .init i⟩

def moveMain (state : State total) (main : MainPc) : State total :=
  { state with main }

def setPool (state : State total) (pool : WorkerPool) : State total :=
  { state with pool }

def setTask (state : State total) (i : Fin total) (task : Task) : State total :=
  { state with task := Function.update state.task i task }

@[simp] theorem setTask_self (state : State total) (i : Fin total) :
    state.setTask i (state.task i) = state := by
  rw [setTask, Function.update_eq_self]

/-- Before a phase, which will have an executor of its own. -/
def startPhase (state : State total) (phase : Phase total) : State total :=
  { state with phase, main := .opening, pool := .empty }

/-- The tasks among some which are in a state. -/
def tasksIn (state : State total) (tasks : List (Fin total)) (wanted : Task.State) :
    List (Fin total) :=
  tasks.filter fun i => (state.task i).state = wanted

end State

/-- What a step does to the world. -/
inductive Label
  | main
  /-- The main thread writes to the console, which may raise. -/
  | console (drawn : Bool)
  | begin (item : ℕ)
  /-- `api_create` for a task has returned or raised. -/
  | created (i : ℕ) (answer : Except Raised Json.Fields)
  /-- `api_destroy` with the id of a task has returned or raised. -/
  | destroyed (i : ℕ) (sandboxId : Json) (answer : Except Raised Unit)

/-- The step does not raise at the console. -/
def Label.drawn : Label → Bool
  | .console drawn => drawn
  | _ => true

/-- One step of `main` or of a worker. -/
inductive Step (host : Host) : State host.total → Label → State host.total → Prop
  | opened {state : State host.total} (at_pc : state.main = .opening) :
      Step host state (.console true) (state.moveMain .pooling)
  | pooled {state : State host.total} (at_pc : state.main = .pooling)
      (some_worker : 0 < host.workers) : Step host state .main (state.moveMain .submitting)
  | refused {state : State host.total} (at_pc : state.main = .pooling) (none : host.workers ≤ 0) :
      Step host state .main (state.moveMain (.exited 1))
  | submit {state : State host.total} (at_pc : state.main = .submitting)
      (more : state.pool.submitted < state.phase.items.length) :
      Step host state .main (state.setPool state.pool.submit)
  | submitted {state : State host.total} (at_pc : state.main = .submitting)
      (all : state.phase.items.length ≤ state.pool.submitted) :
      Step host state .main (state.moveMain (.awaiting 0))
  | completed {state : State host.total} {seen : ℕ} (at_pc : state.main = .awaiting seen)
      (next : seen < state.pool.done) :
      Step host state .main (state.moveMain (.updating (seen + 1)))
  | updated {state : State host.total} {seen : ℕ} (at_pc : state.main = .updating seen) :
      Step host state (.console true) (state.moveMain (.awaiting seen))
  | exhausted {state : State host.total} {seen : ℕ} (at_pc : state.main = .awaiting seen)
      (all : state.phase.items.length ≤ seen) :
      Step host state .main (state.moveMain (.leaving false))
  | shutDown {state : State host.total} {raised : Bool} (at_pc : state.main = .leaving raised)
      (idle : state.pool.submitted ≤ state.pool.done) :
      Step host state .main
        (state.moveMain (if raised then .exited 1 else .closing))
  | closed {state : State host.total} (at_pc : state.main = .closing) :
      Step host state (.console true) (state.moveMain .reporting)
  | reportedNone {state : State host.total} (at_pc : state.main = .reporting)
      (in_phase : state.phase = .create)
      (none : state.tasksIn (List.finRange host.total) .created = []) :
      Step host state (.console true) (state.moveMain (.exited 1))
  | reportedCreated {state : State host.total} (at_pc : state.main = .reporting)
      (in_phase : state.phase = .create)
      (some : state.tasksIn (List.finRange host.total) .created ≠ []) :
      Step host state (.console true)
        (state.startPhase (.destroy (state.tasksIn (List.finRange host.total) .created)
          (state.tasksIn (List.finRange host.total) .failed)))
  | reportedDestroyed {state : State host.total} {created failed : List (Fin host.total)}
      (at_pc : state.main = .reporting) (in_phase : state.phase = .destroy created failed) :
      Step host state (.console true)
        (state.moveMain (.exited (if failed ++ state.tasksIn created .failed = [] then 0 else 1)))
  | raised {state : State host.total} {after : MainPc} (at_pc : state.main.raised = some after) :
      Step host state (.console false) (state.moveMain after)
  | enterCreate {state : State host.total} {i : Fin host.total} (in_phase : state.phase = .create)
      (free : state.pool.CanBegin host.workers.toNat)
      (at_item : state.phase.items[state.pool.begun]? = some i) :
      Step host state (.begin state.pool.begun)
        ((state.setPool (state.pool.begin free.waiting)).setTask i (state.task i).enterCreate)
  | leaveCreate {state : State host.total} {item : ℕ} {i : Fin host.total}
      (in_phase : state.phase = .create) (started : item < state.pool.begun)
      (running : state.pool.finished item = false)
      (at_item : state.phase.items[item]? = some i) :
      Step host state (.created i (host.create i))
        ((state.setPool (state.pool.finish item started)).setTask i
          ((state.task i).leaveCreate (host.create i)))
  | skipDestroy {state : State host.total} {i : Fin host.total}
      {created failed : List (Fin host.total)} (in_phase : state.phase = .destroy created failed)
      (free : state.pool.CanBegin host.workers.toNat)
      (at_item : state.phase.items[state.pool.begun]? = some i)
      (without_id : (state.task i).sandboxId.truthy host.floatIs = false) :
      Step host state (.begin state.pool.begun)
        (state.setPool (state.pool.skip free.waiting))
  | enterDestroy {state : State host.total} {i : Fin host.total}
      {created failed : List (Fin host.total)} (in_phase : state.phase = .destroy created failed)
      (free : state.pool.CanBegin host.workers.toNat)
      (at_item : state.phase.items[state.pool.begun]? = some i)
      (with_id : (state.task i).sandboxId.truthy host.floatIs = true) :
      Step host state (.begin state.pool.begun)
        ((state.setPool (state.pool.begin free.waiting)).setTask i (state.task i).enterDestroy)
  | leaveDestroy {state : State host.total} {item : ℕ} {i : Fin host.total}
      {created failed : List (Fin host.total)} (in_phase : state.phase = .destroy created failed)
      (started : item < state.pool.begun) (running : state.pool.finished item = false)
      (at_item : state.phase.items[item]? = some i) :
      Step host state (.destroyed i (state.task i).sandboxId (host.destroy i))
        ((state.setPool (state.pool.finish item started)).setTask i
          ((state.task i).leaveDestroy (host.destroy i)))

def createConcurrent (host : Host) : TransitionSystem (State host.total) Label where
  Initial state := state = .init host.total
  Step := Step host

end Cube
end HermOS
