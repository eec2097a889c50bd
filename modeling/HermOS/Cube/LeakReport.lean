import HermOS.Cube.MainExits

/-!
# What the exit status tells

The status with which `create_concurrent.py` exits is computed from the states of the tasks alone.
A sandbox whose creation was answered without an id is not destroyed, and its task stays `CREATED`,
which counts neither as destroyed nor as failed.
-/

namespace HermOS
namespace Cube

/-- Every sandbox is accounted for when `main` exits with a status. -/
structure Reports {total : ℕ} (trace : List Label) (state : State total) (status : ℕ) : Prop where
  terminal : ∀ i, (state.task i).state = .done ∨ (state.task i).state = .failed
  /-- The status is 0 exactly if every request to create a sandbox has succeeded, and one to destroy
  that sandbox. -/
  exact : status = 0 ↔ ∀ i : Fin total, ∃ data,
    .created i (.ok data) ∈ trace ∧ .destroyed i (sandboxIdOf data) (.ok ()) ∈ trace

/-- A sandbox is answered with an id, and an exception which a request raises is caught. -/
def Host.Settles (host : Host) (i : ℕ) : Prop :=
  match host.create i with
  | .ok data => (sandboxIdOf data).truthy host.floatIs = true ∧
      ∀ e, host.destroy i = .error e → e.isException = true
  | .error e => e.isException = true

variable {host : Host} {past trace : List Label} {state : State host.total} {status : ℕ}

/-! ### Tasks behind both phases -/

section Tasks

variable {i : Fin host.total} {data : Json.Fields}

theorem createdTask_ok (answer : host.create i = .ok data) :
    (host.createdTask i).state = .created ∧ (host.createdTask i).sandboxId = sandboxIdOf data := by
  rw [Host.createdTask, Host.createTask, answer]
  exact ⟨rfl, rfl⟩

theorem createdTask_error {e : Raised} (answer : host.create i = .error e) :
    (host.createdTask i).state = if e.isException then .failed else .creating := by
  rw [Host.createdTask, Host.createTask, answer]
  exact Task.handle_state _ e

theorem createdTask_created_iff :
    (host.createdTask i).state = .created ↔ ∃ data, host.create i = .ok data := by
  cases answer : host.create i with
  | ok data => simp [(createdTask_ok answer).1]
  | error e =>
      rw [createdTask_error answer]
      split <;> simp

theorem finalTask_error {e : Raised} (answer : host.create i = .error e) :
    (host.finalTask i).state = if e.isException then .failed else .creating := by
  rw [← createdTask_error answer, Host.finalTask, if_neg]
  simp [createdTask_created_iff, answer]

theorem finalTask_ok (answer : host.create i = .ok data) : (host.finalTask i).state =
    if (sandboxIdOf data).truthy host.floatIs then
      match host.destroy i with
      | .ok () => .done
      | .error e => if e.isException then .failed else .destroying
    else .created := by
  obtain ⟨created, id⟩ := createdTask_ok answer
  rw [Host.finalTask, if_pos created]
  split
  next with_id =>
    rw [Host.destroyTask_withId (id ▸ with_id)]
    cases host.destroy i with
    | ok _ => rfl
    | error e => exact Task.handle_state _ e
  next without_id =>
    rw [Host.destroyTask_withoutId (id ▸ Bool.eq_false_iff.mpr without_id)]
    exact created

theorem finalTask_terminal_iff :
    ((host.finalTask i).state = .done ∨ (host.finalTask i).state = .failed) ↔ host.Settles i := by
  unfold Host.Settles
  cases answer : host.create i with
  | ok data =>
      rw [finalTask_ok answer]
      cases with_id : (sandboxIdOf data).truthy host.floatIs with
      | false => simp [with_id]
      | true =>
          cases host.destroy i with
          | ok _ => simp [with_id]
          | error e => cases caught : e.isException <;> simp [with_id, caught]
  | error e =>
      rw [finalTask_error answer]
      cases caught : e.isException <;> simp [caught]

theorem finalTask_done_iff : (host.finalTask i).state = .done ↔ ∃ data,
    host.create i = .ok data ∧ (sandboxIdOf data).truthy host.floatIs = true ∧
      host.destroy i = .ok () := by
  cases answer : host.create i with
  | ok data =>
      rw [finalTask_ok answer]
      cases with_id : (sandboxIdOf data).truthy host.floatIs with
      | false => simp [with_id]
      | true =>
          cases host.destroy i with
          | ok _ => simp [with_id]
          | error e => cases caught : e.isException <;> simp [caught]
  | error e =>
      rw [finalTask_error answer]
      cases e.isException <;> simp

end Tasks

/-- A status of 0 is computed exactly if every sandbox has been destroyed. -/
theorem exitStatus_eq_zero_iff (some_task : 0 < host.total)
    (settles : ∀ i < host.total, host.Settles i) :
    host.exitStatus = 0 ↔ ∀ i, (host.finalTask i).state = .done := by
  have zero : host.exitStatus = 0 ↔ host.createdIn .created ≠ [] ∧
      host.createdIn .failed = [] ∧ host.destroyFailed = [] := by
    unfold Host.exitStatus
    split
    next failing =>
      refine iff_of_false one_ne_zero ?_
      rintro ⟨some_created, no_failure, no_leak⟩
      exact failing.elim some_created fun some_left => some_left (by rw [no_failure, no_leak]; rfl)
    next clean =>
      obtain ⟨some_created, nothing⟩ := not_or.mp clean
      exact iff_of_true rfl ⟨some_created, List.append_eq_nil_iff.mp (not_not.mp nothing)⟩
  rw [zero]
  constructor
  · rintro ⟨_, no_failure, no_leak⟩ i
    refine (finalTask_terminal_iff.mpr (settles i i.isLt)).resolve_right fun failed => ?_
    by_cases created : (host.createdTask i).state = .created
    · have inside : i ∈ host.destroyFailed := Host.mem_destroyFailed.mpr ⟨created, failed⟩
      exact absurd (no_leak ▸ inside) List.not_mem_nil
    · rw [Host.finalTask, if_neg created] at failed
      have inside : i ∈ host.createdIn .failed := Host.mem_createdIn.mpr failed
      exact absurd (no_failure ▸ inside) List.not_mem_nil
  · intro done
    have created : ∀ i, (host.createdTask i).state = .created := by
      intro i
      obtain ⟨data, answer, _⟩ := finalTask_done_iff.mp (done i)
      exact createdTask_created_iff.mpr ⟨data, answer⟩
    have first : ⟨0, some_task⟩ ∈ host.createdIn .created := Host.mem_createdIn.mpr (created _)
    refine ⟨List.ne_nil_of_mem first, ?_, ?_⟩
    · exact List.eq_nil_iff_forall_not_mem.mpr fun i => by simp [created]
    · exact List.eq_nil_iff_forall_not_mem.mpr fun i => by simp [done]

/-! ### Complete runs -/

/-- What a run leaves which has exited and found a worker. -/
structure Complete (host : Host) (trace : List Label) (state : State host.total) (status : ℕ) :
    Prop where
  status : status = host.exitStatus
  task : ∀ i, state.task i = host.finalTask i
  created : ∀ i : Fin host.total, .created i (host.create i) ∈ trace
  destroyed : ∀ (i : Fin host.total) data, host.create i = .ok data →
    (sandboxIdOf data).truthy host.floatIs = true →
      .destroyed i (sandboxIdOf data) (host.destroy i) ∈ trace

theorem Agrees.complete (agrees : Agrees host past state) (some_worker : 0 < host.workers)
    (exited : state.main = .exited status) : Complete host past state status := by
  have knows := agrees.main
  rw [exited] at knows
  rcases knows with ⟨none, _⟩ | ⟨_, all, idle, last, same⟩
  · exact absurd none (not_le.mpr some_worker)
  · have settled := agrees.task_settled all idle
    have noted : ∀ i ∈ state.phase.items, state.phase.Noted host past .finished i :=
      fun _ => agrees.noted_settled all idle
    have inside : ∀ {i : Fin host.total} {data}, host.create i = .ok data →
        i ∈ host.createdIn .created :=
      fun answer => Host.mem_createdIn.mpr (createdTask_ok answer).1
    have sound := agrees.phase
    have earlier := agrees.earlier
    cases in_phase : state.phase with
    | create =>
        rw [in_phase] at settled noted
        have none_created := last in_phase
        refine ⟨same, fun i => ?_, fun i => noted i (List.mem_finRange i), fun i data answer => ?_⟩
        · have other : (host.createdTask i).state ≠ .created := by
            intro created
            obtain ⟨data, answer⟩ := createdTask_created_iff.mp created
            exact absurd (none_created ▸ inside answer) List.not_mem_nil
          rw [settled i, Host.finalTask, if_neg other]
          rfl
        · exact absurd (none_created ▸ inside answer) List.not_mem_nil
    | destroy created failed =>
        rw [in_phase] at settled noted sound earlier
        obtain ⟨_, rfl, _, _⟩ := sound
        refine ⟨same, settled, earlier (by simp), fun i data answer with_id => ?_⟩
        have request := noted i (inside answer)
        rw [← (createdTask_ok answer).2] at with_id ⊢
        exact request with_id

/-- Without a worker no task is begun. -/
theorem Agrees.task_init (agrees : Agrees host past state) (none : host.workers ≤ 0)
    (exited : state.main = .exited status) (i : Fin host.total) : state.task i = .init i := by
  have knows := agrees.main
  have carries := agrees.carries
  rw [exited] at knows
  rcases knows with ⟨_, first, none_yet, _⟩ | ⟨some_worker, _⟩
  · rw [first] at carries
    exact carries.unsubmitted none_yet i
  · exact absurd none (not_le.mpr some_worker)

/-- A label carries the answer of its request. -/
def Host.Answers (host : Host) : Label → Prop
  | .created i answer => answer = host.create i
  | .destroyed i _ answer => answer = host.destroy i
  | _ => True

theorem answers_run (run : ((createConcurrent host).restrict Drawn).Run trace state) :
    ∀ label ∈ trace, host.Answers label := by
  obtain ⟨_, _, path⟩ := run
  refine path.forall_label (fun _ => True) (fun _ _ => trivial) ?_ trivial
  rintro before label after _ ⟨step, _⟩
  cases step <;> first | rfl | trivial

/-- A task which settles ends in `DONE` exactly if both of its requests have succeeded. -/
theorem Complete.done_iff (complete : Complete host trace state status)
    (answers : ∀ label ∈ trace, host.Answers label) {i : Fin host.total}
    (settles : host.Settles i) : (host.finalTask i).state = .done ↔ ∃ data,
      .created i (.ok data) ∈ trace ∧ .destroyed i (sandboxIdOf data) (.ok ()) ∈ trace := by
  refine finalTask_done_iff.trans (exists_congr fun data => ?_)
  constructor
  · rintro ⟨answer, with_id, gone⟩
    have request := complete.destroyed i data answer with_id
    rw [gone] at request
    exact ⟨answer ▸ complete.created i, request⟩
  · rintro ⟨create_label, destroy_label⟩
    have answer : host.create i = .ok data := (answers _ create_label).symm
    have gone : host.destroy i = .ok () := (answers _ destroy_label).symm
    rw [Host.Settles, answer] at settles
    exact ⟨answer, settles.1, gone⟩

/-- Unless the console raises, a complete run accounts for every sandbox exactly if there is a
worker and every task settles. -/
theorem reports_iff (positive : 1 ≤ host.count)
    (run : ((createConcurrent host).restrict Drawn).Run trace state)
    (exited : state.main = .exited status) :
    Reports trace state status ↔ 0 < host.workers ∧ ∀ i < host.total, host.Settles i := by
  have some_task : 0 < host.total := by
    unfold Host.total
    omega
  have agrees := agrees_run run
  rcases lt_or_ge 0 host.workers with some_worker | none
  · have complete := agrees.complete some_worker exited
    have terminal : (∀ i, (state.task i).state = .done ∨ (state.task i).state = .failed) ↔
        ∀ i < host.total, host.Settles i := by
      simp only [complete.task, finalTask_terminal_iff]
      exact ⟨fun settles i below => settles ⟨i, below⟩, fun settles i => settles i i.isLt⟩
    refine ⟨fun reports => ⟨some_worker, terminal.mp reports.terminal⟩, fun holds =>
      ⟨terminal.mpr holds.2, ?_⟩⟩
    rw [complete.status, exitStatus_eq_zero_iff some_task holds.2]
    exact forall_congr' fun i => complete.done_iff (answers_run run) (holds.2 i i.isLt)
  · refine iff_of_false (fun reports => ?_) fun holds => absurd holds.1 (not_lt.mpr none)
    have terminal := reports.terminal ⟨0, some_task⟩
    rw [agrees.task_init none exited] at terminal
    simp [Task.init] at terminal

/-- Some order of the steps leads to the computed status. -/
theorem exists_complete (host : Host) (some_worker : 0 < host.workers) : ∃ trace state,
    ((createConcurrent host).restrict Drawn).Run trace state ∧
      state.main = .exited host.exitStatus ∧ ∀ i, state.task i = host.finalTask i := by
  have start : ((createConcurrent host).restrict Drawn).Reachable (.init host.total) :=
    ⟨[], _, rfl, .nil _⟩
  obtain ⟨trace, state, status, path, exited⟩ := exists_exit start
  have run : ((createConcurrent host).restrict Drawn).Run trace state := ⟨_, rfl, path⟩
  have complete := (agrees_run run).complete some_worker exited
  exact ⟨trace, state, run, complete.status ▸ exited, complete.task⟩

/-- One task, whose requests both succeed. -/
def singleHost (data : Json.Fields) : Host where
  count := 1
  workersArg := none
  floatIs _ _ := false
  create _ := .ok data
  destroy _ := .ok ()

def refused : Raised :=
  ⟨true, "HTTPError".toList, "503".toList⟩

/-- Three tasks and two workers.  The second request to create fails, and the last one to
destroy. -/
def pooledHost : Host where
  count := 3
  workersArg := some 2
  floatIs _ _ := false
  create i := if i = 1 then .error refused else .ok [("sandboxID".toList, .str ['a'])]
  destroy i := if i = 2 then .error refused else .ok ()

theorem reports_iff_pooled : ∃ trace state,
    ((createConcurrent pooledHost).restrict Drawn).Run trace state ∧ state.main = .exited 1 ∧
      Reports trace state 1 := by
  obtain ⟨trace, state, run, exited, _⟩ := exists_complete pooledHost (by decide)
  have settles : ∀ i < pooledHost.total, pooledHost.Settles i := by
    intro i below
    have known : i = 0 ∨ i = 1 ∨ i = 2 := by
      have total : pooledHost.total = 3 := rfl
      omega
    rcases known with rfl | rfl | rfl
    · exact ⟨rfl, nofun⟩
    · exact rfl
    · refine ⟨rfl, ?_⟩
      rintro e ⟨⟩
      rfl
  exact ⟨trace, state, run, exited, (reports_iff (by decide) run exited).mpr ⟨by decide, settles⟩⟩

/-- A response without an id leaves its task in `CREATED`, and `main` exits with 0. -/
theorem not_reports_withoutId : ∃ trace state,
    (createConcurrent (singleHost [])).Run trace state ∧ state.main = .exited 0 ∧
      ¬ Reports trace state 0 := by
  obtain ⟨trace, state, ⟨start, fresh, path⟩, exited, final⟩ :=
    exists_complete (singleHost []) (by decide)
  refine ⟨trace, state, ⟨start, fresh, path.of_restrict⟩, exited, fun reports => ?_⟩
  have terminal := reports.terminal ⟨0, by decide⟩
  rw [final] at terminal
  revert terminal
  decide

end Cube
end HermOS
