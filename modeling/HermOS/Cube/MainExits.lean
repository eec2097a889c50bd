import HermOS.Cube.TaskStates

/-!
# The end of `main`

Unless the console raises, every step brings `main` nearer to its exit, and until then some step can
be taken.
-/

namespace HermOS
namespace Cube

/-- Bound on the steps behind the executor's own ones, for so many items. -/
def MainPc.rest (items : ℕ) : MainPc → ℕ
  | .opening => 2 * items + 7
  | .pooling => 2 * items + 6
  | .submitting => 2 * items + 5
  | .awaiting seen => 2 * (items - seen) + 4
  | .updating seen => 2 * (items - seen) + 5
  | .leaving _ => 3
  | .closing => 2
  | .reporting => 1
  | .exited _ => 0

/-- Bound on the steps of the phases behind a phase. -/
def Phase.rest {total : ℕ} : Phase total → ℕ
  | .create => 5 * total + 7
  | .destroy _ _ => 0

/-- Bound on the steps until `main` has exited. -/
def State.rest {total : ℕ} (state : State total) : ℕ :=
  state.phase.rest + state.pool.rest state.phase.items.length +
    state.main.rest state.phase.items.length

variable {host : Host} {past : List Label} {label : Label} {state : State host.total}

/-- No more futures are submitted than the phase has tasks. -/
theorem MainPc.Knows.bound {main : MainPc} {phase : Phase host.total} {pool : WorkerPool}
    (knows : main.Knows host phase pool) : pool.submitted ≤ phase.items.length := by
  cases main with
  | opening | pooling =>
      have none_yet : pool.submitted = 0 := knows
      omega
  | submitting => exact knows.2
  | awaiting seen | updating seen | leaving raised | closing | reporting => exact knows.2.1.le
  | exited status =>
      rcases knows with ⟨_, _, none_yet, _⟩ | ⟨_, all, _⟩
      · omega
      · exact all.le

theorem rest_moveMain {main : MainPc}
    (lower : main.rest state.phase.items.length < state.main.rest state.phase.items.length) :
    (state.moveMain main).rest < state.rest :=
  Nat.add_lt_add_left lower _

theorem rest_setPool {pool : WorkerPool}
    (lower : pool.rest state.phase.items.length < state.pool.rest state.phase.items.length) :
    (state.setPool pool).rest < state.rest :=
  Nat.add_lt_add_right (Nat.add_lt_add_left lower _) _

theorem rest_startPhase {created failed : List (Fin host.total)} (in_phase : state.phase = .create)
    (at_pc : state.main = .reporting)
    (some_of : created.length ≤ (List.finRange host.total).length) :
    (state.startPhase (.destroy created failed)).rest < state.rest := by
  rw [List.length_finRange] at some_of
  have fresh := WorkerPool.empty.rest_le created.length
  have after : (state.startPhase (.destroy created failed)).rest =
      WorkerPool.empty.rest created.length + (2 * created.length + 7) := by
    simp [State.rest, State.startPhase, Phase.rest, Phase.items, MainPc.rest]
  have before : 5 * host.total + 8 ≤ state.rest := by
    rw [State.rest, in_phase, at_pc]
    simp only [Phase.rest, MainPc.rest]
    omega
  omega

theorem rest_step {before after : State host.total} (agrees : Agrees host past before)
    (step : ((createConcurrent host).restrict Drawn).Step before label after) :
    after.rest < before.rest := by
  obtain ⟨step, drawn⟩ := step
  have bound := agrees.main.bound
  cases step with
  | opened at_pc | pooled at_pc _ | refused at_pc _ | submitted at_pc _ | updated at_pc
  | closed at_pc
  | reportedNone at_pc _ _ | reportedDestroyed at_pc _ =>
      refine rest_moveMain ?_
      rw [at_pc]
      simp [MainPc.rest]
  | completed at_pc next =>
      have known := agrees.main
      rw [at_pc] at known
      have counted := before.pool.done_le
      have all := known.2.1
      refine rest_moveMain ?_
      rw [at_pc]
      simp only [MainPc.rest]
      omega
  | exhausted at_pc _ =>
      refine rest_moveMain ?_
      rw [at_pc]
      simp only [MainPc.rest]
      omega
  | @shutDown raised at_pc _ =>
      refine rest_moveMain ?_
      rw [at_pc]
      cases raised <;> simp [MainPc.rest]
  | reportedCreated at_pc in_phase _ =>
      exact rest_startPhase in_phase at_pc (List.length_filter_le _ _)
  | raised at_pc => cases drawn
  | submit at_pc more => exact rest_setPool (WorkerPool.rest_submit more)
  | skipDestroy in_phase free _ _ => exact rest_setPool (WorkerPool.rest_skip free.waiting bound)
  | enterCreate in_phase free _ | enterDestroy in_phase free _ _ =>
      exact rest_setPool (WorkerPool.rest_begin free.waiting bound)
  | leaveCreate in_phase started running _ | leaveDestroy in_phase started running _ =>
      exact rest_setPool (WorkerPool.rest_finish started running bound)

/-- Some future can progress as long as one has not finished. -/
theorem Agrees.enabled_work (agrees : Agrees host past state) (some_worker : 0 < host.workers)
    (unfinished : state.pool.done < state.pool.submitted) :
    ((createConcurrent host).restrict Drawn).Enabled state := by
  have bound := agrees.main.bound
  have workers : 0 < host.workers.toNat := by omega
  rcases WorkerPool.canBegin_or_running workers unfinished with free | ⟨item, running⟩
  · have below := free.waiting.trans_le bound
    have at_item := List.getElem?_eq_getElem below
    cases in_phase : state.phase with
    | create => exact ⟨_, _, .enterCreate in_phase free at_item, rfl⟩
    | destroy created failed =>
        cases with_id : (state.task state.phase.items[state.pool.begun]).sandboxId.truthy
            host.floatIs with
        | true => exact ⟨_, _, .enterDestroy in_phase free at_item with_id, rfl⟩
        | false => exact ⟨_, _, .skipDestroy in_phase free at_item with_id, rfl⟩
  · obtain ⟨started, running⟩ := WorkerPool.slot_eq_running.mp running
    have below := (started.trans_le state.pool.begun_le).trans_le bound
    have at_item := List.getElem?_eq_getElem below
    cases in_phase : state.phase with
    | create => exact ⟨_, _, .leaveCreate in_phase started running at_item, rfl⟩
    | destroy created failed =>
        exact ⟨_, _, .leaveDestroy in_phase started running at_item, rfl⟩

theorem Agrees.exited_of_stuck (agrees : Agrees host past state)
    (stuck : ¬ ((createConcurrent host).restrict Drawn).Enabled state) :
    ∃ status, state.main = .exited status := by
  have knows := agrees.main
  by_contra running
  refine stuck ?_
  cases at_pc : state.main with
  | opening => exact ⟨_, _, .opened at_pc, rfl⟩
  | pooling =>
      rcases lt_or_ge 0 host.workers with some_worker | none
      · exact ⟨_, _, .pooled at_pc some_worker, rfl⟩
      · exact ⟨_, _, .refused at_pc none, rfl⟩
  | submitting =>
      rcases Nat.lt_or_ge state.pool.submitted state.phase.items.length with more | all
      · exact ⟨_, _, .submit at_pc more, rfl⟩
      · exact ⟨_, _, .submitted at_pc all, rfl⟩
  | awaiting seen =>
      rw [at_pc] at knows
      obtain ⟨some_worker, all, counted⟩ := knows
      rcases Nat.lt_or_ge seen state.phase.items.length with more | every
      · rcases Nat.lt_or_ge seen state.pool.done with next | waiting
        · exact ⟨_, _, .completed at_pc next, rfl⟩
        · exact agrees.enabled_work some_worker (by omega)
      · exact ⟨_, _, .exhausted at_pc every, rfl⟩
  | updating seen => exact ⟨_, _, .updated at_pc, rfl⟩
  | leaving raised =>
      rw [at_pc] at knows
      rcases Nat.lt_or_ge state.pool.done state.pool.submitted with unfinished | idle
      · exact agrees.enabled_work knows.1 unfinished
      · exact ⟨_, _, .shutDown at_pc idle, rfl⟩
  | closing => exact ⟨_, _, .closed at_pc, rfl⟩
  | reporting =>
      cases in_phase : state.phase with
      | create =>
          by_cases none : state.tasksIn (List.finRange host.total) .created = []
          · exact ⟨_, _, .reportedNone at_pc in_phase none, rfl⟩
          · exact ⟨_, _, .reportedCreated at_pc in_phase none, rfl⟩
      | destroy created failed => exact ⟨_, _, .reportedDestroyed at_pc in_phase, rfl⟩
  | exited status => exact absurd ⟨status, at_pc⟩ running

/-! ### Runs -/

theorem agrees_run {trace : List Label}
    (run : ((createConcurrent host).restrict Drawn).Run trace state) : Agrees host trace state := by
  obtain ⟨_, rfl, path⟩ := run
  exact path.invariant_trace (Agrees host) agrees_step agrees_init

/-- From wherever a run has come, `main` can exit. -/
theorem exists_exit (reachable : ((createConcurrent host).restrict Drawn).Reachable state) :
    ∃ trace after status, ((createConcurrent host).restrict Drawn).Path state trace after ∧
      after.main = .exited status := by
  obtain ⟨past, run⟩ := reachable
  obtain ⟨trace, after, path, ⟨whole, agrees⟩, stuck⟩ :=
    TransitionSystem.Path.exists_stuck (fun state => ∃ past, Agrees host past state) State.rest
      (fun held step => ⟨_, agrees_step held.choose_spec step⟩)
      (fun held step => rest_step held.choose_spec step) state ⟨past, agrees_run run⟩
  obtain ⟨status, exited⟩ := agrees.exited_of_stuck stuck
  exact ⟨trace, after, status, path, exited⟩

/-- No run goes on for ever. -/
theorem length_run_le {trace : List Label}
    (run : ((createConcurrent host).restrict Drawn).Run trace state) :
    trace.length ≤ 10 * host.total + 14 := by
  obtain ⟨_, rfl, path⟩ := run
  have steps := path.length_add_le (fun state => ∃ past, Agrees host past state) State.rest
    (fun held step => ⟨_, agrees_step held.choose_spec step⟩)
    (fun held step => rest_step held.choose_spec step) ⟨[], agrees_init⟩
  have fresh := WorkerPool.empty.rest_le host.total
  have start : (State.init host.total).rest =
      5 * host.total + 7 + WorkerPool.empty.rest host.total + (2 * host.total + 7) := by
    simp [State.rest, State.init, Phase.rest, Phase.items, MainPc.rest]
  omega

end Cube
end HermOS
