import HermOS.Batch.Capacity
import Mathlib.Algebra.Order.BigOperators.Group.Finset

/-!
# The end of a batch

Exit code 0 stands for a batch which has made every call of its plan once, all of them with success.
The code is 1 only if a subshell has failed or a signal has arrived.  Without signals a rank falls
at every step, so the script ends when its calls return.
-/

namespace HermOS
namespace Batch

variable {args : Args} {state before after : State} {label : Label} {trace : List Label}

/-! ### The log of a whole batch -/

/-- A list is the concatenation of its parts by a key below a bound, up to order. -/
theorem perm_flatMap_filter {α : Type} (key : α → ℕ) (bound : ℕ) (items : List α) :
    (items.filter (key · < bound)).Perm
      ((List.range bound).flatMap fun index => items.filter (key · = index)) := by
  induction bound with
  | zero => simp
  | succ bound ih =>
      have parts := List.filter_append_perm (fun item => decide (key item < bound))
        (items.filter (key · < bound + 1))
      have below : (items.filter (key · < bound + 1)).filter (key · < bound) =
          items.filter (key · < bound) := by
        rw [List.filter_filter]
        congr 1
        funext item
        rw [← Bool.decide_and, decide_eq_decide]
        omega
      have last :
          (items.filter (key · < bound + 1)).filter (fun item => !decide (key item < bound)) =
          items.filter (key · = bound) := by
        rw [List.filter_filter]
        congr 1
        funext item
        rw [← decide_not, ← Bool.decide_and, decide_eq_decide]
        omega
      rw [below, last] at parts
      rw [List.range_succ, List.flatMap_append, List.flatMap_singleton]
      exact parts.symm.trans (ih.append_right _)

/-- Every task has made all its calls. -/
structure Complete (args : Args) (state : State) : Prop where
  /-- The calls are those of the plan, each of them made once. -/
  calls : (state.calls.map fun call => args.argv call.task call.round).Perm (args.plan.map some)
  succeed : ∀ call ∈ state.calls, call.status = 0
  idle : ∀ task, (state.group task).isBusy = false

theorem flatMap_argv (args : Args) : ((List.range args.tasks.length).flatMap fun task =>
      (succeeded task args.repeatCount.value).map fun call => args.argv call.task call.round) =
    args.plan.map some := by
  have tasks : args.tasks = (List.range args.tasks.length).map fun task =>
      args.tasks.getD task [] := by
    refine List.ext_getElem (by simp) fun index inside _ => ?_
    simp [inside]
  conv_rhs => rw [Args.plan, tasks, List.flatMap_map, List.map_flatMap]
  refine List.flatMap_congr fun task inside => ?_
  have below := List.mem_range.mp inside
  simp [succeeded, Args.argv, Function.comp_def, below]

/-- Every call belongs to a task of the file. -/
theorem filter_known (logged : AllLogged args state) (forked : Forked args state) :
    state.calls.filter (·.task < args.tasks.length) = state.calls := by
  refine List.filter_eq_self.mpr fun call member => decide_eq_true (forked.lt fun unborn => ?_)
  have none_done := (logged call.task).unborn unborn
  have found : call ∈ state.calls.filter (·.task = call.task) :=
    List.mem_filter.mpr ⟨member, by simp⟩
  rcases (logged call.task).calls with clean | ⟨_, _, _, counted, _⟩
  · simp [clean, none_done, succeeded] at found
  · omega

theorem complete_of_whole (logged : AllLogged args state) (forked : Forked args state)
    (whole : ∀ task < args.tasks.length, (state.group task).phase = .reaped 0) :
    Complete args state := by
  have log : ∀ task < args.tasks.length, state.calls.filter (·.task = task) =
      succeeded task args.repeatCount.value := by
    intro task below
    have done := (logged task).whole (.inr (whole task below))
    rcases (logged task).calls with clean | ⟨_, status, fails, _, _, ended | reaped⟩
    · rw [clean, done]
    · simp [whole task below] at ended
    · have zero : 0 = status := by simpa [whole task below] using reaped
      exact absurd zero.symm fails
  have parts := perm_flatMap_filter Call.task args.tasks.length state.calls
  have logs : ((List.range args.tasks.length).flatMap fun task =>
      state.calls.filter (·.task = task)) = (List.range args.tasks.length).flatMap fun task =>
        succeeded task args.repeatCount.value :=
    List.flatMap_congr fun task inside => log task (List.mem_range.mp inside)
  rw [filter_known logged forked, logs] at parts
  constructor
  · have mapped := parts.map fun call => args.argv call.task call.round
    rwa [List.map_flatMap, flatMap_argv] at mapped
  · intro call member
    obtain ⟨task, _, inside⟩ := List.mem_flatMap.mp (parts.mem_iff.mp member)
    obtain ⟨round, _, rfl⟩ := List.mem_map.mp inside
    rfl
  · intro task
    by_contra busy
    rcases Bool.or_eq_true_iff.mp (Bool.not_eq_false _ ▸ busy) with running | left
    · have running := of_decide_eq_true running
      have below : task < args.tasks.length := forked.lt (by simp [running])
      simp [whole task below] at running
    · obtain ⟨status, fails, ended | reaped⟩ := (logged task).orphan left
      · have below : task < args.tasks.length := forked.lt (by simp [ended])
        simp [whole task below] at ended
      · have below : task < args.tasks.length := forked.lt (by simp [reaped])
        have zero : 0 = status := by simpa [whole task below] using reaped
        exact fails zero.symm

theorem length_plan (args : Args) :
    args.plan.length = args.tasks.length * args.repeatCount.value := by
  simp [Args.plan, List.length_flatMap]

/-- A batch with a failed subshell is not complete. -/
theorem not_complete_of_failed (logged : AllLogged args state) (forked : Forked args state)
    {task status : ℕ} (fails : status ≠ 0) (reaped : (state.group task).phase = .reaped status) :
    ¬ Complete args state := by
  intro complete
  have below : task < args.tasks.length := forked.lt (by simp [reaped])
  have clean : ∀ other, state.calls.filter (·.task = other) =
      succeeded other (state.group other).done := by
    intro other
    rcases (logged other).calls with clean | ⟨rounds, failure, failed, _, log, _⟩
    · exact clean
    · have last : ⟨other, rounds, failure⟩ ∈ state.calls.filter (·.task = other) := by
        simp [log]
      exact absurd (complete.succeed _ (List.mem_of_mem_filter last)) failed
  have counted : (state.calls.filter (·.task < args.tasks.length)).length =
      ∑ other ∈ Finset.range args.tasks.length, (state.group other).done := by
    rw [(perm_flatMap_filter Call.task args.tasks.length state.calls).length_eq,
      List.length_flatMap]
    have lengths : ((List.range args.tasks.length).map fun other =>
        (state.calls.filter (·.task = other)).length) =
          (List.range args.tasks.length).map fun other => (state.group other).done :=
      List.map_congr_left fun other _ => by rw [clean]; simp [succeeded]
    rw [lengths]
    rfl
  have planned : args.tasks.length * args.repeatCount.value = state.calls.length := by
    have lengths := complete.calls.length_eq
    simpa [length_plan] using lengths.symm
  have short : ∑ other ∈ Finset.range args.tasks.length, (state.group other).done <
      ∑ _other ∈ Finset.range args.tasks.length, args.repeatCount.value := by
    refine Finset.sum_lt_sum (fun other _ => (logged other).bound) ⟨task, ?_, ?_⟩
    · exact Finset.mem_range.mpr below
    · exact (logged task).failed fails (.inr reaped) (clean task)
  rw [Finset.sum_const_nat fun _ _ => rfl, Finset.card_range, planned, ← counted,
    filter_known logged forked] at short
  exact short.false

/-! ### The exit code -/

theorem reaped_step (forked : Forked args before) (step : (batch args).Step before label after)
    {task status : ℕ} (reaped : (before.group task).phase = .reaped status) :
    (after.group task).phase = .reaped status := by
  obtain ⟨calls, own⟩ := exists_stepOf forked step task
  have moved := own.group
  generalize before.group task = group at moved reaped
  generalize after.group task = next at moved ⊢
  cases moved with
  | keep => exact reaped
  | abandon => exact reaped
  | fork unborn => exact Phase.noConfusion (unborn.symm.trans reaped)
  | kill runs => exact Phase.noConfusion (runs.symm.trans reaped)
  | reap ended => exact Phase.noConfusion (ended.symm.trans reaped)
  | ran runs => exact Phase.noConfusion (runs.symm.trans reaped)
  | stop runs => exact Phase.noConfusion (runs.symm.trans reaped)

/-- What the counters of the script tell about a run which has performed these labels. -/
structure Verdict (args : Args) (trace : List Label) (state : State) : Prop where
  failed : state.failures ≠ 0 → (∃ number, .signal number ∈ trace) ∨
    ∃ task status, status ≠ 0 ∧ (state.group task).phase = .reaped status
  well : state.pc = .exited 0 → state.failures = 0 ∧ state.active = 0
  ended : ∀ code, state.pc = .exited code → ∀ task, (state.group task).phase ≠ .running

/-- The script counts a failure only when a subshell has failed or a signal has arrived. -/
theorem failures_step (step : (batch args).Step before label after)
    (counts : after.failures ≠ 0) : before.failures ≠ 0 ∨ (∃ number, label = .signal number) ∨
      ∃ task status, status ≠ 0 ∧ (after.group task).phase = .reaped status := by
  cases step with
  | @reap back task status waits ended =>
      by_cases zero : status = 0
      · exact .inl (by simpa [State.waitedFor, State.setGroup, zero] using counts)
      · refine .inr (.inr ⟨task, status, zero, ?_⟩)
        simp [State.waitedFor, State.setGroup]
  | @interrupt _ number | @trap number => exact .inr (.inl ⟨number, rfl⟩)
  | conclude =>
      unfold State.conclude at counts
      split at counts <;> exact .inl counts
  | launch | full | room | leave | await | ran | stopped | abandoned => exact .inl counts

theorem isJob_of_idle (capacity : Capacity args state) (forked : Forked args state)
    (well : state.failures = 0) (none_left : state.active = 0) (task : ℕ) :
    (state.group task).isJob = false := by
  by_contra job
  have job := Bool.not_eq_false _ ▸ job
  have counted := capacity.counted well
  have below : task < args.tasks.length := by
    refine forked.lt fun unborn => ?_
    simp [Group.isJob, unborn] at job
  have some_job : ({task} : Finset ℕ).card ≤ jobCount args state :=
    Counting.card_le_raised (by simpa using below) (by simpa using job)
  rw [Finset.card_singleton] at some_job
  omega

theorem verdict_initial (args : Args) : Verdict args [] (.initial args) :=
  ⟨fun counts => absurd rfl counts, fun _ => ⟨rfl, rfl⟩, fun _ _ _ => Phase.noConfusion⟩

theorem Verdict.step (verdict : Verdict args trace before) (forked : Forked args before)
    (capacity : Capacity args before) (step : (batch args).Step before label after) :
    Verdict args (trace ++ [label]) after := by
  have failed : after.failures ≠ 0 → (∃ number, .signal number ∈ trace ++ [label]) ∨
      ∃ task status, status ≠ 0 ∧ (after.group task).phase = .reaped status := by
    intro counts
    rcases failures_step step counts with earlier | ⟨number, rfl⟩ | found
    · rcases verdict.failed earlier with ⟨number, member⟩ | ⟨task, status, fails, reaped⟩
      · exact .inl ⟨number, List.mem_append_left _ member⟩
      · exact .inr ⟨task, status, fails, reaped_step forked step reaped⟩
    · exact .inl ⟨number, List.mem_append_right _ List.mem_cons_self⟩
    · exact .inr found
  refine ⟨failed, ?_, ?_⟩
  · intro done
    cases step with
    | launch | full | room | leave | await => exact Pc.noConfusion done
    | @reap back | @interrupt back => cases back <;> exact Pc.noConfusion done
    | conclude _ none_left =>
        by_cases well : before.failures = 0
        · rw [State.conclude_well well]
          exact ⟨well, none_left⟩
        · rw [State.conclude_failed well] at done
          exact absurd (Pc.exited.inj done) (by decide)
    | ran | stopped | abandoned => exact verdict.well done
    | trap works live => exact absurd done (live 0)
  · intro code done task
    cases step with
    | launch | full | room | leave | await => exact Pc.noConfusion done
    | @reap back | @interrupt back => cases back <;> exact Pc.noConfusion done
    | conclude _ none_left =>
        by_cases well : before.failures = 0
        · rw [State.conclude_well well]
          intro runs
          have idle := isJob_of_idle capacity forked well none_left task
          simp [isJob_eq_true.mpr (.inl runs)] at idle
        · rw [State.conclude_failed well]
          intro runs
          have killed := phase_kill (before.group task)
          rw [show (before.group task).kill.phase = .running from runs] at killed
          split at killed
          next => exact Phase.noConfusion killed
          next other => exact other killed.symm
    | ran runs => exact absurd runs (verdict.ended code done _)
    | stopped runs => exact absurd runs (verdict.ended code done _)
    | @abandoned chosen =>
        rw [State.setGroup_group]
        rcases eq_or_ne task chosen with rfl | ne
        · rw [Function.update_self]
          exact verdict.ended code done task
        · rw [Function.update_of_ne ne]
          exact verdict.ended code done task
    | trap works live => exact absurd done (live code)

theorem verdict_run (run : (batch args).Run trace state) : Verdict args trace state := by
  obtain ⟨initial, rfl, path⟩ := run
  have begins : (batch args).Run [] (.initial args) ∧ Verdict args [] (.initial args) :=
    ⟨⟨_, rfl, .nil _⟩, verdict_initial args⟩
  have kept := path.invariant_trace
    (fun past state => (batch args).Run past state ∧ Verdict args past state) ?_ begins
  · simpa using kept.2
  · rintro past before label after ⟨run, verdict⟩ step
    have forked := Forked.reachable run.reachable
    have capacity := capacity_reachable run.reachable
    exact ⟨run.extend step, verdict.step forked capacity step⟩

theorem complete_of_exited (run : (batch args).Run trace state) (exited : state.pc = .exited 0) :
    Complete args state := by
  have verdict := verdict_run run
  have forked := Forked.reachable run.reachable
  have capacity := capacity_reachable run.reachable
  obtain ⟨well, none_left⟩ := verdict.well exited
  have whole := forked
  obtain ⟨count, _, unborn, at_pc⟩ := whole
  rw [exited] at at_pc
  rcases at_pc with ⟨_, all⟩ | ⟨impossible, _⟩
  · refine complete_of_whole (allLogged_reachable run.reachable) forked fun task below => ?_
    have idle := isJob_of_idle capacity forked well none_left task
    have born : (state.group task).phase ≠ .unborn := fun fresh => by
      have outside := (unborn task).mp fresh
      omega
    cases phase : (state.group task).phase with
    | unborn => exact absurd phase born
    | running => simp [Group.isJob, phase] at idle
    | ended status => simp [Group.isJob, phase] at idle
    | reaped status => rw [capacity.sound well task status phase]
  · exact absurd impossible (by decide)

/-- The exit code is 0 or 1.  It is 0 only after a complete batch, and 1 only if a subshell has
failed, which makes the batch incomplete, or if a signal has arrived.  In both cases no subshell is
left. -/
theorem exit_code (run : (batch args).Run trace state) {code : ℕ}
    (exited : state.pc = .exited code) : (∀ task, (state.group task).phase ≠ .running) ∧
      (code = 0 ∧ Complete args state ∨
        code = 1 ∧ (¬ Complete args state ∨ ∃ number, .signal number ∈ trace)) := by
  have verdict := verdict_run run
  have forked := Forked.reachable run.reachable
  have logged := allLogged_reachable run.reachable
  refine ⟨verdict.ended code exited, ?_⟩
  obtain ⟨count, _, unborn, at_pc⟩ := id forked
  rw [exited] at at_pc
  rcases at_pc with ⟨rfl, all⟩ | ⟨rfl, failed⟩
  · exact .inl ⟨rfl, complete_of_exited run exited⟩
  · refine .inr ⟨rfl, ?_⟩
    rcases verdict.failed failed with signalled | ⟨task, status, fails, reaped⟩
    · exact .inr signalled
    · exact .inl (not_complete_of_failed logged forked fails reaped)

theorem exit_code_sample : (∀ task, (sampleEnd.group task).phase ≠ .running) ∧
    (0 = 0 ∧ Complete sampleArgs sampleEnd ∨
      0 = 1 ∧ (¬ Complete sampleArgs sampleEnd ∨ ∃ number, .signal number ∈ sampleTrace)) :=
  exit_code sample_run rfl

/-! ### Run directories -/

theorem runId_injOn (args : Args) {first second : ℕ} (first_le : first ≤ args.repeatCount.value)
    (second_le : second ≤ args.repeatCount.value) (same : args.runId first = args.runId second) :
    first = second := by
  have small := args.repeatCount.small
  have numbers := Python.str_injective (List.append_cancel_left same)
  have sums := arith_injOn (by omega) (by omega) numbers
  omega

/-- A log holds every round once. -/
theorem map_argv_log {task repeats : ℕ} {group : Group} {log : List Call}
    (logged : Logged repeats task group log) :
    (log.map fun call => args.argv call.task call.round) =
      (List.range group.done).map (args.argv task) := by
  rcases logged.calls with clean | ⟨rounds, status, _, counted, log_eq, _⟩
  · simp [clean, succeeded, Function.comp_def]
  · simp [log_eq, counted, succeeded, List.range_succ, Function.comp_def]

/-- The calls which have returned, and the next round of each task, are the rounds of the tasks so
far. -/
theorem perm_rounds (logged : AllLogged args state) (forked : Forked args state) :
    ((state.calls.map fun call => args.argv call.task call.round) ++
      (List.range args.tasks.length).map fun task =>
        args.argv task (state.group task).done).Perm
      ((List.range args.tasks.length).flatMap fun task =>
        (List.range ((state.group task).done + 1)).map (args.argv task)) := by
  have parts := (perm_flatMap_filter Call.task args.tasks.length state.calls).map
    fun call => args.argv call.task call.round
  rw [filter_known logged forked, List.map_flatMap] at parts
  simp only [map_argv_log (logged _)] at parts
  refine (parts.append_right _).trans ?_
  rw [List.map_eq_flatMap]
  refine (List.flatMap_append_perm _ _ _).trans (List.Perm.of_eq ?_)
  refine List.flatMap_congr fun task _ => ?_
  rw [List.range_succ, List.map_append, List.map_singleton]

/-- If the file names no task twice, no two calls are made with the same instance and run.  A call
which goes on or has been left behind is the next round of its task. -/
theorem calls_distinct (reachable : (batch args).Reachable state) (distinct : args.tasks.Nodup) :
    ((state.calls.map fun call => args.argv call.task call.round) ++
      (List.range args.tasks.length).map fun task =>
        args.argv task (state.group task).done).Nodup := by
  have logged := allLogged_reachable reachable
  refine (perm_rounds logged (Forked.reachable reachable)).nodup_iff.mpr
    (List.nodup_flatMap.mpr ⟨fun task inside => ?_, ?_⟩)
  · have below := List.mem_range.mp inside
    refine List.Nodup.map_on ?_ List.nodup_range
    intro first first_lt second second_lt same
    have bound := (logged task).bound
    have ids : args.runId first = args.runId second := by
      simpa [Args.argv, below] using same
    exact runId_injOn args ((Nat.le_of_lt_succ (List.mem_range.mp first_lt)).trans bound)
      ((Nat.le_of_lt_succ (List.mem_range.mp second_lt)).trans bound) ids
  · refine List.nodup_range.imp_of_mem ?_
    intro task other task_lt other_lt apart
    have task_lt := List.mem_range.mp task_lt
    have other_lt := List.mem_range.mp other_lt
    intro call in_task in_other
    obtain ⟨first, _, rfl⟩ := List.mem_map.mp in_task
    obtain ⟨second, _, same⟩ := List.mem_map.mp in_other
    have names : args.tasks[other] = args.tasks[task] := by
      have both : args.tasks[other] = args.tasks[task] ∧ args.runId second = args.runId first := by
        simpa [Args.argv, task_lt, other_lt] using same
      exact both.1
    exact apart ((distinct.getElem_inj_iff).mp names).symm

theorem calls_distinct_sample :
    ((sampleEnd.calls.map fun call => sampleArgs.argv call.task call.round) ++
      (List.range 3).map fun task => sampleArgs.argv task (sampleEnd.group task).done).Nodup :=
  calls_distinct sample_run.reachable (by simp [sampleArgs])

end Batch
end HermOS
