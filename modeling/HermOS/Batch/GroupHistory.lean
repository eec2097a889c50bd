import HermOS.Batch.TaskGroups

/-!
# The calls of each task

The tasks are forked in the order of the file, and a subshell calls its rounds in order until one
of them fails.  Hence the calls of a task are known from the number of rounds which succeeded and
from the status of the round which did not.
-/

namespace HermOS
namespace Batch

/-! ### Forked tasks -/

/-- The first tasks of the file have been forked. -/
def Pc.Forked (tasks failures forked : ℕ) : Pc → Prop
  | .launching index | .forked index | .waiting (some index) => forked = index
  | .waiting none | .draining => forked = tasks ∨ failures ≠ 0
  | .exited code => code = 0 ∧ forked = tasks ∨ code = 1 ∧ failures ≠ 0

/-- The subshells which exist are those of the first tasks. -/
def Forked (args : Args) (state : State) : Prop :=
  ∃ forked ≤ args.tasks.length, (∀ task, (state.group task).phase = .unborn ↔ forked ≤ task) ∧
    state.pc.Forked args.tasks.length state.failures forked

variable {args : Args} {state before after : State} {label : Label}

@[simp] theorem phase_kill (group : Group) :
    group.kill.phase = if group.phase = .running then .ended terminated else group.phase := by
  unfold Group.kill
  split
  next running => rw [if_pos running]
  next other => rw [if_neg other]

theorem unborn_kill (group : Group) : group.kill.phase = .unborn ↔ group.phase = .unborn := by
  rw [phase_kill]
  split
  next running => simp [running]
  next => rfl

/-- A subshell whose call has returned goes on or has ended. -/
theorem phase_ran (repeats status : ℕ) (group : Group) :
    (group.ran repeats status).phase = .running ∧ group.done + 1 < repeats ∨
      ∃ found, (group.ran repeats status).phase = .ended found := by
  unfold Group.ran
  dsimp only
  split
  · exact .inr ⟨status, rfl⟩
  · split
    next more => exact .inl ⟨rfl, more⟩
    next => exact .inr ⟨0, rfl⟩

theorem unborn_ran (repeats status : ℕ) (group : Group) :
    (group.ran repeats status).phase ≠ .unborn := by
  rcases phase_ran repeats status group with ⟨running, _⟩ | ⟨found, ended⟩
  · simp [running]
  · simp [ended]

/-- A subshell which exists moves. -/
theorem unborn_setGroup {task : ℕ} {group : Group} (exists_ : (state.group task).phase ≠ .unborn)
    (stays : group.phase ≠ .unborn) (other : ℕ) :
    ((state.setGroup task group).group other).phase = .unborn ↔
      (state.group other).phase = .unborn := by
  rw [State.setGroup_group]
  rcases eq_or_ne other task with rfl | ne
  · rw [Function.update_self]
    exact ⟨fun unborn => absurd unborn stays, fun unborn => absurd unborn exists_⟩
  · rw [Function.update_of_ne ne]

theorem Pc.Forked.returned {tasks failures forked : ℕ} {back : Option ℕ} (status : ℕ)
    (inside : (Pc.waiting back).Forked tasks failures forked) :
    (Pc.returned back).Forked tasks (if status ≠ 0 then failures + 1 else failures) forked := by
  cases back with
  | some index => exact inside
  | none =>
      refine inside.imp_right fun failed => ?_
      split
      · exact Nat.succ_ne_zero failures
      · exact failed

theorem forked_initial (args : Args) : Forked args (.initial args) := by
  refine ⟨0, Nat.zero_le _, fun task => by simp [State.initial, Group.fresh], ?_⟩
  unfold State.initial
  dsimp only
  split
  next none => exact .inl ⟨rfl, by rw [none]; rfl⟩
  next => rfl

/-- Only `launch` adds a subshell, and it adds that of the next task. -/
theorem forked_step (inside : Forked args before) (step : (batch args).Step before label after) :
    Forked args after := by
  obtain ⟨forked, bound, unborn, at_pc⟩ := inside
  cases step with
  | @launch index at_head more =>
      rw [at_head] at at_pc
      obtain rfl : forked = index := at_pc
      refine ⟨forked + 1, more, fun task => ?_, rfl⟩
      have moved : ((before.launch forked).group task).phase = .unborn ↔
          task ≠ forked ∧ (before.group task).phase = .unborn := by
        rw [State.launch_group]
        rcases eq_or_ne task forked with rfl | ne
        · simp
        · simp [ne]
      rw [moved, unborn task]
      omega
  | full at_check =>
      rw [at_check] at at_pc
      exact ⟨forked, bound, unborn, at_pc⟩
  | room at_check =>
      rw [at_check] at at_pc
      exact ⟨forked, bound, unborn, at_pc⟩
  | leave at_head decided =>
      rw [at_head] at at_pc
      obtain rfl : forked = _ := at_pc
      exact ⟨forked, bound, unborn, decided.imp_left bound.antisymm⟩
  | await at_head =>
      rw [at_head] at at_pc
      exact ⟨forked, bound, unborn, at_pc⟩
  | @reap back task status waits ended =>
      rw [waits] at at_pc
      refine ⟨forked, bound, fun other => ?_, at_pc.returned status⟩
      rw [← unborn other]
      exact unborn_setGroup (by simp [ended]) Phase.noConfusion other
  | conclude at_head =>
      rw [at_head] at at_pc
      unfold State.conclude
      split
      next failed =>
        refine ⟨forked, bound, fun task => ?_, .inr ⟨rfl, failed⟩⟩
        rw [← unborn task]
        exact unborn_kill _
      next well => exact ⟨forked, bound, unborn, .inl ⟨rfl, at_pc.resolve_right well⟩⟩
  | @ran task status runs =>
      refine ⟨forked, bound, fun other => ?_, at_pc⟩
      rw [← unborn other]
      exact unborn_setGroup (by simp [runs]) (unborn_ran _ _ _) other
  | stopped runs =>
      refine ⟨forked, bound, fun other => ?_, at_pc⟩
      rw [← unborn other]
      exact unborn_setGroup (by simp [runs]) Phase.noConfusion other
  | @abandoned task left =>
      refine ⟨forked, bound, fun other => ?_, at_pc⟩
      rw [← unborn other]
      rw [State.setGroup_group]
      rcases eq_or_ne other task with rfl | ne
      · rw [Function.update_self]
      · rw [Function.update_of_ne ne]
  | @interrupt back number waits =>
      rw [waits] at at_pc
      refine ⟨forked, bound, fun other => ?_, at_pc.returned (128 + number)⟩
      rw [← unborn other]
      exact unborn_kill _
  | trap works live =>
      refine ⟨forked, bound, fun other => ?_, at_pc⟩
      rw [← unborn other]
      exact unborn_kill _

theorem Forked.reachable (reachable : (batch args).Reachable state) : Forked args state :=
  reachable.invariant (Forked args) (by rintro _ rfl; exact forked_initial args) forked_step

/-! ### What one step does to a subshell -/

/-- A subshell makes a step, and the calls return which are listed. -/
inductive GroupStep (repeats task : ℕ) : Group → List Call → Group → Prop
  | keep (group : Group) : GroupStep repeats task group [] group
  | fork {group : Group} (unborn : group.phase = .unborn) :
      GroupStep repeats task group [] ⟨.running, 0, false⟩
  | kill {group : Group} (runs : group.phase = .running) :
      GroupStep repeats task group [] { group with phase := .ended terminated, orphan := true }
  | reap {group : Group} {status : ℕ} (ended : group.phase = .ended status) :
      GroupStep repeats task group [] { group with phase := .reaped status }
  | ran {group : Group} (runs : group.phase = .running) (status : ℕ) :
      GroupStep repeats task group [⟨task, group.done, status⟩] (group.ran repeats status)
  | stop {group : Group} {status : ℕ} (runs : group.phase = .running) (fails : status ≠ 0) :
      GroupStep repeats task group [] { group with phase := .ended status }
  | abandon {group : Group} (left : group.orphan = true) :
      GroupStep repeats task group [] { group with orphan := false }

theorem groupStep_kill (repeats task : ℕ) (group : Group) :
    GroupStep repeats task group [] group.kill := by
  unfold Group.kill
  split
  next runs => exact .kill runs
  next => exact .keep group

/-- Every subshell takes part in every step, and the log grows by its calls. -/
structure StepOf (repeats task : ℕ) (before after : State) (calls : List Call) : Prop where
  group : GroupStep repeats task (before.group task) calls (after.group task)
  log : after.calls.filter (·.task = task) = before.calls.filter (·.task = task) ++ calls

theorem stepOf_same {repeats task : ℕ} (groups : after.group task = before.group task)
    (calls : after.calls = before.calls) : StepOf repeats task before after [] :=
  ⟨groups ▸ .keep _, by rw [calls, List.append_nil]⟩

theorem stepOf_kill {repeats task : ℕ} (groups : after.group task = (before.group task).kill)
    (calls : after.calls = before.calls) : StepOf repeats task before after [] :=
  ⟨groups ▸ groupStep_kill repeats task _, by rw [calls, List.append_nil]⟩

/-- A step which writes one subshell is a step of this one, and none of the others. -/
theorem stepOf_update {repeats task chosen : ℕ} {group : Group}
    (groups : after.group = Function.update before.group chosen group)
    (calls : after.calls = before.calls)
    (own : GroupStep repeats chosen (before.group chosen) [] group) :
    StepOf repeats task before after [] := by
  rcases eq_or_ne task chosen with rfl | ne
  · refine ⟨?_, by rw [calls, List.append_nil]⟩
    rw [groups, Function.update_self]
    exact own
  · refine stepOf_same ?_ calls
    rw [groups, Function.update_of_ne ne]

theorem exists_stepOf (inside : Forked args before)
    (step : (batch args).Step before label after) (task : ℕ) :
    ∃ calls, StepOf args.repeatCount.value task before after calls := by
  cases step with
  | @launch index at_head =>
      obtain ⟨forked, _, unborn, at_pc⟩ := inside
      rw [at_head] at at_pc
      have fresh : (before.group index).phase = .unborn := (unborn index).mpr at_pc.le
      exact ⟨[], stepOf_update rfl rfl (.fork fresh)⟩
  | full | room | leave | await => exact ⟨[], stepOf_same rfl rfl⟩
  | reap waits ended => exact ⟨[], stepOf_update rfl rfl (.reap ended)⟩
  | conclude =>
      unfold State.conclude
      split
      · exact ⟨[], stepOf_kill rfl rfl⟩
      · exact ⟨[], stepOf_same rfl rfl⟩
  | @ran chosen status runs =>
      rcases eq_or_ne task chosen with rfl | ne
      · refine ⟨[⟨task, (before.group task).done, status⟩], ⟨?_, ?_⟩⟩
        · rw [State.ran_group, Function.update_self]
          exact .ran runs status
        · simp [State.ran, State.setGroup, List.filter_append]
      · refine ⟨[], ⟨?_, ?_⟩⟩
        · rw [State.ran_group, Function.update_of_ne ne]
          exact .keep _
        · simp [State.ran, State.setGroup, List.filter_append, ne.symm]
  | stopped runs fails => exact ⟨[], stepOf_update rfl rfl (.stop runs fails)⟩
  | abandoned left => exact ⟨[], stepOf_update rfl rfl (.abandon left)⟩
  | interrupt | trap => exact ⟨[], stepOf_kill rfl rfl⟩

/-! ### The log of a subshell -/

/-- Rounds of a task which have succeeded. -/
def succeeded (task rounds : ℕ) : List Call :=
  (List.range rounds).map (⟨task, ·, 0⟩)

theorem succeeded_succ (task rounds : ℕ) :
    succeeded task (rounds + 1) = succeeded task rounds ++ [⟨task, rounds, 0⟩] := by
  rw [succeeded, List.range_succ, List.map_append]
  rfl

/-- The subshell has waited for so many calls, and only the last of them may have failed. -/
structure Logged (repeats task : ℕ) (group : Group) (log : List Call) : Prop where
  calls : log = succeeded task group.done ∨ ∃ rounds status, status ≠ 0 ∧
    group.done = rounds + 1 ∧ log = succeeded task rounds ++ [⟨task, rounds, status⟩] ∧
    (group.phase = .ended status ∨ group.phase = .reaped status)
  unborn : group.phase = .unborn → group.done = 0
  running : group.phase = .running → group.done < repeats
  bound : group.done ≤ repeats
  /-- A subshell which succeeds has waited for every round. -/
  whole : group.phase = .ended 0 ∨ group.phase = .reaped 0 → group.done = repeats
  /-- A subshell which fails after a success lacks a round. -/
  failed : ∀ {status}, status ≠ 0 → group.phase = .ended status ∨ group.phase = .reaped status →
    log = succeeded task group.done → group.done < repeats
  orphan : group.orphan = true →
    ∃ status, status ≠ 0 ∧ (group.phase = .ended status ∨ group.phase = .reaped status)

namespace Logged

variable {repeats task : ℕ} {group next : Group} {log calls : List Call}

theorem fresh (repeats task : ℕ) : Logged repeats task .fresh [] :=
  ⟨.inl rfl, fun _ => rfl, Phase.noConfusion, Nat.zero_le _, by simp [Group.fresh],
    by simp [Group.fresh], Bool.noConfusion⟩

/-- The log of a running subshell holds no failure. -/
theorem calls_running (logged : Logged repeats task group log) (runs : group.phase = .running) :
    log = succeeded task group.done := by
  rcases logged.calls with clean | ⟨_, status, _, _, _, ended | reaped⟩
  · exact clean
  · simp [runs] at ended
  · simp [runs] at reaped

theorem not_orphan_running (logged : Logged repeats task group log)
    (runs : group.phase = .running) : group.orphan = false := by
  by_contra left
  obtain ⟨_, _, ended | reaped⟩ := logged.orphan (Bool.not_eq_false _ ▸ left)
  · simp [runs] at ended
  · simp [runs] at reaped

/-- A running subshell ends with a failure outside its calls. -/
theorem ended (logged : Logged repeats task group log) (runs : group.phase = .running)
    {status : ℕ} (fails : status ≠ 0) (left : Bool) :
    Logged repeats task { group with phase := .ended status, orphan := left } log where
  calls := .inl (logged.calls_running runs)
  unborn := Phase.noConfusion
  running := Phase.noConfusion
  bound := logged.bound
  whole := by simp [fails]
  failed _ _ _ := logged.running runs
  orphan _ := ⟨status, fails, .inl rfl⟩

theorem ran (logged : Logged repeats task group log) (runs : group.phase = .running)
    (status : ℕ) :
    Logged repeats task (group.ran repeats status) (log ++ [⟨task, group.done, status⟩]) := by
  have clean := logged.calls_running runs
  have short := logged.running runs
  have alone := logged.not_orphan_running runs
  subst clean
  by_cases failed : status = 0
  · subst failed
    have grown : succeeded task group.done ++ [⟨task, group.done, 0⟩] =
        succeeded task (group.done + 1) := (succeeded_succ task group.done).symm
    rw [grown]
    by_cases more : group.done + 1 < repeats
    · have next : group.ran repeats 0 =
          { group with done := group.done + 1, phase := .running } := by
        simp [Group.ran, more]
      rw [next]
      exact ⟨.inl rfl, Phase.noConfusion, fun _ => more, short, by simp, by simp, by simp [alone]⟩
    · have next : group.ran repeats 0 =
          { group with done := group.done + 1, phase := .ended 0 } := by
        simp [Group.ran, more]
      have all : group.done + 1 = repeats := by omega
      rw [next]
      refine ⟨.inl rfl, Phase.noConfusion, Phase.noConfusion, short, fun _ => all, ?_,
        by simp [alone]⟩
      rintro status fails (ended | reaped) _
      · exact absurd (Phase.ended.inj ended).symm fails
      · exact Phase.noConfusion reaped
  · have next : group.ran repeats status =
        { group with done := group.done + 1, phase := .ended status } := by
      simp [Group.ran, failed]
    rw [next]
    have unclean : succeeded task group.done ++ [⟨task, group.done, status⟩] ≠
        succeeded task (group.done + 1) := by
      intro same
      rw [succeeded_succ] at same
      simp [failed] at same
    exact ⟨.inr ⟨group.done, status, failed, rfl, rfl, .inl rfl⟩, Phase.noConfusion,
      Phase.noConfusion, short, by simp [failed], fun _ _ same => absurd same unclean,
      by simp [alone]⟩

/-- The script waits for a subshell which has ended. -/
theorem reap (logged : Logged repeats task group log) {status : ℕ}
    (ended : group.phase = .ended status) :
    Logged repeats task { group with phase := .reaped status } log where
  calls := by
    rcases logged.calls with clean | ⟨rounds, failure, fails, counted, log_eq, phase⟩
    · exact .inl clean
    · have same : failure = status := by simpa [ended, eq_comm] using phase
      exact .inr ⟨rounds, failure, fails, counted, log_eq, .inr (by rw [same])⟩
  unborn := Phase.noConfusion
  running := Phase.noConfusion
  bound := logged.bound
  whole phase := by
    have zero : status = 0 := by simpa using phase
    exact logged.whole (.inl (by rw [ended, zero]))
  failed {failure} fails phase := by
    have same : status = failure := by simpa using phase
    exact logged.failed fails (.inl (by rw [ended, same]))
  orphan left := by
    obtain ⟨failure, fails, phase⟩ := logged.orphan left
    have same : failure = status := by simpa [ended, eq_comm] using phase
    exact ⟨failure, fails, .inr (by rw [same])⟩

theorem fork (logged : Logged repeats task group log) (some_round : 1 ≤ repeats)
    (unborn : group.phase = .unborn) : Logged repeats task ⟨.running, 0, false⟩ log where
  calls := by
    have none_done := logged.unborn unborn
    rcases logged.calls with clean | ⟨rounds, _, _, counted, _⟩
    · rw [none_done] at clean
      exact .inl clean
    · omega
  unborn := Phase.noConfusion
  running _ := some_round
  bound := Nat.zero_le _
  whole := by simp
  failed := by simp
  orphan := Bool.noConfusion

theorem abandon (logged : Logged repeats task group log) :
    Logged repeats task { group with orphan := false } log :=
  ⟨logged.calls, logged.unborn, logged.running, logged.bound, logged.whole, logged.failed,
    Bool.noConfusion⟩

theorem step (logged : Logged repeats task group log) (some_round : 1 ≤ repeats)
    (step : GroupStep repeats task group calls next) :
    Logged repeats task next (log ++ calls) := by
  cases step with
  | keep => simpa using logged
  | fork unborn => simpa using logged.fork some_round unborn
  | kill runs => simpa using logged.ended runs (by decide) true
  | reap ended => simpa using logged.reap ended
  | ran runs status => exact logged.ran runs status
  | stop runs fails => simpa using logged.ended runs fails group.orphan
  | abandon => simpa using logged.abandon

end Logged

/-- Every subshell has its log. -/
def AllLogged (args : Args) (state : State) : Prop :=
  ∀ task, Logged args.repeatCount.value task (state.group task)
    (state.calls.filter (·.task = task))

theorem allLogged_reachable (reachable : (batch args).Reachable state) : AllLogged args state := by
  have both : Forked args state ∧ AllLogged args state := by
    refine reachable.invariant (fun state => Forked args state ∧ AllLogged args state) ?_ ?_
    · rintro _ rfl
      exact ⟨forked_initial args, fun task => Logged.fresh _ task⟩
    · rintro before label after ⟨forked, logged⟩ step
      refine ⟨forked_step forked step, fun task => ?_⟩
      obtain ⟨calls, own⟩ := exists_stepOf forked step task
      rw [own.log]
      exact (logged task).step args.repeatCount.positive own.group
  exact both.2

/-- The calls of a task are its rounds in order, and all of them succeed except perhaps the last. -/
theorem calls_in_order (reachable : (batch args).Reachable state) (task : ℕ) :
    ∃ rounds ≤ args.repeatCount.value,
      state.calls.filter (·.task = task) = succeeded task rounds ∨
        rounds < args.repeatCount.value ∧ ∃ status, status ≠ 0 ∧
          state.calls.filter (·.task = task) =
            succeeded task rounds ++ [⟨task, rounds, status⟩] := by
  have logged := allLogged_reachable reachable task
  have bound := logged.bound
  rcases logged.calls with clean | ⟨rounds, status, fails, counted, log, _⟩
  · exact ⟨_, bound, .inl clean⟩
  · exact ⟨rounds, by omega, .inr ⟨by omega, status, fails, log⟩⟩

theorem calls_in_order_sample : ∃ rounds ≤ 2,
    sampleEnd.calls.filter (·.task = 1) = succeeded 1 rounds ∨
      rounds < 2 ∧ ∃ status, status ≠ 0 ∧
        sampleEnd.calls.filter (·.task = 1) = succeeded 1 rounds ++ [⟨1, rounds, status⟩] :=
  calls_in_order sample_run.reachable 1

end Batch
end HermOS
