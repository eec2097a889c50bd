import HermOS.Batch.GroupHistory
import HermOS.Library.Counting

/-!
# The jobs of a batch

`ACTIVE` is the number of subshells which have not been waited for, as long as no `wait` has failed,
and `JOBS` bounds it.  A signal may leave a call behind without its subshell.  The subshell is then
a failed job which takes its place until `wait` returns it, and after that nothing is forked.
-/

namespace HermOS
namespace Batch

open Counting (raised)

/-- Number of subshells which have not been waited for. -/
def jobCount (args : Args) (state : State) : ℕ :=
  raised (fun task => (state.group task).isJob) args.tasks.length

/-- Number of tasks with a call which may go on. -/
def busyCount (args : Args) (state : State) : ℕ :=
  raised (fun task => (state.group task).isBusy) args.tasks.length

/-- The counters of the script agree with its subshells. -/
structure Capacity (args : Args) (state : State) : Prop where
  sound : state.failures = 0 → ∀ task status,
    (state.group task).phase = .reaped status → status = 0
  counted : state.failures = 0 → state.active = jobCount args state
  active_le : state.active ≤ jobCount args state
  full : state.active ≤ args.jobs.value
  room : ∀ index, state.pc = .launching index → state.active < args.jobs.value
  busy : busyCount args state ≤ args.jobs.value
  waits : ∀ back, state.pc = .waiting back → 0 < state.active

variable {args : Args} {state before after : State} {label : Label}

/-! ### Counting subshells -/

theorem isJob_eq_true {group : Group} :
    group.isJob = true ↔ group.phase = .running ∨ ∃ status, group.phase = .ended status := by
  unfold Group.isJob
  split <;> simp_all

@[simp] theorem isJob_kill (group : Group) : group.kill.isJob = group.isJob := by
  unfold Group.kill
  split
  next running => simp [Group.isJob, running]
  next => rfl

@[simp] theorem isBusy_kill (group : Group) : group.kill.isBusy = group.isBusy := by
  unfold Group.kill
  split
  next running => simp [Group.isBusy, running]
  next => rfl

theorem isJob_ran (repeats status : ℕ) (group : Group) :
    (group.ran repeats status).isJob = true :=
  isJob_eq_true.mpr ((phase_ran repeats status group).imp_left And.left)

theorem jobCount_cleanupJobs (args : Args) (state : State) :
    jobCount args state.cleanupJobs = jobCount args state := by
  simp [jobCount, State.cleanupJobs]

theorem busyCount_cleanupJobs (args : Args) (state : State) :
    busyCount args state.cleanupJobs = busyCount args state := by
  simp [busyCount, State.cleanupJobs]

theorem Forked.lt (forked : Forked args state) {task : ℕ}
    (born : (state.group task).phase ≠ .unborn) : task < args.tasks.length := by
  obtain ⟨count, bound, unborn, _⟩ := forked
  have inside : ¬ count ≤ task := fun outside => born ((unborn task).mpr outside)
  omega

/-- As long as no failure has been seen, a call which may go on belongs to a job. -/
theorem busyCount_le_jobCount (capacity : Capacity args state) (logged : AllLogged args state)
    (well : state.failures = 0) : busyCount args state ≤ jobCount args state := by
  refine Counting.raised_mono fun task _ busy => isJob_eq_true.mpr ?_
  rcases Bool.or_eq_true_iff.mp busy with running | left
  · exact .inl (of_decide_eq_true running)
  · obtain ⟨status, fails, ended | reaped⟩ := (logged task).orphan left
    · exact .inr ⟨status, ended⟩
    · exact absurd (capacity.sound well task status reaped) fails

/-! ### Steps -/

namespace Capacity

/-- The script moves on without looking at its subshells. -/
theorem movePc (capacity : Capacity args state) {pc : Pc}
    (room : ∀ index, pc = .launching index → state.active < args.jobs.value)
    (waits : ∀ back, pc = .waiting back → 0 < state.active) :
    Capacity args { state with pc := pc } :=
  { capacity with room := room, waits := waits }

theorem cleanupJobs (capacity : Capacity args state) : Capacity args state.cleanupJobs where
  sound well task status reaped := by
    have phase : (state.group task).kill.phase = .reaped status := reaped
    rw [phase_kill] at phase
    split at phase
    · simp at phase
    · exact capacity.sound well task status phase
  counted well := (capacity.counted well).trans (jobCount_cleanupJobs args state).symm
  active_le := capacity.active_le.trans (jobCount_cleanupJobs args state).ge
  full := capacity.full
  room := capacity.room
  busy := (busyCount_cleanupJobs args state).le.trans capacity.busy
  waits := capacity.waits

/-- A subshell moves and stays a job. -/
theorem setGroup (capacity : Capacity args state) (task : ℕ) (group : Group)
    (job : group.isJob = (state.group task).isJob)
    (busy : group.isBusy = true → (state.group task).isBusy = true)
    (reaped : ∀ status, group.phase = .reaped status → (state.group task).phase = .reaped status) :
    Capacity args (state.setGroup task group) where
  sound well other status phase := by
    rw [State.setGroup_group] at phase
    rcases eq_or_ne other task with rfl | ne
    · rw [Function.update_self] at phase
      exact capacity.sound well other status (reaped status phase)
    · rw [Function.update_of_ne ne] at phase
      exact capacity.sound well other status phase
  counted well := (capacity.counted well).trans (Counting.raised_update Group.isJob job).symm
  active_le := capacity.active_le.trans (Counting.raised_update Group.isJob job).ge
  full := capacity.full
  room := capacity.room
  busy := by
    refine le_trans (Counting.raised_mono fun other _ going => ?_) capacity.busy
    rw [State.setGroup_group] at going
    rcases eq_or_ne other task with rfl | ne
    · rw [Function.update_self] at going
      exact busy going
    · rwa [Function.update_of_ne ne] at going
  waits := capacity.waits

/-- `wait -n` returns a status, and in a failed state there is nothing to count exactly. -/
theorem waitedFor (capacity : Capacity args state) {back : Option ℕ} (status : ℕ)
    (waits : state.pc = .waiting back) (fails : status ≠ 0) :
    Capacity args (state.waitedFor back status) where
  sound well := by simp [State.waitedFor, fails] at well
  counted well := by simp [State.waitedFor, fails] at well
  active_le := (Nat.sub_le _ _).trans capacity.active_le
  full := (Nat.sub_le _ _).trans capacity.full
  room _ _ := Nat.sub_one_lt_of_le (capacity.waits back waits) capacity.full
  busy := capacity.busy
  waits other returned := by cases back <;> simp [State.waitedFor, Pc.returned] at returned

theorem launch (capacity : Capacity args state) (logged : AllLogged args state) {index : ℕ}
    (at_head : state.pc = .launching index) (more : index < args.tasks.length)
    (well : state.failures = 0) (unborn : (state.group index).phase = .unborn) :
    Capacity args (state.launch index) := by
  have alone : (state.group index).orphan = false := by
    by_contra left
    obtain ⟨_, _, ended | reaped⟩ := (logged index).orphan (Bool.not_eq_false _ ▸ left)
    · simp [unborn] at ended
    · simp [unborn] at reaped
  have jobs : jobCount args (state.launch index) = jobCount args state + 1 := by
    refine Counting.raised_update_succ Group.isJob more ?_ rfl
    simp [Group.isJob, unborn]
  have calls : busyCount args (state.launch index) = busyCount args state + 1 := by
    refine Counting.raised_update_succ Group.isBusy more ?_ rfl
    simp [Group.isBusy, unborn, alone]
  have counted := capacity.counted well
  have room := capacity.room index at_head
  have inside := busyCount_le_jobCount capacity logged well
  constructor
  · intro _ task status phase
    rw [State.launch_group] at phase
    rcases eq_or_ne task index with rfl | ne
    · simp at phase
    · rw [Function.update_of_ne ne] at phase
      exact capacity.sound well task status phase
  · exact fun _ => by rw [jobs, ← counted]; rfl
  · rw [jobs, ← counted]
    exact le_rfl
  · exact room
  · exact fun _ => Pc.noConfusion
  · rw [calls]
    omega
  · exact fun _ => Pc.noConfusion

theorem reap (capacity : Capacity args state) (forked : Forked args state) {back : Option ℕ}
    {task status : ℕ} (waits : state.pc = .waiting back)
    (ended : (state.group task).phase = .ended status) :
    Capacity args ((state.setGroup task { state.group task with phase := .reaped status }).waitedFor
      back status) := by
  set reaped : Group := { state.group task with phase := .reaped status } with reaped_def
  have inside : task < args.tasks.length := forked.lt (by simp [ended])
  have jobs : jobCount args state = jobCount args (state.setGroup task reaped) + 1 := by
    refine Counting.raised_update_pred Group.isJob inside ?_ rfl
    simp [Group.isJob, ended]
  have positive := capacity.waits back waits
  have calls : busyCount args (state.setGroup task reaped) = busyCount args state := by
    refine Counting.raised_update Group.isBusy ?_
    simp [Group.isBusy, reaped_def, ended]
  have same_jobs : jobCount args ((state.setGroup task reaped).waitedFor back status) =
      jobCount args (state.setGroup task reaped) := rfl
  have active : ((state.setGroup task reaped).waitedFor back status).active = state.active - 1 :=
    rfl
  have counter : ((state.setGroup task reaped).waitedFor back status).failures = 0 →
      state.failures = 0 ∧ status = 0 := by
    unfold State.waitedFor
    dsimp only
    split
    next => exact fun none => absurd none (Nat.succ_ne_zero _)
    next zero => exact fun none => ⟨none, not_not.mp zero⟩
  have bound := capacity.active_le
  constructor
  · intro well other found phase
    obtain ⟨none, zero⟩ := counter well
    have moved : (Function.update state.group task reaped other).phase = .reaped found := phase
    rcases eq_or_ne other task with rfl | ne
    · rw [Function.update_self] at moved
      have same : status = found := by simpa [reaped_def] using moved
      exact same ▸ zero
    · rw [Function.update_of_ne ne] at moved
      exact capacity.sound none other found moved
  · intro well
    have counted := capacity.counted (counter well).1
    omega
  · omega
  · exact (Nat.sub_le _ _).trans capacity.full
  · exact fun _ _ => Nat.sub_one_lt_of_le positive capacity.full
  · exact calls.le.trans capacity.busy
  · intro other returned
    cases back <;> simp [State.waitedFor, Pc.returned] at returned

theorem initial (args : Args) : Capacity args (.initial args) := by
  have none_job : jobCount args (.initial args) = 0 :=
    Counting.raised_eq_zero fun _ _ => rfl
  have none_busy : busyCount args (.initial args) = 0 :=
    Counting.raised_eq_zero fun _ _ => rfl
  constructor
  · exact fun _ _ _ => Phase.noConfusion
  · exact fun _ => none_job.symm
  · exact Nat.zero_le _
  · exact Nat.zero_le _
  · exact fun _ _ => args.jobs.positive
  · exact none_busy.le.trans (Nat.zero_le _)
  · intro back waits
    unfold State.initial at waits
    dsimp only at waits
    split at waits <;> cases waits

theorem step (capacity : Capacity args before) (forked : Forked args before)
    (logged : AllLogged args before) (step : (batch args).Step before label after) :
    Capacity args after := by
  cases step with
  | launch at_head more well =>
      obtain ⟨count, _, unborn, at_pc⟩ := forked
      rw [at_head] at at_pc
      exact capacity.launch logged at_head more well ((unborn _).mpr at_pc.le)
  | full at_check full =>
      exact capacity.movePc (fun _ => Pc.noConfusion)
        fun _ _ => args.jobs.positive.trans full
  | room at_check room => exact capacity.movePc (fun _ _ => room) fun _ => Pc.noConfusion
  | leave => exact capacity.movePc (fun _ => Pc.noConfusion) fun _ => Pc.noConfusion
  | await at_head some_left => exact capacity.movePc (fun _ => Pc.noConfusion) fun _ _ => some_left
  | reap waits ended => exact capacity.reap forked waits ended
  | conclude =>
      unfold State.conclude
      split
      · exact capacity.cleanupJobs.movePc (fun _ => Pc.noConfusion) fun _ => Pc.noConfusion
      · exact capacity.movePc (fun _ => Pc.noConfusion) fun _ => Pc.noConfusion
  | @ran task status runs =>
      have moved := capacity.setGroup task ((before.group task).ran args.repeatCount.value status)
        (by simp [isJob_ran, isJob_eq_true.mpr (.inl runs)])
        (fun _ => by simp [Group.isBusy, runs])
        (fun found phase => by
          have job := isJob_ran args.repeatCount.value status (before.group task)
          simp [Group.isJob, phase] at job)
      exact ⟨moved.sound, moved.counted, moved.active_le, moved.full, moved.room, moved.busy,
        moved.waits⟩
  | stopped runs =>
      exact capacity.setGroup _ _ (by simp [Group.isJob, runs])
        (fun _ => by simp [Group.isBusy, runs])
        fun _ => Phase.noConfusion
  | abandoned left =>
      exact capacity.setGroup _ _ rfl (fun _ => by simp [Group.isBusy, left]) fun _ phase => phase
  | interrupt waits => exact capacity.cleanupJobs.waitedFor _ waits (by omega)
  | trap => exact capacity.cleanupJobs

end Capacity

/-- What holds of every reachable state. -/
theorem capacity_reachable (reachable : (batch args).Reachable state) : Capacity args state := by
  have all : (batch args).Reachable state ∧ Capacity args state := by
    obtain ⟨trace, initial, rfl, path⟩ := reachable
    refine path.invariant (fun state => (batch args).Reachable state ∧ Capacity args state) ?_ ?_
    · rintro before label after ⟨earlier, capacity⟩ step
      exact ⟨earlier.step step,
        capacity.step (Forked.reachable earlier) (allLogged_reachable earlier) step⟩
    · exact ⟨⟨[], _, rfl, .nil _⟩, .initial args⟩
  exact all.2

/-- At no moment more than `JOBS` tasks have a call which goes on, and calls whose subshells have
been killed are no exception. -/
theorem jobs_at_once (reachable : (batch args).Reachable state) (busy : Finset ℕ)
    (going : ∀ task ∈ busy, (state.group task).isBusy = true) :
    busy.card ≤ args.jobs.value := by
  have capacity := capacity_reachable reachable
  refine (Counting.card_le_raised (fun task member => ?_) going).trans capacity.busy
  refine (Forked.reachable reachable).lt fun unborn => ?_
  rcases Bool.or_eq_true_iff.mp (going task member) with running | left
  · exact Phase.noConfusion (unborn.symm.trans (of_decide_eq_true running))
  · obtain ⟨_, _, ended | reaped⟩ := (allLogged_reachable reachable task).orphan left
    · exact Phase.noConfusion (unborn.symm.trans ended)
    · exact Phase.noConfusion (unborn.symm.trans reaped)

/-- Two of three tasks have a call. -/
theorem jobs_at_once_sample : ({0, 1} : Finset ℕ).card ≤ 2 :=
  jobs_at_once sampleForked_reachable {0, 1} (by decide)

end Batch
end HermOS
