import HermOS.Batch.Capacity
import Mathlib.Algebra.Order.BigOperators.Group.Finset
import Mathlib.Tactic.Ring

/-!
# Batches end

A rank falls at every step but those of signals.  It counts the calls which may still be made, and
the steps which the loops of the script have still to take.
-/

namespace HermOS
namespace Batch

def Label.isSignal : Label → Bool
  | .signal _ => true
  | _ => false

/-- The batch from now on without signals. -/
def unsignalled (args : Args) : TransitionSystem State Label :=
  (batch args).restrict fun _ label => label.isSignal = false

/-- Steps which the script has still to take. -/
def Pc.rank (tasks active : ℕ) : Pc → ℕ
  | .launching index => 5 * (tasks - index) + 2 * active + 2
  | .forked index => 5 * (tasks - index) + 2 * active + 4
  | .waiting (some index) => 5 * (tasks - index) + 2 * active + 3
  | .waiting none => 2 * active
  | .draining => 2 * active + 1
  | .exited _ => 0

/-- Steps which a subshell has still to take. -/
def Phase.rank (repeats done : ℕ) : Phase → ℕ
  | .unborn => repeats + 1
  | .running => repeats - done + 1
  | .ended _ | .reaped _ => 0

/-- Steps which a subshell and its calls have still to take. -/
def Group.rank (repeats : ℕ) (group : Group) : ℕ :=
  group.phase.rank repeats group.done + group.orphan.toNat

def State.rank (args : Args) (state : State) : ℕ :=
  state.pc.rank args.tasks.length state.active +
    ∑ task ∈ Finset.range args.tasks.length, (state.group task).rank args.repeatCount.value

variable {args : Args} {state before after : State} {label : Label} {trace : List Label}

/-! ### Subshells -/

theorem rank_running {repeats : ℕ} {group : Group} (runs : group.phase = .running) :
    group.rank repeats = repeats - group.done + 1 + group.orphan.toNat := by
  rw [Group.rank, runs, Phase.rank]

theorem rank_ended {repeats status : ℕ} {group : Group} (ended : group.phase = .ended status) :
    group.rank repeats = group.orphan.toNat := by
  rw [Group.rank, ended, Phase.rank, Nat.zero_add]

theorem rank_ran {repeats : ℕ} (status : ℕ) {group : Group} (runs : group.phase = .running)
    (more : group.done < repeats) :
    (group.ran repeats status).rank repeats < group.rank repeats := by
  have orphan : (group.ran repeats status).orphan = group.orphan := rfl
  have done : (group.ran repeats status).done = group.done + 1 := rfl
  have fewer := Nat.sub_succ_lt_self repeats group.done more
  rw [rank_running runs]
  rcases phase_ran repeats status group with ⟨running, _⟩ | ⟨found, ended⟩
  · rw [rank_running running, orphan, done]
    omega
  · rw [rank_ended ended, orphan]
    omega

/-- No step raises the rank of a subshell. -/
theorem rank_groupStep {repeats task : ℕ} {group next : Group} {log calls : List Call}
    (logged : Logged repeats task group log) (step : GroupStep repeats task group calls next) :
    next.rank repeats ≤ group.rank repeats := by
  cases step with
  | keep => exact le_rfl
  | fork unborn => simp [Group.rank, Phase.rank, unborn]
  | kill runs =>
      have alone := logged.not_orphan_running runs
      simp [Group.rank, Phase.rank, runs, alone]
  | reap ended => simp [Group.rank, Phase.rank, ended]
  | ran runs status => exact (rank_ran status runs (logged.running runs)).le
  | stop runs => simp [Group.rank, Phase.rank]
  | abandon => simp [Group.rank]

/-! ### The script -/

/-- The subshells of all tasks together. -/
def groupsRank (args : Args) (state : State) : ℕ :=
  ∑ task ∈ Finset.range args.tasks.length, (state.group task).rank args.repeatCount.value

theorem groupsRank_step (forked : Forked args before) (logged : AllLogged args before)
    (step : (batch args).Step before label after) :
    groupsRank args after ≤ groupsRank args before := by
  refine Finset.sum_le_sum fun task _ => ?_
  obtain ⟨calls, own⟩ := exists_stepOf forked step task
  exact rank_groupStep (logged task) own.group

/-- A step of one subshell lowers the sum. -/
theorem groupsRank_lt (forked : Forked args before) (logged : AllLogged args before)
    (step : (batch args).Step before label after) {task : ℕ}
    (born : (before.group task).phase ≠ .unborn)
    (falls : (after.group task).rank args.repeatCount.value <
      (before.group task).rank args.repeatCount.value) :
    groupsRank args after < groupsRank args before := by
  have inside : task ∈ Finset.range args.tasks.length := Finset.mem_range.mpr (forked.lt born)
  refine Finset.sum_lt_sum (fun other _ => ?_) ⟨task, inside, falls⟩
  obtain ⟨calls, own⟩ := exists_stepOf forked step other
  exact rank_groupStep (logged other) own.group

/-- A step of the script lowers its own rank, and any other step but a signal that of a subshell. -/
theorem rank_step (reachable : (batch args).Reachable before)
    (step : (unsignalled args).Step before label after) : after.rank args < before.rank args := by
  obtain ⟨step, unsignalled⟩ := step
  have forked := Forked.reachable reachable
  have logged := allLogged_reachable reachable
  have capacity := capacity_reachable reachable
  have groups := groupsRank_step forked logged step
  have script : after.pc.rank args.tasks.length after.active <
      before.pc.rank args.tasks.length before.active → after.rank args < before.rank args :=
    fun falls => Nat.add_lt_add_of_lt_of_le falls groups
  have subshell : after.pc = before.pc → after.active = before.active →
      groupsRank args after < groupsRank args before → after.rank args < before.rank args := by
    intro same_pc same_active falls
    unfold State.rank
    rw [same_pc, same_active]
    exact Nat.add_lt_add_left falls _
  cases step with
  | launch at_head more =>
      refine script ?_
      simp only [State.launch, State.setGroup, at_head, Pc.rank]
      omega
  | full at_check | room at_check =>
      refine script ?_
      simp only [at_check, Pc.rank]
      omega
  | leave at_head =>
      refine script ?_
      simp only [at_head, Pc.rank]
      omega
  | await at_head =>
      refine script ?_
      simp only [at_head, Pc.rank]
      omega
  | @reap back _ _ waits =>
      have positive := capacity.waits back waits
      refine script ?_
      cases back <;> simp only [State.waitedFor, State.setGroup, Pc.returned, waits, Pc.rank] <;>
        omega
  | conclude at_head =>
      refine script ?_
      have exited : before.conclude.pc.rank args.tasks.length before.conclude.active = 0 := by
        unfold State.conclude
        split <;> rfl
      rw [exited, at_head, Pc.rank]
      omega
  | @ran task status runs =>
      have born : (before.group task).phase ≠ .unborn := by simp [runs]
      refine subshell rfl rfl (groupsRank_lt forked logged (.ran runs) born ?_)
      rw [State.ran_group, Function.update_self]
      exact rank_ran status runs ((logged task).running runs)
  | @stopped task _ runs fails =>
      have born : (before.group task).phase ≠ .unborn := by simp [runs]
      refine subshell rfl rfl (groupsRank_lt forked logged (.stopped runs fails) born ?_)
      rw [State.setGroup_group, Function.update_self, rank_running runs]
      simp [Group.rank, Phase.rank]
  | @abandoned task left =>
      have born : (before.group task).phase ≠ .unborn := by
        obtain ⟨_, _, ended | reaped⟩ := (logged task).orphan left
        · simp [ended]
        · simp [reaped]
      refine subshell rfl rfl (groupsRank_lt forked logged (.abandoned left) born ?_)
      rw [State.setGroup_group, Function.update_self]
      simp [Group.rank, left]
  | interrupt | trap => exact Bool.noConfusion unsignalled

theorem rank_le (capacity : Capacity args state) :
    state.rank args ≤ args.tasks.length * (args.repeatCount.value + 9) + 4 := by
  have active : state.active ≤ args.tasks.length :=
    capacity.active_le.trans (Nat.count_le _)
  have script : state.pc.rank args.tasks.length state.active ≤ 7 * args.tasks.length + 4 := by
    cases state.pc with
    | waiting back => cases back <;> simp only [Pc.rank] <;> omega
    | launching | forked | draining | exited => simp only [Pc.rank]; omega
  have groups : groupsRank args state ≤
      ∑ _task ∈ Finset.range args.tasks.length, (args.repeatCount.value + 2) := by
    refine Finset.sum_le_sum fun task _ => ?_
    have flag := Bool.toNat_le (state.group task).orphan
    have phase : (state.group task).phase.rank args.repeatCount.value (state.group task).done ≤
        args.repeatCount.value + 1 := by
      cases (state.group task).phase <;> simp only [Phase.rank] <;> omega
    unfold Group.rank
    omega
  rw [Finset.sum_const_nat fun _ _ => rfl, Finset.card_range] at groups
  have sum : state.rank args =
      state.pc.rank args.tasks.length state.active + groupsRank args state :=
    rfl
  rw [sum]
  calc
    _ ≤ 7 * args.tasks.length + 4 + args.tasks.length * (args.repeatCount.value + 2) :=
      Nat.add_le_add script groups
    _ = args.tasks.length * (args.repeatCount.value + 9) + 4 := by ring

/-! ### Ends -/

/-- Until the script has ended, the script or a subshell can go on. -/
theorem enabled_of_live (reachable : (batch args).Reachable state)
    (live : ∀ code, state.pc ≠ .exited code) : (unsignalled args).Enabled state := by
  have capacity := capacity_reachable reachable
  cases at_pc : state.pc with
  | launching index =>
      by_cases decided : args.tasks.length ≤ index ∨ state.failures ≠ 0
      · exact ⟨_, _, .leave at_pc decided, rfl⟩
      · obtain ⟨more, well⟩ := not_or.mp decided
        exact ⟨_, _, .launch at_pc (not_le.mp more) (not_not.mp well), rfl⟩
  | forked index =>
      rcases Nat.lt_or_ge state.active args.jobs.value with room | full
      · exact ⟨_, _, .room at_pc room, rfl⟩
      · exact ⟨_, _, .full at_pc full, rfl⟩
  | waiting back =>
      have some_job := (capacity.waits back at_pc).trans_le capacity.active_le
      obtain ⟨task, _, job⟩ := Counting.exists_raised some_job
      rcases isJob_eq_true.mp job with running | ⟨status, ended⟩
      · exact ⟨.ran task 0, _, .ran running, rfl⟩
      · exact ⟨_, _, .reap at_pc ended, rfl⟩
  | draining =>
      rcases Nat.eq_zero_or_pos state.active with none_left | some_left
      · exact ⟨_, _, .conclude at_pc none_left, rfl⟩
      · exact ⟨_, _, .await at_pc some_left, rfl⟩
  | exited code => exact absurd at_pc (live code)

/-- From any state of any run, also of one with signals, the batch takes so many steps at most until
the next signal, and it cannot stop before the script has ended. -/
theorem batch_ends (reachable : (batch args).Reachable before)
    (path : (unsignalled args).Path before trace after) :
    trace.length ≤ args.tasks.length * (args.repeatCount.value + 9) + 4 ∧
      ((∃ code, after.pc = .exited code) ∨ (unsignalled args).Enabled after) := by
  have closed : ∀ {before label after}, (batch args).Reachable before →
      (unsignalled args).Step before label after → (batch args).Reachable after :=
    fun earlier step => earlier.step step.1
  have bound := path.length_add_le (batch args).Reachable (State.rank args) closed rank_step
    reachable
  have start := rank_le (capacity_reachable reachable)
  refine ⟨by omega, ?_⟩
  by_cases ended : ∃ code, after.pc = .exited code
  · exact .inl ended
  · have later := path.invariant (batch args).Reachable closed reachable
    exact .inr (enabled_of_live later fun code done => ended ⟨code, done⟩)

theorem batch_ends_sample : [Label.check].length ≤ 3 * (2 + 9) + 4 ∧
    ((∃ code, sampleFull.pc = .exited code) ∨ (unsignalled sampleArgs).Enabled sampleFull) :=
  batch_ends sampleForked_reachable (.cons ⟨.full rfl le_rfl, rfl⟩ (.nil _))

end Batch
end HermOS
