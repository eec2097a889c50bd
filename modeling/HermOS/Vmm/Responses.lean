import HermOS.Vmm.Agreement

/-!
# Responses which are left unread

A command which gives up leaves the responses of other vCPUs in their channels, and commands after
it read these first.  What a vCPU says is read in order, so its responses are late by as many events
ever after.  The exit code of the process is taken from responses which no command has read.
-/

namespace HermOS
namespace Vmm

open TransitionSystem

variable {Thread Saved Config Fault : Type} {threads : Threads Thread Saved Config Fault}
  {count : ℕ} {before middle after state : State Thread Saved Config Fault}
  {label : Label Saved Config Fault} {front back trace : List (Label Saved Config Fault)}

/-! ### What a step does to the channels of a vCPU -/

namespace Label

/-- The events which are sent to a vCPU. -/
def sentTo (index : ℕ) : Label Saved Config Fault → List VcpuEvent
  | .sent other event | .sendFailed other (some event) => if other = index then [event] else []
  | _ => []

/-- The events which a vCPU has handled. -/
def handledBy (index : ℕ) : Label Saved Config Fault → List VcpuEvent
  | .answered other event _ => if other = index then [event] else []
  | _ => []

/-- What a vCPU says. -/
def saidBy (index : ℕ) : Label Saved Config Fault → List (VcpuResponse Saved Config Fault)
  | .answered other _ response => if other = index then [response] else []
  | .exited other code => if other = index then [.exited code] else []
  | _ => []

/-- What the VMM reads from a vCPU. -/
def readFrom (index : ℕ) : Label Saved Config Fault → List (VcpuResponse Saved Config Fault)
  | .received other response | .refused other response | .drained other response =>
      if other = index then [response] else []
  | _ => []

end Label

@[simp]
theorem conclude_vcpu (command : Command) (got : List (VcpuResponse Saved Config Fault))
    (state : State Thread Saved Config Fault) : (command.conclude got state).vcpu = state.vcpu := by
  unfold Command.conclude
  split
  · rfl
  · rfl
  · rfl
  · split <;> rfl
  · rfl

theorem conclude_pc (command : Command) (got : List (VcpuResponse Saved Config Fault))
    (state : State Thread Saved Config Fault) :
    (∃ states, (command.conclude got state).pc = .savingVm states) ∨
      ∃ outcome, (command.conclude got state).pc = .returning outcome := by
  unfold Command.conclude
  split
  · exact .inr ⟨_, rfl⟩
  · exact .inr ⟨_, rfl⟩
  · exact .inr ⟨_, rfl⟩
  · split
    · exact .inl ⟨_, rfl⟩
    · exact .inr ⟨_, rfl⟩
  · exact .inr ⟨_, rfl⟩

/-- Events are handled in the order in which they were sent. -/
theorem events_ordered (threads : Threads Thread Saved Config Fault) (count index : ℕ) :
    (vmm threads count).FirstInFirstOut (Label.sentTo index) (Label.handledBy index)
      fun state => (state.vcpu index).events := by
  intro before label after step
  cases step with
  | @sent command next sending more | @unsignalled command next sending more =>
      by_cases same : next = index
      · subst same
        simp [Label.sentTo, Label.handledBy, State.send]
      · simp [Label.sentTo, Label.handledBy, State.send, same, Function.update_of_ne (Ne.symm same)]
  | received | refused | drained =>
      simp only [Label.sentTo, Label.handledBy, State.takeResponse, State.goTo_vcpu,
        State.setVcpu_vcpu, Function.update_apply, List.append_nil, List.nil_append]
      split <;> simp_all
  | @answered other event rest below waiting =>
      by_cases same : other = index
      · subst same
        simp [Label.sentTo, Label.handledBy, waiting]
      · simp [Label.sentTo, Label.handledBy, same, Function.update_of_ne (Ne.symm same)]
  | ran | exited =>
      simp only [Label.sentTo, Label.handledBy, State.setVcpu_vcpu, Function.update_apply,
        List.append_nil, List.nil_append]
      split <;> simp_all
  | called | kicked | devicesSaved | lost | allSent | timedOut | allReceived | vmSaved | returned
  | exitEvent | exhausted | allDrained => simp [Label.sentTo, Label.handledBy]

/-- Responses are read in the order in which they were given. -/
theorem responses_ordered (threads : Threads Thread Saved Config Fault) (count index : ℕ) :
    (vmm threads count).FirstInFirstOut (Label.saidBy index) (Label.readFrom index)
      fun state => (state.vcpu index).responses := by
  intro before label after step
  cases step with
  | @received command got response rest receiving more waiting
  | @refused command got response rest receiving more waiting =>
      by_cases same : got.length = index
      · subst same
        simp [Label.saidBy, Label.readFrom, State.takeResponse, waiting]
      · simp [Label.saidBy, Label.readFrom, State.takeResponse, same,
          Function.update_of_ne (Ne.symm same)]
  | @drained next response rest exiting more waiting =>
      by_cases same : next = index
      · subst same
        simp [Label.saidBy, Label.readFrom, State.takeResponse, waiting]
      · simp [Label.saidBy, Label.readFrom, State.takeResponse, same,
          Function.update_of_ne (Ne.symm same)]
  | @answered other event rest below waiting =>
      by_cases same : other = index
      · subst same
        simp [Label.saidBy, Label.readFrom]
      · simp [Label.saidBy, Label.readFrom, same, Function.update_of_ne (Ne.symm same)]
  | @exited other code later below running ended =>
      by_cases same : other = index
      · subst same
        simp [Label.saidBy, Label.readFrom]
      · simp [Label.saidBy, Label.readFrom, same, Function.update_of_ne (Ne.symm same)]
  | sent | unsignalled | ran =>
      simp only [Label.saidBy, Label.readFrom, State.send, State.goTo_vcpu, State.setVcpu_vcpu,
        Function.update_apply, List.append_nil, List.nil_append]
      split <;> simp_all
  | called | kicked | devicesSaved | lost | allSent | timedOut | allReceived | vmSaved | returned
  | exitEvent | exhausted | allDrained => simp [Label.saidBy, Label.readFrom]

theorem channels_empty (initial : (vmm threads count).Initial state) (index : ℕ) :
    (state.vcpu index).events = [] ∧ (state.vcpu index).responses = [] :=
  ⟨(initial.2.2 index).1, (initial.2.2 index).2.1⟩

theorem sent_eq (run : (vmm threads count).Run trace state) (index : ℕ) :
    trace.flatMap (Label.sentTo index) =
      trace.flatMap (Label.handledBy index) ++ (state.vcpu index).events :=
  FirstInFirstOut.run (events_ordered threads count index)
    (fun _ initial => (channels_empty initial index).1) run

theorem said_eq (run : (vmm threads count).Run trace state) (index : ℕ) :
    trace.flatMap (Label.saidBy index) =
      trace.flatMap (Label.readFrom index) ++ (state.vcpu index).responses :=
  FirstInFirstOut.run (responses_ordered threads count index)
    (fun _ initial => (channels_empty initial index).2) run

/-! ### Answers of a vCPU which has not exited -/

/-- The events which a vCPU has handled, with its answers. -/
def Label.answersOf (index : ℕ) :
    Label Saved Config Fault → List (VcpuEvent × VcpuResponse Saved Config Fault)
  | .answered other event response => if other = index then [(event, response)] else []
  | _ => []

theorem handled_eq (index : ℕ) (trace : List (Label Saved Config Fault)) :
    trace.flatMap (Label.handledBy index) =
      (trace.flatMap (Label.answersOf index)).map Prod.fst := by
  rw [List.map_flatMap]
  refine List.flatMap_congr fun label _ => ?_
  cases label with
  | answered other event response =>
      simp only [Label.handledBy, Label.answersOf]
      split <;> rfl
  | _ => rfl

/-- No thread comes back after it has exited. -/
theorem live_of_step (honest : threads.Honest) (step : Step threads count before label after)
    {index : ℕ} (live : threads.Live (after.vcpu index).thread) :
    threads.Live (before.vcpu index).thread := by
  intro dead
  obtain ⟨code, exited⟩ := dead
  refine live ⟨code, ?_⟩
  cases step with
  | called | kicked | devicesSaved | lost | allSent | timedOut | allReceived | vmSaved | returned
  | exitEvent | exhausted | allDrained => simpa using exited
  | sent | unsignalled | received | refused | drained =>
      simp only [State.send, State.takeResponse, State.goTo_vcpu, State.setVcpu_vcpu,
        Function.update_apply]
      split <;> simp_all
  | @answered other event rest below waiting =>
      by_cases same : index = other
      · subst same
        simpa [handle_exited honest exited event] using exited
      · simpa [Function.update_of_ne same] using exited
  | @ran other later below running still | @exited other _ later below running ended =>
      by_cases same : index = other
      · subst same
        exact Mode.noConfusion (running.symm.trans exited)
      · simpa [Function.update_of_ne same] using exited

/-- A vCPU which has not exited has said only what it was asked. -/
theorem said_of_live (honest : threads.Honest) {index : ℕ}
    (path : (vmm threads count).Path before trace after)
    (live : threads.Live (after.vcpu index).thread) :
    trace.flatMap (Label.saidBy index) =
        (trace.flatMap (Label.answersOf index)).map Prod.snd ∧
      threads.Live (before.vcpu index).thread := by
  induction path with
  | nil => exact ⟨rfl, live⟩
  | @cons before middle after label trace step _ ih =>
      obtain ⟨said, still⟩ := ih live
      refine ⟨?_, live_of_step honest step still⟩
      rw [List.flatMap_cons, List.flatMap_cons, List.map_append, said]
      congr 1
      cases step with
      | answered =>
          simp only [Label.saidBy, Label.answersOf]
          split <;> rfl
      | @exited other code later below running ended =>
          have ne : other ≠ index := by
            rintro rfl
            refine still ⟨code, ?_⟩
            simpa using ended
          simp [Label.saidBy, Label.answersOf, ne]
      | _ => rfl

/-! ### Late responses -/

/-- Messages in the channels of a vCPU. -/
def Handle.unread (handle : Handle Thread Saved Config Fault) : ℕ :=
  handle.events.length + handle.responses.length

/-- Whether the running command has sent its event to the vCPU and not read the response. -/
def Pc.outstanding (index : ℕ) : Pc Saved Config Fault → ℕ
  | .sending _ next => if index < next then 1 else 0
  | .receiving _ got => if got.length ≤ index then 1 else 0
  | _ => 0

/-- The VMM has been told to stop. -/
def Pc.ends : Pc Saved Config Fault → Bool
  | .exiting _ | .stopped _ => true
  | _ => false

/-- What lay unread between two commands still does, besides what the running command has asked. -/
def Owes (index unread : ℕ) (state : State Thread Saved Config Fault) : Prop :=
  state.pc.ends = true ∨ unread + state.pc.outstanding index ≤ (state.vcpu index).unread

theorem Owes.most {index unread : ℕ} (owes : Owes index unread before)
    {pc : Pc Saved Config Fault} (at_pc : before.pc = pc) (goes_on : pc.ends = false) :
    unread + pc.outstanding index ≤ (before.vcpu index).unread := by
  subst at_pc
  exact owes.resolve_left (Bool.eq_false_iff.mp goes_on)

/-- The VMM moves on and leaves the channels of the vCPU alone. -/
theorem Owes.goTo {index unread : ℕ} (owes : Owes index unread before)
    {pc later : Pc Saved Config Fault} (at_pc : before.pc = pc) (goes_on : pc.ends = false)
    (fewer : later.outstanding index ≤ pc.outstanding index) :
    Owes index unread (before.goTo later) := by
  have most := owes.most at_pc goes_on
  exact .inr (by simpa using by omega)

/-- A thread does something. -/
theorem Owes.setVcpu {index other unread : ℕ} (owes : Owes index unread before)
    {handle : Handle Thread Saved Config Fault}
    (more : (before.vcpu other).unread ≤ handle.unread) :
    Owes index unread (before.setVcpu other handle) := by
  refine owes.imp_right fun most => Nat.le_trans most ?_
  rw [State.setVcpu_vcpu]
  rcases eq_or_ne index other with rfl | ne
  · rwa [Function.update_self]
  · exact Nat.le_of_eq (by rw [Function.update_of_ne ne])

theorem owes_step {index unread : ℕ} (below : index < count) (owes : Owes index unread before)
    (step : Step threads count before label after) : Owes index unread after := by
  cases step with
  | called command idle =>
      refine owes.goTo idle rfl ?_
      cases command <;> simp [Command.start, Pc.outstanding]
  | kicked at_pc | devicesSaved at_pc => exact owes.goTo at_pc rfl (by simp [Pc.outstanding])
  | lost at_pc | timedOut at_pc | vmSaved _ at_pc | returned at_pc =>
      exact owes.goTo at_pc rfl (Nat.zero_le _)
  | exitEvent => exact .inl rfl
  | exhausted | allDrained => exact .inl rfl
  | allSent sending =>
      refine owes.goTo sending rfl ?_
      simp [Pc.outstanding, below]
  | @allReceived command got receiving all =>
      have most := owes.most receiving rfl
      have idle : (command.conclude got before).pc.outstanding index = 0 := by
        rcases conclude_pc command got before with ⟨states, pc⟩ | ⟨outcome, pc⟩ <;> rw [pc] <;> rfl
      refine .inr ?_
      rw [idle, conclude_vcpu]
      omega
  | @sent command next sending more =>
      have most := owes.most sending rfl
      refine .inr ?_
      by_cases same : index = next
      · subst same
        simp [Pc.outstanding, Handle.unread, State.send] at most ⊢
        omega
      · have still : index < next + 1 ↔ index < next := by omega
        simpa [Pc.outstanding, State.send, Function.update_of_ne same, still] using most
  | @unsignalled command next sending more =>
      have most := owes.most sending rfl
      refine .inr ?_
      by_cases same : index = next
      · subst same
        simp [Pc.outstanding, Handle.unread, State.send] at most ⊢
        omega
      · simp [Pc.outstanding, State.send, Function.update_of_ne same] at most ⊢
        omega
  | @received command got response rest receiving more waiting =>
      have most := owes.most receiving rfl
      refine .inr ?_
      by_cases same : index = got.length
      · subst same
        have past : ¬ got.length + 1 ≤ got.length := Nat.not_succ_le_self _
        simp [Pc.outstanding, Handle.unread, State.takeResponse, waiting, past] at most ⊢
        omega
      · have still : got.length + 1 ≤ index ↔ got.length ≤ index := by omega
        simpa [Pc.outstanding, State.takeResponse, Function.update_of_ne same, still] using most
  | @refused command got response rest receiving more waiting =>
      have most := owes.most receiving rfl
      refine .inr ?_
      by_cases same : index = got.length
      · subst same
        simp [Pc.outstanding, Handle.unread, State.takeResponse, waiting] at most ⊢
        omega
      · simp [Pc.outstanding, State.takeResponse, Function.update_of_ne same] at most ⊢
        omega
  | @drained next response rest exiting =>
      refine .inl ?_
      cases response with
      | exited code => cases code <;> rfl
      | _ => rfl
  | @answered other event rest _ waiting =>
      refine owes.setVcpu ?_
      simp [Handle.unread, waiting]
      omega
  | ran => exact owes.setVcpu (Nat.le_refl _)
  | exited =>
      refine owes.setVcpu ?_
      simp [Handle.unread]

theorem owes_path {index unread : ℕ} (below : index < count) (owes : Owes index unread before)
    (path : (vmm threads count).Path before trace after) : Owes index unread after :=
  path.invariant (Owes index unread) (fun owes step => owes_step below owes step) owes

/-- A pause has timed out. -/
def sampleLate : State Mode ℕ Unit Unit :=
  (sampleStart.send 0 .pause).goTo .idle

/-- An error. -/
def Outcome.failed : Outcome Saved Config Fault → Bool
  | .told well => !well
  | .saved (.ok _) | .dumped (.ok _) => false
  | .saved (.error _) | .dumped (.error _) => true

/-- A command has read the exit code of a vCPU. -/
def ReadsExit (trace : List (Label Saved Config Fault)) : Prop :=
  ∃ index code, .received index (.exited code) ∈ trace ∨ .refused index (.exited code) ∈ trace

/-- The running command will return an error. -/
def Pc.Fails : Pc Saved Config Fault → Prop
  | .receiving command got =>
      ∃ code, .exited code ∈ got ∧
        command.accepts (.exited code : VcpuResponse Saved Config Fault) = true
  | .returning outcome => outcome.failed = true
  | _ => False

/-- A command which reads an exit code fails. -/
def Reports (trace : List (Label Saved Config Fault)) (state : State Thread Saved Config Fault) :
    Prop :=
  ReadsExit trace → (∃ outcome, .returned outcome ∈ trace ∧ outcome.failed = true) ∨ state.pc.Fails

theorem failed_timeout (command : Command) :
    (command.timeout : Outcome Saved Config Fault).failed = true := by
  cases command <;> rfl

theorem fails_conclude {command : Command} {got : List (VcpuResponse Saved Config Fault)}
    (fails : (.receiving command got : Pc Saved Config Fault).Fails) :
    (command.conclude got state).pc.Fails := by
  obtain ⟨code, inside, accepted⟩ := fails
  cases command with
  | resumeVm | resumeVcpusAfterKick | pauseVm => cases accepted
  | saveState =>
      unfold Command.conclude
      cases read : got.mapM savedOf with
      | error error => rfl
      | ok states =>
          obtain ⟨state, saved⟩ := (FallibleFold.returns_of_mapM read).1 _ inside
          cases saved
  | dumpCpuConfig =>
      unfold Command.conclude
      cases read : got.mapM dumpedOf with
      | error error => rfl
      | ok configs =>
          obtain ⟨config, dumped⟩ := (FallibleFold.returns_of_mapM read).1 _ inside
          cases dumped

theorem fails_step (fails : before.pc.Fails) (step : Step threads count before label after) :
    after.pc.Fails ∨ ∃ outcome, label = .returned outcome ∧ outcome.failed = true := by
  cases step with
  | called _ at_pc | kicked at_pc | devicesSaved at_pc | sent at_pc | lost at_pc | unsignalled at_pc
  | allSent at_pc | vmSaved _ at_pc | exitEvent at_pc | drained at_pc | exhausted at_pc
  | allDrained at_pc =>
      rw [at_pc] at fails
      exact fails.elim
  | @received command got response rest receiving more waiting accepted =>
      rw [receiving] at fails
      obtain ⟨code, inside, reads⟩ := fails
      exact .inl ⟨code, List.mem_append_left _ inside, reads⟩
  | refused => exact .inl rfl
  | @timedOut command => exact .inl (failed_timeout command)
  | allReceived receiving =>
      rw [receiving] at fails
      exact .inl (fails_conclude fails)
  | @returned outcome returning =>
      rw [returning] at fails
      exact .inr ⟨outcome, rfl, fails⟩
  | answered | ran | exited => exact .inl fails

theorem reports_step (reports : Reports trace before)
    (step : Step threads count before label after) : Reports (trace ++ [label]) after := by
  rintro ⟨index, code, reads⟩
  simp only [List.mem_append, List.mem_singleton] at reads ⊢
  by_cases earlier : ReadsExit trace
  · rcases reports earlier with ⟨outcome, inside, failed⟩ | fails
    · exact .inl ⟨outcome, .inl inside, failed⟩
    · rcases fails_step fails step with later | ⟨outcome, returned, failed⟩
      · exact .inr later
      · exact .inl ⟨outcome, .inr returned.symm, failed⟩
  · have now : label = .received index (.exited code) ∨ label = .refused index (.exited code) := by
      rcases reads with (before | now) | before | now
      · exact absurd ⟨index, code, .inl before⟩ earlier
      · exact .inl now.symm
      · exact absurd ⟨index, code, .inr before⟩ earlier
      · exact .inr now.symm
    refine .inr ?_
    rcases now with rfl | rfl
    · cases step with
      | received receiving more waiting accepted =>
          exact ⟨code, List.mem_append_right _ List.mem_cons_self, accepted⟩
    · cases step with
      | refused => rfl

/-! ### The exit event -/

theorem afterDrained_cases (next : ℕ) (response : VcpuResponse Saved Config Fault) :
    afterDrained next response = .exiting next ∧ (∀ code ≠ .ok, response ≠ .exited code) ∨
      ∃ code ≠ .ok, response = .exited code ∧ afterDrained next response = .stopped code := by
  cases response with
  | exited code =>
      cases code with
      | ok => exact .inl ⟨rfl, fun code error same => error (VcpuResponse.exited.inj same).symm⟩
      | _ => exact .inr ⟨_, FcExitCode.noConfusion, rfl, rfl⟩
  | _ => exact .inl ⟨rfl, fun _ _ same => by cases same⟩

/-- The VMM does not come back from the exit event. -/
theorem ends_step (ends : before.pc.ends = true) (step : Step threads count before label after) :
    after.pc.ends = true := by
  cases step with
  | called _ at_pc | kicked at_pc | devicesSaved at_pc | sent at_pc | lost at_pc | unsignalled at_pc
  | allSent at_pc | received at_pc | refused at_pc | timedOut at_pc | allReceived at_pc
  | vmSaved _ at_pc | returned at_pc | exitEvent at_pc =>
      rw [at_pc] at ends
      exact Bool.noConfusion ends
  | @drained next response =>
      rcases afterDrained_cases next response with ⟨goes_on, _⟩ | ⟨code, _, _, stops⟩
      · rw [State.goTo_pc, goes_on]
        rfl
      · rw [State.goTo_pc, stops]
        rfl
  | exhausted | allDrained => rfl
  | answered | ran | exited => exact ends

/-- Responses are drained only after the exit event. -/
def DrainedLast (trace : List (Label Saved Config Fault))
    (state : State Thread Saved Config Fault) : Prop :=
  ∀ index response, .drained index response ∈ trace → state.pc.ends = true

theorem drainedLast_step (last : DrainedLast trace before)
    (step : Step threads count before label after) : DrainedLast (trace ++ [label]) after := by
  intro index response inside
  rcases List.mem_append.mp inside with early | now
  · exact ends_step (last index response early) step
  · obtain rfl := List.mem_singleton.mp now
    have exiting : before.pc.ends = true := by
      cases step with
      | drained exiting =>
          rw [exiting]
          rfl
    exact ends_step exiting step

/-- The error code of a vCPU waits to be drained, or one has been. -/
def Waits (index : ℕ) (status : FcExitCode) (state : State Thread Saved Config Fault) : Prop :=
  (∃ next ≤ index, state.pc = .exiting next ∧ .exited status ∈ (state.vcpu index).responses) ∨
    ∃ code ≠ .ok, state.pc = .stopped code

theorem Waits.setVcpu {index other : ℕ} {status : FcExitCode} (waits : Waits index status before)
    {handle : Handle Thread Saved Config Fault}
    (kept : ∀ response ∈ (before.vcpu other).responses, response ∈ handle.responses) :
    Waits index status (before.setVcpu other handle) := by
  refine waits.imp_left ?_
  rintro ⟨next, first, exiting, inside⟩
  refine ⟨next, first, exiting, ?_⟩
  rw [State.setVcpu_vcpu]
  rcases eq_or_ne index other with rfl | ne
  · rw [Function.update_self]
    exact kept _ inside
  · rwa [Function.update_of_ne ne]

theorem waits_step {index : ℕ} {status : FcExitCode} (below : index < count)
    (error : status ≠ .ok) (waits : Waits index status before)
    (step : Step threads count before label after) : Waits index status after := by
  cases step with
  | called _ at_pc | kicked at_pc | devicesSaved at_pc | sent at_pc | lost at_pc | unsignalled at_pc
  | allSent at_pc | received at_pc | refused at_pc | timedOut at_pc | allReceived at_pc
  | vmSaved _ at_pc | returned at_pc | exitEvent at_pc =>
      rcases waits with ⟨next, _, exiting, _⟩ | ⟨code, _, stopped⟩
      · cases at_pc.symm.trans exiting
      · cases at_pc.symm.trans stopped
  | @drained next response rest at_pc more waiting =>
      rcases waits with ⟨_, first, exiting, inside⟩ | ⟨code, _, stopped⟩
      · cases at_pc.symm.trans exiting
        rcases afterDrained_cases next response with ⟨goes_on, harmless⟩ | ⟨code, other, _, stops⟩
        · refine .inl ⟨next, first, goes_on, ?_⟩
          rcases eq_or_ne index next with rfl | ne
          · rw [waiting] at inside
            simpa [State.takeResponse, waiting, (harmless status error).symm] using inside
          · simpa [State.takeResponse, Function.update_of_ne ne] using inside
        · exact .inr ⟨code, other, stops⟩
      · cases at_pc.symm.trans stopped
  | @exhausted next at_pc more none =>
      rcases waits with ⟨_, first, exiting, inside⟩ | ⟨code, _, stopped⟩
      · cases at_pc.symm.trans exiting
        rcases Nat.eq_or_lt_of_le first with rfl | later
        · rw [none] at inside
          cases inside
        · exact .inl ⟨next + 1, later, rfl, inside⟩
      · cases at_pc.symm.trans stopped
  | allDrained at_pc =>
      rcases waits with ⟨_, first, exiting, _⟩ | ⟨code, _, stopped⟩
      · cases at_pc.symm.trans exiting
        exact absurd below (Nat.not_lt.mpr first)
      · cases at_pc.symm.trans stopped
  | answered | exited => exact waits.setVcpu fun response => List.mem_append_left _
  | ran => exact waits.setVcpu fun response inside => inside

/-- Where the code of a stopped VMM comes from. -/
def CodeDrained (count : ℕ) (trace : List (Label Saved Config Fault))
    (state : State Thread Saved Config Fault) : Prop :=
  ∀ code ≠ .ok, state.pc = .stopped code → ∃ index < count, .drained index (.exited code) ∈ trace

theorem codeDrained_step (drained : CodeDrained count trace before)
    (step : Step threads count before label after) :
    CodeDrained count (trace ++ [label]) after := by
  intro code error stopped
  have known : before.pc = .stopped code →
      ∃ index < count, .drained index (.exited code) ∈ trace ++ [label] := fun earlier => by
    obtain ⟨index, below, inside⟩ := drained code error earlier
    exact ⟨index, below, List.mem_append_left _ inside⟩
  cases step with
  | called command => cases command <;> cases stopped
  | @drained next response rest exiting more =>
      rcases afterDrained_cases next response with ⟨goes_on, _⟩ | ⟨other, _, rfl, stops⟩
      · cases goes_on.symm.trans stopped
      · cases stops.symm.trans stopped
        exact ⟨next, more, List.mem_append_right _ List.mem_cons_self⟩
  | @allReceived command got =>
      rcases conclude_pc command got before with ⟨states, pc⟩ | ⟨outcome, pc⟩
      · cases pc.symm.trans stopped
      · cases pc.symm.trans stopped
  | allDrained => exact absurd (Pc.stopped.inj stopped).symm error
  | kicked | devicesSaved | sent | lost | unsignalled | allSent | received | refused | timedOut
  | vmSaved | returned | exitEvent | exhausted => cases stopped
  | answered | ran | exited => exact known stopped

theorem mem_readFrom {index : ℕ} {response : VcpuResponse Saved Config Fault}
    (reads : response ∈ trace.flatMap (Label.readFrom index)) :
    .received index response ∈ trace ∨ .refused index response ∈ trace ∨
      .drained index response ∈ trace := by
  obtain ⟨label, inside, reads⟩ := List.mem_flatMap.mp reads
  cases label with
  | received other answer | refused other answer | drained other answer =>
      simp only [Label.readFrom] at reads
      split at reads
      next same =>
        obtain rfl := List.mem_singleton.mp reads
        subst same
        simp [inside]
      next => cases reads
  | _ => cases reads

/-- A vCPU exits with an error while it runs. -/
theorem sample_exited : ∃ (trace : List (Label ℕ Unit Unit)) (state : State Mode ℕ Unit Unit),
    (vmm sampleThreads 1).Run trace state ∧ state.pc = .idle ∧
      (state.vcpu 0).responses = [.exited .genericError] ∧
        .exited .genericError ∈ trace.flatMap (Label.saidBy 0) := by
  have path : (vmm sampleThreads 1).Path sampleStart _ _ :=
    .cons (Step.called .resumeVcpusAfterKick rfl) (.cons (Step.sent rfl Nat.zero_lt_one)
      (.cons (Step.allSent rfl) (.cons (Step.answered Nat.zero_lt_one rfl)
        (.cons (Step.received rfl Nat.zero_lt_one rfl rfl) (.cons (Step.allReceived rfl rfl)
          (.cons (Step.returned rfl) (.cons (@Step.exited _ _ _ _ _ _ _ 0 .genericError
            (.exited .genericError) Nat.zero_lt_one rfl rfl) (.nil _))))))))
  exact ⟨_, _, ⟨sampleStart, ⟨rfl, rfl, fun _ => ⟨rfl, rfl, rfl⟩⟩, path⟩, rfl, rfl,
    List.mem_cons_of_mem _ List.mem_cons_self⟩

/-- `process` reads this, or a pause has read it before. -/
theorem sample_stopped :
    (∃ (trace : List (Label ℕ Unit Unit)) (state : State Mode ℕ Unit Unit),
      (vmm sampleThreads 1).Run trace state ∧ state.pc = .stopped .genericError) ∧
      ∃ (front back : List (Label ℕ Unit Unit)) (state : State Mode ℕ Unit Unit),
        (vmm sampleThreads 1).Run (front ++ .exitEvent :: back) state ∧ state.pc = .stopped .ok ∧
          .exited .genericError ∈ front.flatMap (Label.saidBy 0) := by
  obtain ⟨trace, exited, ⟨start, initial, path⟩, idle, waiting, said⟩ := sample_exited
  constructor
  · exact ⟨_, _, ⟨start, initial, path.trans (.cons (Step.exitEvent idle)
      (.cons (Step.drained rfl Nat.zero_lt_one waiting) (.nil _)))⟩, rfl⟩
  · have pauses : (vmm sampleThreads 1).Path exited _ _ :=
      .cons (Step.called .pauseVm idle) (.cons (Step.sent rfl Nat.zero_lt_one)
        (.cons (Step.allSent rfl) (.cons (Step.refused rfl Nat.zero_lt_one waiting rfl)
          (.cons (Step.returned rfl) (.nil _)))))
    refine ⟨_, _, _, ⟨start, initial, (path.trans pauses).trans (.cons (Step.exitEvent rfl)
      (.cons (Step.exhausted rfl Nat.zero_lt_one ?_) (.cons (Step.allDrained rfl) (.nil _))))⟩,
      rfl, ?_⟩
    · exact congrArg List.tail waiting
    · rw [List.flatMap_append]
      exact List.mem_append_left _ said

end Vmm
end HermOS
