import HermOS.Library.FallibleFold
import HermOS.Vmm.VcpuCommands

/-!
# The VMM and its vCPUs agree

Until a command gives up before it has read all its responses, every response which the VMM reads
answers the event which it has just sent.  Between two commands the channels are then empty, and
every vCPU which has not exited is in the state which the VMM takes it to be in.
-/

namespace HermOS
namespace Vmm

variable {Thread Saved Config Fault : Type} {threads : Threads Thread Saved Config Fault}

section Vcpus

variable {thread later : Thread} {event : VcpuEvent} {mode : Mode}
  {handle : Handle Thread Saved Config Fault} {response : VcpuResponse Saved Config Fault}

/-! ### Threads -/

/-- The thread is paused or runs. -/
def Threads.Live (threads : Threads Thread Saved Config Fault) (thread : Thread) : Prop :=
  ¬ (threads.mode thread).Exited

/-- What a response to an event says of its thread now, which was in some mode before. -/
def Threads.Told (threads : Threads Thread Saved Config Fault) (event : VcpuEvent) (mode : Mode)
    (thread : Thread) : VcpuResponse Saved Config Fault → Prop
  | .exited code => threads.mode thread = .exited code
  | .resumed => event = .resume ∧ (threads.Live thread → threads.mode thread = .running)
  | .paused => event = .pause ∧ threads.mode thread = .paused
  | .savedState state =>
      event = .saveState ∧ mode = .paused ∧ threads.mode thread = .paused ∧
        state = threads.savedState thread
  | .dumpedCpuConfig config =>
      event = .dumpCpuConfig ∧ mode = .paused ∧ threads.mode thread = .paused ∧
        config = threads.cpuConfig thread
  | .error _ | .notAllowed _ => threads.Live thread → threads.mode thread = mode

/-- Responses which nobody has asked for come from a thread which has exited. -/
def Threads.Leftover (threads : Threads Thread Saved Config Fault) (thread : Thread)
    (responses : List (VcpuResponse Saved Config Fault)) : Prop :=
  ∀ response ∈ responses, ∃ code, response = .exited code ∧ threads.mode thread = .exited code

theorem Threads.Leftover.nil (threads : Threads Thread Saved Config Fault) (thread : Thread) :
    threads.Leftover thread [] :=
  fun _ inside => absurd inside List.not_mem_nil

theorem Threads.Leftover.eq_nil {responses : List (VcpuResponse Saved Config Fault)}
    (leftover : threads.Leftover thread responses) (live : threads.Live thread) :
    responses = [] := by
  cases responses with
  | nil => rfl
  | cons response rest =>
      obtain ⟨code, -, exited⟩ := leftover response List.mem_cons_self
      exact absurd ⟨code, exited⟩ live

theorem Threads.Leftover.concat {responses : List (VcpuResponse Saved Config Fault)}
    {code : FcExitCode} (leftover : threads.Leftover thread responses)
    (exited : threads.mode thread = .exited code) :
    threads.Leftover thread (responses ++ [.exited code]) := by
  intro response inside
  rcases List.mem_append.mp inside with early | last
  · exact leftover response early
  · exact ⟨code, List.mem_singleton.mp last, exited⟩

theorem live_of_mode (other : ∀ code, threads.mode thread ≠ .exited code) : threads.Live thread :=
  fun ⟨code, exited⟩ => other code exited

theorem live_of_running (running : threads.mode thread = .running) : threads.Live thread :=
  live_of_mode fun _ exited => Mode.noConfusion (running.symm.trans exited)

theorem live_of_paused (paused : threads.mode thread = .paused) : threads.Live thread :=
  live_of_mode fun _ exited => Mode.noConfusion (paused.symm.trans exited)

/-- A thread which has exited answers with its code. -/
theorem handle_exited (honest : threads.Honest) {code : FcExitCode}
    (exited : threads.mode thread = .exited code) (event : VcpuEvent) :
    threads.handle thread event = (.exited code, thread) := by
  have meant := honest thread event
  generalize threads.handle thread event = answer at meant ⊢
  obtain ⟨response, later⟩ := answer
  cases response with
  | exited status =>
      obtain ⟨ended, rfl⟩ := meant
      cases exited.symm.trans ended
      rfl
  | resumed | paused | error _ | notAllowed _ => exact absurd ⟨code, exited⟩ meant.1
  | savedState _ | dumpedCpuConfig _ => exact Mode.noConfusion (exited.symm.trans meant.2.1)

/-- The answer of a thread which has not exited. -/
theorem told_handle (honest : threads.Honest) (live : threads.Live thread) (event : VcpuEvent) :
    threads.Told event (threads.mode thread) (threads.handle thread event).2
        (threads.handle thread event).1 ∧
      threads.Live (threads.handle thread event).2 := by
  have meant := honest thread event
  generalize threads.handle thread event = answer at meant ⊢
  obtain ⟨response, later⟩ := answer
  cases response with
  | exited status => exact absurd ⟨status, meant.1⟩ live
  | resumed => exact ⟨⟨meant.2.1, fun _ => meant.2.2⟩, live_of_running meant.2.2⟩
  | paused => exact ⟨meant.2, live_of_paused meant.2.2⟩
  | savedState _ | dumpedCpuConfig _ =>
      obtain ⟨asked, paused, rfl, state⟩ := meant
      exact ⟨⟨asked, paused, paused, state⟩, live⟩
  | error _ | notAllowed _ =>
      refine ⟨fun _ => meant.2, ?_⟩
      rintro ⟨code, exited⟩
      exact live ⟨code, meant.2.symm.trans exited⟩

/-- A response stays true while its thread runs, and when it exits. -/
theorem Threads.Told.moves (told : threads.Told event mode thread response)
    (running : threads.mode thread = .running)
    (still : threads.Live later → threads.mode later = .running) :
    threads.Told event mode later response := by
  cases response with
  | exited code => exact Mode.noConfusion (running.symm.trans told)
  | resumed => exact ⟨told.1, still⟩
  | paused => exact Mode.noConfusion (running.symm.trans told.2)
  | savedState _ | dumpedCpuConfig _ => exact Mode.noConfusion (running.symm.trans told.2.2.1)
  | error _ | notAllowed _ =>
      exact fun live => (still live).trans (running.symm.trans (told (live_of_running running)))

/-! ### Channels -/

/-- How far the running command has come with a vCPU. -/
inductive Phase (Saved Config Fault : Type)
  | rests
  | pending (event : VcpuEvent)
  | read (event : VcpuEvent) (response : VcpuResponse Saved Config Fault)

/-- The channels of a vCPU fit to the phase, if all live vCPUs were in this mode before. -/
def Agrees (threads : Threads Thread Saved Config Fault) (mode : Mode)
    (handle : Handle Thread Saved Config Fault) : Phase Saved Config Fault → Prop
  | .rests =>
      threads.Leftover handle.thread handle.responses ∧
        (threads.Live handle.thread → handle.events = [] ∧ threads.mode handle.thread = mode)
  | .pending event =>
      threads.Leftover handle.thread handle.responses ∧
          (threads.Live handle.thread →
            handle.events = [event] ∧ threads.mode handle.thread = mode) ∨
        ∃ response rest, handle.responses = response :: rest ∧
          threads.Told event mode handle.thread response ∧
          threads.Leftover handle.thread rest ∧ (threads.Live handle.thread → handle.events = [])
  | .read event response =>
      threads.Told event mode handle.thread response ∧
        threads.Leftover handle.thread handle.responses ∧
        (threads.Live handle.thread → handle.events = [])

variable {phase : Phase Saved Config Fault}

/-- When a vCPU may have exited. -/
def MayExit (mode : Mode) : Phase Saved Config Fault → Prop
  | .rests => mode = .running
  | .pending event | .read event _ => mode = .running ∨ event = .resume

/-- The channels of a live vCPU hold at most one message. -/
theorem Agrees.events_of_live (agrees : Agrees threads mode handle phase)
    (live : threads.Live handle.thread) {rest : List VcpuEvent}
    (waiting : handle.events = event :: rest) :
    phase = .pending event ∧ rest = [] ∧ handle.responses = [] ∧
      threads.mode handle.thread = mode := by
  cases phase with
  | rests => cases waiting.symm.trans (agrees.2 live).1
  | read asked response => cases waiting.symm.trans (agrees.2.2 live)
  | pending asked =>
      rcases agrees with ⟨leftover, unread⟩ | ⟨response, others, _, _, _, none⟩
      · obtain ⟨events, same⟩ := unread live
        cases waiting.symm.trans events
        exact ⟨rfl, rfl, leftover.eq_nil live, same⟩
      · cases waiting.symm.trans (none live)

/-- A thread which has exited may say so again. -/
theorem Agrees.repeated (agrees : Agrees threads mode handle phase) {code : FcExitCode}
    (exited : threads.mode handle.thread = .exited code) (events : List VcpuEvent) :
    Agrees threads mode
      { handle with events := events, responses := handle.responses ++ [.exited code] } phase := by
  have dead : ¬ threads.Live handle.thread := fun live => live ⟨code, exited⟩
  cases phase with
  | rests => exact ⟨agrees.1.concat exited, fun live => absurd live dead⟩
  | read asked response => exact ⟨agrees.1, agrees.2.1.concat exited, fun live => absurd live dead⟩
  | pending asked =>
      rcases agrees with ⟨leftover, _⟩ | ⟨response, rest, responses, told, leftover, _⟩
      · exact .inl ⟨leftover.concat exited, fun live => absurd live dead⟩
      · refine .inr ⟨response, rest ++ [.exited code], ?_, told, leftover.concat exited,
          fun live => absurd live dead⟩
        rw [responses, List.cons_append]

theorem Threads.Told.mayExit (told : threads.Told event mode thread response)
    (running : threads.mode thread = .running) : mode = .running ∨ event = .resume := by
  cases response with
  | exited code => exact Mode.noConfusion (running.symm.trans told)
  | resumed => exact .inr told.1
  | paused => exact Mode.noConfusion (running.symm.trans told.2)
  | savedState _ | dumpedCpuConfig _ => exact Mode.noConfusion (running.symm.trans told.2.2.1)
  | error _ | notAllowed _ => exact .inl ((told (live_of_running running)).symm.trans running)

/-- A vCPU which runs has been told to, or all live vCPUs run. -/
theorem Agrees.mayExit (agrees : Agrees threads mode handle phase)
    (running : threads.mode handle.thread = .running) : MayExit mode phase := by
  have live := live_of_running running
  cases phase with
  | rests => exact (agrees.2 live).2.symm.trans running
  | read asked response => exact agrees.1.mayExit running
  | pending asked =>
      rcases agrees with ⟨_, unread⟩ | ⟨response, rest, _, told, _⟩
      · exact .inl ((unread live).2.symm.trans running)
      · exact told.mayExit running

theorem Agrees.answered (honest : threads.Honest) (agrees : Agrees threads mode handle phase)
    {rest : List VcpuEvent} (waiting : handle.events = event :: rest) :
    Agrees threads mode
      { thread := (threads.handle handle.thread event).2
        events := rest
        responses := handle.responses ++ [(threads.handle handle.thread event).1] } phase := by
  by_cases live : threads.Live handle.thread
  · obtain ⟨rfl, rfl, responses, same⟩ := agrees.events_of_live live waiting
    obtain ⟨told, _⟩ := told_handle honest live event
    refine .inr ⟨_, [], ?_, same ▸ told, .nil threads _, fun _ => rfl⟩
    rw [responses, List.nil_append]
  · obtain ⟨code, exited⟩ := not_not.mp live
    rw [handle_exited honest exited event]
    exact agrees.repeated exited rest

/-- The thread runs on, or exits. -/
theorem Agrees.moves (agrees : Agrees threads mode handle phase)
    (running : threads.mode handle.thread = .running)
    (still : threads.Live later → threads.mode later = .running)
    {parting : List (VcpuResponse Saved Config Fault)} (leaves : threads.Leftover later parting) :
    Agrees threads mode
      { handle with thread := later, responses := handle.responses ++ parting } phase := by
  have live := live_of_running running
  cases phase with
  | rests =>
      obtain ⟨events, same⟩ := agrees.2 live
      refine ⟨?_, fun later_live => ⟨events, (still later_live).trans (running.symm.trans same)⟩⟩
      rw [agrees.1.eq_nil live]
      exact leaves
  | read asked response =>
      refine ⟨agrees.1.moves running still, ?_, fun _ => agrees.2.2 live⟩
      rw [agrees.2.1.eq_nil live]
      exact leaves
  | pending asked =>
      rcases agrees with ⟨leftover, unread⟩ | ⟨response, rest, responses, told, leftover, none⟩
      · obtain ⟨events, same⟩ := unread live
        refine .inl ⟨?_, fun later_live => ⟨events, (still later_live).trans ?_⟩⟩
        · rw [leftover.eq_nil live]
          exact leaves
        · exact running.symm.trans same
      · refine .inr ⟨response, parting, ?_, told.moves running still, leaves, fun _ => none live⟩
        rw [responses, leftover.eq_nil live]
        rfl

/-! ### Steps of a command -/

theorem Agrees.sent (agrees : Agrees threads mode handle .rests) (event : VcpuEvent) :
    Agrees threads mode { handle with events := handle.events ++ [event] } (.pending event) := by
  refine .inl ⟨agrees.1, fun live => ?_⟩
  obtain ⟨events, same⟩ := agrees.2 live
  rw [events]
  exact ⟨rfl, same⟩

theorem Agrees.received (agrees : Agrees threads mode handle (.pending event))
    {rest : List (VcpuResponse Saved Config Fault)}
    (waiting : handle.responses = response :: rest) :
    Agrees threads mode { handle with responses := rest } (.read event response) := by
  rcases agrees with ⟨leftover, _⟩ | ⟨answer, others, responses, told, leftover, none⟩
  · rw [waiting] at leftover
    obtain ⟨code, rfl, exited⟩ := leftover response List.mem_cons_self
    exact ⟨exited, fun other inside => leftover other (List.mem_cons_of_mem _ inside),
      fun live => absurd ⟨code, exited⟩ live⟩
  · obtain ⟨rfl, rfl⟩ := List.cons.inj (waiting.symm.trans responses)
    exact ⟨told, leftover, none⟩

/-- The mode of all live vCPUs after a command which has succeeded. -/
def Command.target (mode : Mode) : Command → Mode
  | .resumeVm | .resumeVcpusAfterKick => .running
  | .pauseVm => .paused
  | .saveState | .dumpCpuConfig => mode

/-- An accepted response shows that the vCPU has followed the command. -/
theorem Threads.Told.target {command : Command}
    (told : threads.Told command.event mode thread response)
    (accepted : command.accepts response = true) (live : threads.Live thread) :
    threads.mode thread = command.target mode := by
  cases command <;> cases response <;>
    simp_all [Command.accepts, Command.event, Command.target, Threads.Told, Threads.Live,
      Mode.Exited]

theorem Agrees.concluded {command : Command}
    (agrees : Agrees threads mode handle (.read command.event response))
    (accepted : command.accepts response = true) :
    Agrees threads (command.target mode) handle .rests :=
  ⟨agrees.2.1, fun live => ⟨agrees.2.2 live, agrees.1.target accepted live⟩⟩

theorem Threads.Told.exits {command : Command}
    (told : threads.Told command.event mode thread response)
    (accepted : command.accepts response = true) (dead : ¬ threads.Live thread)
    (exits : mode = .running ∨ command.event = .resume) : command.target mode = .running := by
  cases command with
  | resumeVm | resumeVcpusAfterKick => rfl
  | pauseVm =>
      cases response with
      | paused => exact absurd (live_of_paused told.2) dead
      | _ => cases accepted
  | saveState | dumpCpuConfig => exact exits.resolve_right VcpuEvent.noConfusion

/-- The vCPU fits to its phase. -/
structure Fits (threads : Threads Thread Saved Config Fault) (mode : Mode)
    (handle : Handle Thread Saved Config Fault) (phase : Phase Saved Config Fault) : Prop where
  agrees : Agrees threads mode handle phase
  exits : ¬ threads.Live handle.thread → MayExit mode phase

end Vcpus

/-! ### States -/

variable {count : ℕ} {handle : Handle Thread Saved Config Fault}
  {before after state : State Thread Saved Config Fault} {label : Label Saved Config Fault}

/-- How far the VMM has come with a vCPU. -/
def Pc.phase (pc : Pc Saved Config Fault) (index : ℕ) : Phase Saved Config Fault :=
  match pc with
  | .sending command next => if index < next then .pending command.event else .rests
  | .receiving command got =>
      match got[index]? with
      | some response => .read command.event response
      | none => .pending command.event
  | _ => .rests

/-- The mode of the live vCPUs of a microVM. -/
def VmState.mode : VmState → Mode
  | .notStarted | .paused => .paused
  | .running => .running

/-- The states are those of the vCPUs at this moment. -/
def Consistent (threads : Threads Thread Saved Config Fault) (count : ℕ)
    (state : State Thread Saved Config Fault) (states : List Saved) : Prop :=
  states.length = count ∧ ∀ index < count,
    threads.mode (state.vcpu index).thread = .paused ∧
      states[index]? = some (threads.savedState (state.vcpu index).thread)

/-- What has been read so far. -/
def Pc.Gathered (threads : Threads Thread Saved Config Fault) (count : ℕ)
    (state : State Thread Saved Config Fault) : Pc Saved Config Fault → Prop
  | .receiving command got => ∀ response ∈ got, command.accepts response = true
  | .savingVm states => Consistent threads count state states
  | .returning (.saved (.ok states)) => Consistent threads count state states
  | _ => True

structure Agreement (threads : Threads Thread Saved Config Fault) (count : ℕ)
    (state : State Thread Saved Config Fault) : Prop where
  vcpus : ∀ index < count,
    Fits threads state.vmState.mode (state.vcpu index) (state.pc.phase index)
  gathered : state.pc.Gathered threads count state

/-- The command ends before it has read all responses. -/
def Label.gaveUp : Label Saved Config Fault → Bool
  | .sendFailed _ _ | .refused _ _ | .timedOut _ => true
  | _ => false

theorem Agreement.goTo (agreement : Agreement threads count state) {pc : Pc Saved Config Fault}
    (phases : ∀ index < count, pc.phase index = state.pc.phase index)
    (gathered : pc.Gathered threads count state) :
    Agreement threads count (state.goTo pc) where
  vcpus index below := by
    rw [State.goTo_pc, phases index below]
    exact agreement.vcpus index below
  gathered := gathered

/-- A vCPU which fits to its phase, among others which are left alone. -/
theorem Agreement.setVcpu (agreement : Agreement threads count state) {index : ℕ}
    {pc : Pc Saved Config Fault}
    (own : Fits threads state.vmState.mode handle (pc.phase index))
    (others : ∀ other < count, other ≠ index → pc.phase other = state.pc.phase other) :
    ∀ other < count, Fits threads state.vmState.mode
      (Function.update state.vcpu index handle other) (pc.phase other) := by
  intro other below
  rcases eq_or_ne other index with rfl | ne
  · rwa [Function.update_self]
  · rw [Function.update_of_ne ne, others other below ne]
    exact agreement.vcpus other below

/-- What has been read stays true if a paused vCPU without an event does nothing. -/
theorem Pc.Gathered.setVcpu {pc : Pc Saved Config Fault}
    (gathered : pc.Gathered threads count state) {index : ℕ}
    (asleep : pc.phase index = .rests → threads.mode (state.vcpu index).thread = .paused →
      threads.mode handle.thread = .paused ∧
        threads.savedState handle.thread = threads.savedState (state.vcpu index).thread) :
    pc.Gathered threads count (state.setVcpu index handle) := by
  have kept : ∀ {states}, pc.phase index = .rests → Consistent threads count state states →
      Consistent threads count (state.setVcpu index handle) states := by
    rintro states rests ⟨length, each⟩
    refine ⟨length, fun other below => ?_⟩
    rw [State.setVcpu_vcpu]
    rcases eq_or_ne other index with rfl | ne
    · obtain ⟨paused, held⟩ := each other below
      obtain ⟨still, same⟩ := asleep rests paused
      rw [Function.update_self, same]
      exact ⟨still, held⟩
    · rw [Function.update_of_ne ne]
      exact each other below
  cases pc with
  | receiving command got => exact gathered
  | savingVm states => exact kept rfl gathered
  | returning outcome =>
      cases outcome with
      | saved result =>
          cases result with
          | ok states => exact kept rfl gathered
          | error _ => trivial
      | told _ | dumped _ => trivial
  | idle | kicking | savingDevices | sending _ _ | exiting _ | stopped _ => trivial

/-! ### Steps of the VMM -/

section Phases

variable (command : Command) (next : ℕ) (got : List (VcpuResponse Saved Config Fault))
  (response : VcpuResponse Saved Config Fault)

theorem phase_start (index : ℕ) :
    (command.start : Pc Saved Config Fault).phase index = .rests := by
  cases command <;> simp [Command.start, Pc.phase]

theorem phase_sending : (.sending command next : Pc Saved Config Fault).phase next = .rests := by
  simp [Pc.phase]

theorem phase_unsent (index : ℕ) :
    (.sending command 0 : Pc Saved Config Fault).phase index = .rests := by
  simp [Pc.phase]

theorem phase_sent : (.sending command (next + 1) : Pc Saved Config Fault).phase next =
    .pending command.event := by
  simp [Pc.phase]

theorem phase_sent_ne {other : ℕ} (ne : other ≠ next) :
    (.sending command (next + 1) : Pc Saved Config Fault).phase other =
      (.sending command next : Pc Saved Config Fault).phase other := by
  have same : other < next + 1 ↔ other < next := by omega
  simp only [Pc.phase, same]

theorem phase_receiving : (.receiving command got : Pc Saved Config Fault).phase got.length =
    .pending command.event := by
  simp [Pc.phase]

theorem phase_received : (.receiving command (got ++ [response]) : Pc Saved Config Fault).phase
    got.length = .read command.event response := by
  simp [Pc.phase]

theorem phase_received_ne {other : ℕ} (ne : other ≠ got.length) :
    (.receiving command (got ++ [response]) : Pc Saved Config Fault).phase other =
      (.receiving command got : Pc Saved Config Fault).phase other := by
  have same : (got ++ [response])[other]? = got[other]? := by
    rcases Nat.lt_or_gt_of_ne ne with early | late
    · rw [List.getElem?_append_left early]
    · have beyond : (got ++ [response]).length ≤ other := by
        rw [List.length_append, List.length_singleton]
        exact late
      rw [List.getElem?_eq_none beyond, List.getElem?_eq_none (Nat.le_of_lt late)]
  simp only [Pc.phase, same]

end Phases

theorem Agreement.sent (agreement : Agreement threads count before) {command : Command} {next : ℕ}
    (sending : before.pc = .sending command next) (more : next < count) :
    Agreement threads count
      ((before.send next command.event).goTo (.sending command (next + 1))) where
  vcpus := by
    have own := agreement.vcpus next more
    rw [sending, phase_sending] at own
    have later : Fits threads before.vmState.mode _ (.pending command.event) :=
      ⟨own.agrees.sent command.event, fun dead => .inl (own.exits dead)⟩
    rw [← phase_sent command next] at later
    refine agreement.setVcpu later fun other _ ne => ?_
    rw [sending]
    exact phase_sent_ne command next ne
  gathered := trivial

theorem Agreement.received (agreement : Agreement threads count before) {command : Command}
    {got rest : List (VcpuResponse Saved Config Fault)} {response : VcpuResponse Saved Config Fault}
    (receiving : before.pc = .receiving command got) (more : got.length < count)
    (waiting : (before.vcpu got.length).responses = response :: rest)
    (accepted : command.accepts response = true) :
    Agreement threads count
      ((before.takeResponse got.length).goTo (.receiving command (got ++ [response]))) where
  vcpus := by
    have own := agreement.vcpus got.length more
    rw [receiving, phase_receiving] at own
    have later : Fits threads before.vmState.mode _ (.read command.event response) :=
      ⟨own.agrees.received waiting, own.exits⟩
    rw [← phase_received command got] at later
    have others := agreement.setVcpu later fun other _ ne => by
      rw [receiving, phase_received_ne command got response ne]
    have tail : rest = (before.vcpu got.length).responses.tail := by rw [waiting, List.tail_cons]
    rw [tail] at others
    exact others
  gathered := by
    have earlier := agreement.gathered
    rw [receiving] at earlier
    intro other inside
    rcases List.mem_append.mp inside with early | last
    · exact earlier other early
    · rwa [List.mem_singleton.mp last]

theorem Agreement.concluded (agreement : Agreement threads count before) {command : Command}
    {got : List (VcpuResponse Saved Config Fault)} (receiving : before.pc = .receiving command got)
    (all : got.length = count) : ∀ index < count,
      Fits threads (command.target before.vmState.mode) (before.vcpu index) .rests ∧
        ∃ response, got[index]? = some response ∧
          threads.Told command.event before.vmState.mode (before.vcpu index).thread response := by
  intro index below
  have own := agreement.vcpus index below
  have earlier := agreement.gathered
  rw [receiving] at own earlier
  have inside : index < got.length := all ▸ below
  rw [Pc.phase, List.getElem?_eq_getElem inside] at own
  have accepted := earlier _ (List.getElem_mem inside)
  refine ⟨⟨own.agrees.concluded accepted, fun dead => ?_⟩, _, List.getElem?_eq_getElem inside,
    own.agrees.1⟩
  exact own.agrees.1.exits accepted dead (own.exits dead)

theorem consistent_of_mapM {got : List (VcpuResponse Saved Config Fault)} {states : List Saved}
    {mode : Mode} (all : got.length = count) (read : got.mapM savedOf = .ok states)
    (each : ∀ index < count, ∃ response, got[index]? = some response ∧
      threads.Told .saveState mode (state.vcpu index).thread response) :
    Consistent threads count state states := by
  obtain ⟨lengths, pairs⟩ := List.forall₂_iff_get.mp (FallibleFold.mapM_ok_iff.mp read)
  refine ⟨lengths.symm.trans all, fun index below => ?_⟩
  obtain ⟨response, held, told⟩ := each index below
  obtain ⟨inside, rfl⟩ := List.getElem?_eq_some_iff.mp held
  have bound : index < states.length := lengths ▸ inside
  have saved := pairs index inside bound
  rw [List.getElem?_eq_getElem bound]
  simp only [List.get_eq_getElem] at saved
  generalize got[index] = response at told saved
  cases response with
  | savedState held =>
      obtain ⟨-, -, paused, rfl⟩ := told
      exact ⟨paused, congrArg some (Except.ok.inj saved).symm⟩
  | error _ | exited _ | notAllowed _ | paused | resumed | dumpedCpuConfig _ => cases saved

theorem Agreement.conclude (agreement : Agreement threads count before) {command : Command}
    {got : List (VcpuResponse Saved Config Fault)} (receiving : before.pc = .receiving command got)
    (all : got.length = count) : Agreement threads count (command.conclude got before) := by
  have each := agreement.concluded receiving all
  cases command with
  | resumeVm | resumeVcpusAfterKick | pauseVm =>
      exact ⟨fun index below => (each index below).1, trivial⟩
  | dumpCpuConfig => exact ⟨fun index below => (each index below).1, trivial⟩
  | saveState =>
      unfold Command.conclude
      cases read : got.mapM savedOf with
      | error error => exact ⟨fun index below => (each index below).1, trivial⟩
      | ok states =>
          refine ⟨fun index below => (each index below).1, ?_⟩
          exact consistent_of_mapM all read fun index below => (each index below).2

/-- A thread has done something. -/
theorem Agreement.moved (agreement : Agreement threads count before) {index : ℕ}
    (own : Fits threads before.vmState.mode handle (before.pc.phase index))
    (asleep : before.pc.phase index = .rests →
      threads.mode (before.vcpu index).thread = .paused →
      threads.mode handle.thread = .paused ∧
        threads.savedState handle.thread = threads.savedState (before.vcpu index).thread) :
    Agreement threads count (before.setVcpu index handle) where
  vcpus := agreement.setVcpu own fun _ _ _ => rfl
  gathered := agreement.gathered.setVcpu asleep

theorem agreement_step (honest : threads.Honest) (agreement : Agreement threads count before)
    (step : Step threads count before label after) (kept : label.gaveUp = false) :
    Agreement threads count after := by
  cases step with
  | called command idle =>
      refine agreement.goTo (fun index _ => ?_) ?_
      · rw [idle, phase_start]
        rfl
      · cases command <;> trivial
  | kicked at_pc | devicesSaved at_pc =>
      refine agreement.goTo (fun index _ => ?_) trivial
      rw [at_pc, phase_unsent]
      rfl
  | sent sending more => exact agreement.sent sending more
  | lost | unsignalled | refused | timedOut => exact Bool.noConfusion kept
  | allSent sending =>
      refine agreement.goTo (fun index below => ?_) fun _ inside => absurd inside List.not_mem_nil
      rw [sending]
      exact (if_pos below).symm
  | received receiving more waiting accepted =>
      exact agreement.received receiving more waiting accepted
  | allReceived receiving all => exact agreement.conclude receiving all
  | vmSaved well saving =>
      have gathered := agreement.gathered
      rw [saving] at gathered
      refine agreement.goTo (fun index _ => by rw [saving]; rfl) ?_
      cases well with
      | false => trivial
      | true => exact gathered
  | returned at_pc | exitEvent at_pc | exhausted at_pc | allDrained at_pc =>
      exact agreement.goTo (fun index _ => by rw [at_pc]; rfl) trivial
  | @drained next response rest exiting more waiting =>
      have own := agreement.vcpus next more
      have phase : (afterDrained next response).phase = before.pc.phase := by
        rw [exiting]
        cases response with
        | exited code => cases code <;> rfl
        | _ => rfl
      rw [exiting] at own
      have leftover : threads.Leftover (before.vcpu next).thread
          (before.vcpu next).responses.tail := fun other inside =>
        own.agrees.1 other (List.mem_of_mem_tail inside)
      refine ⟨agreement.setVcpu ?_ fun other _ _ => congrFun phase other, ?_⟩
      · rw [State.goTo_pc, phase, exiting]
        exact ⟨⟨leftover, own.agrees.2⟩, own.exits⟩
      · rw [State.goTo_pc]
        cases response with
        | exited code => cases code <;> trivial
        | _ => trivial
  | @answered index event rest below waiting =>
      have own := agreement.vcpus index below
      refine agreement.moved ⟨own.agrees.answered honest waiting, fun dead => ?_⟩ ?_
      · exact own.exits fun live => dead (told_handle honest live event).2
      · intro rests paused
        have resting := own.agrees
        rw [rests] at resting
        cases waiting.symm.trans (resting.2 (live_of_paused paused)).1
  | @ran index later below running still =>
      have own := (agreement.vcpus index below).agrees
      have moved := own.moves running (fun _ => still) (.nil threads later)
      rw [List.append_nil] at moved
      exact agreement.moved ⟨moved, fun _ => own.mayExit running⟩ fun _ paused =>
        Mode.noConfusion (running.symm.trans paused)
  | @exited index code later below running ended =>
      have parting : threads.Leftover later ([.exited code] : List (VcpuResponse Saved Config _)) :=
        fun response inside => ⟨code, List.mem_singleton.mp inside, ended⟩
      have own := (agreement.vcpus index below).agrees
      have moved := own.moves running (fun live => absurd ⟨code, ended⟩ live) parting
      exact agreement.moved ⟨moved, fun _ => own.mayExit running⟩ fun _ paused =>
        Mode.noConfusion (running.symm.trans paused)

theorem agreement_initial (initial : (vmm threads count).Initial state) :
    Agreement threads count state := by
  obtain ⟨idle, paused, fresh⟩ := initial
  refine ⟨fun index _ => ?_, ?_⟩
  · obtain ⟨events, responses, mode⟩ := fresh index
    rw [idle, paused]
    refine ⟨⟨?_, fun _ => ⟨events, mode⟩⟩, fun dead => absurd (live_of_paused mode) dead⟩
    rw [responses]
    exact .nil threads _
  · rw [idle]
    trivial

/-- Runs in which no command has given up so far. -/
def steady (threads : Threads Thread Saved Config Fault) (count : ℕ) :
    TransitionSystem (State Thread Saved Config Fault) (Label Saved Config Fault) :=
  (vmm threads count).restrict fun _ label => label.gaveUp = false

theorem agreement_reachable (honest : threads.Honest)
    (reachable : (steady threads count).Reachable state) : Agreement threads count state := by
  have closed : ∀ {before label after}, Agreement threads count before →
      (steady threads count).Step before label after → Agreement threads count after :=
    fun agreement step => agreement_step honest agreement step.1 step.2
  obtain ⟨_, initial, start, path⟩ := reachable
  exact path.invariant (Agreement threads count) closed (agreement_initial start)

theorem steady_step (reachable : (steady threads count).Reachable before)
    (step : Step threads count before label after) (kept : label.gaveUp = false) :
    (steady threads count).Reachable after :=
  reachable.step ⟨step, kept⟩

theorem sample_start : (steady sampleThreads 2).Reachable sampleStart :=
  ⟨[], sampleStart, ⟨rfl, rfl, fun _ => ⟨rfl, rfl, rfl⟩⟩, .nil _⟩

/-- Two vCPUs, which save their states. -/
theorem sample_saved : ∃ state, (steady sampleThreads 2).Reachable state ∧
    state.pc = .returning (.saved (.ok [7, 7])) := by
  have called := steady_step sample_start (.called .saveState rfl) rfl
  have devices := steady_step called (.devicesSaved rfl) rfl
  have first := steady_step devices (.sent rfl Nat.zero_lt_two) rfl
  have early := steady_step first (.answered Nat.zero_lt_two rfl) rfl
  have second := steady_step early (.sent rfl Nat.one_lt_two) rfl
  have told := steady_step second (.allSent rfl) rfl
  have received := steady_step told (.received rfl Nat.zero_lt_two rfl rfl) rfl
  have late := steady_step received (.answered Nat.one_lt_two rfl) rfl
  have both := steady_step late (.received rfl Nat.one_lt_two rfl rfl) rfl
  have all := steady_step both (.allReceived rfl rfl) rfl
  exact ⟨_, steady_step all (.vmSaved true rfl) rfl, rfl⟩

/-- Two vCPUs, which run. -/
theorem sample_resumed : ∃ state, (steady sampleThreads 2).Reachable state ∧
    state.pc = .idle := by
  have called := steady_step sample_start (.called .resumeVm rfl) rfl
  have kicked := steady_step called (.kicked rfl) rfl
  have first := steady_step kicked (.sent rfl Nat.zero_lt_two) rfl
  have second := steady_step first (.sent rfl Nat.one_lt_two) rfl
  have told := steady_step second (.allSent rfl) rfl
  have late := steady_step told (.answered Nat.one_lt_two rfl) rfl
  have early := steady_step late (.answered Nat.zero_lt_two rfl) rfl
  have received := steady_step early (.received rfl Nat.zero_lt_two rfl rfl) rfl
  have both := steady_step received (.received rfl Nat.one_lt_two rfl rfl) rfl
  have all := steady_step both (.allReceived rfl rfl) rfl
  exact ⟨_, steady_step all (.returned rfl) rfl, rfl⟩

/-- Between two commands the channels of a vCPU are empty and it is in the state which the VMM
remembers.  Only a vCPU of a running microVM may have exited instead. -/
theorem vcpus_agree (honest : threads.Honest)
    (reachable : (steady threads count).Reachable state) (idle : state.pc = .idle) {index : ℕ}
    (below : index < count) :
    (threads.mode (state.vcpu index).thread).Exited ∧ state.vmState = .running ∨
      threads.mode (state.vcpu index).thread = state.vmState.mode ∧
        (state.vcpu index).events = [] ∧ (state.vcpu index).responses = [] := by
  have own := (agreement_reachable honest reachable).vcpus index below
  rw [idle] at own
  by_cases live : threads.Live (state.vcpu index).thread
  · obtain ⟨events, mode⟩ := own.agrees.2 live
    exact .inr ⟨mode, events, own.agrees.1.eq_nil live⟩
  · refine .inl ⟨not_not.mp live, ?_⟩
    have runs : state.vmState.mode = .running := own.exits live
    cases known : state.vmState with
    | running => rfl
    | notStarted | paused =>
        rw [known] at runs
        cases runs

theorem vcpus_agree_sample : ∃ state, (steady sampleThreads 2).Reachable state ∧
    ∀ index < 2, (sampleThreads.mode (state.vcpu index).thread).Exited ∧
        state.vmState = .running ∨
      sampleThreads.mode (state.vcpu index).thread = state.vmState.mode ∧
        (state.vcpu index).events = [] ∧ (state.vcpu index).responses = [] := by
  obtain ⟨state, reachable, idle⟩ := sample_resumed
  exact ⟨state, reachable, fun index below =>
    vcpus_agree sampleThreads_honest reachable idle below⟩

/-- The states which `save_state` returns are those of all vCPUs at one moment, when none of them
runs. -/
theorem saved_states (honest : threads.Honest) (reachable : (steady threads count).Reachable state)
    {states : List Saved} (saved : state.pc = .returning (.saved (.ok states))) :
    states.length = count ∧ ∀ index < count,
      threads.mode (state.vcpu index).thread = .paused ∧
        states[index]? = some (threads.savedState (state.vcpu index).thread) := by
  have gathered := (agreement_reachable honest reachable).gathered
  rw [saved] at gathered
  exact gathered

theorem saved_states_sample : ∃ state, (steady sampleThreads 2).Reachable state ∧
    [7, 7].length = 2 ∧ ∀ index < 2, sampleThreads.mode (state.vcpu index).thread = .paused ∧
      [7, 7][index]? = some (sampleThreads.savedState (state.vcpu index).thread) := by
  obtain ⟨state, reachable, saved⟩ := sample_saved
  exact ⟨state, reachable, saved_states sampleThreads_honest reachable saved⟩

end Vmm
end HermOS
