import HermOS.Library.Queues
import Mathlib.Logic.Function.Basic

/-!
# Commands of the VMM to its vCPUs

Every vCPU has a thread, with a channel of events to it and a channel of responses from it.  A
command of the VMM sends an event to each thread and then reads a response from each.  The threads
proceed in any order, run the guest while they are not paused, and may exit while they do.
-/

namespace HermOS
namespace Vmm

inductive FcExitCode
  | ok
  | genericError
  | unexpectedError
  | badSyscall
  | sigbus
  | sigsegv
  | sigxfsz
  | sigxcpu
  | sigpipe
  | sighup
  | sigill
  | badConfiguration
  | argParsing
  deriving DecidableEq

/-- The events of the commands. -/
inductive VcpuEvent
  | resume
  | pause
  | saveState
  | dumpCpuConfig
  deriving DecidableEq

inductive VcpuResponse (Saved Config Fault : Type)
  | error (err : Fault)
  | exited (code : FcExitCode)
  | notAllowed (reason : String)
  | paused
  | resumed
  | savedState (state : Saved)
  | dumpedCpuConfig (config : Config)

/-- What a thread of a vCPU does at present. -/
inductive Mode
  | paused
  | running
  | exited (code : FcExitCode)
  deriving DecidableEq

/-- The threads of the vCPUs, as far as the VMM knows them. -/
structure Threads (Thread Saved Config Fault : Type) where
  mode : Thread → Mode
  savedState : Thread → Saved
  cpuConfig : Thread → Config
  /-- What a thread makes of an event. -/
  handle : Thread → VcpuEvent → VcpuResponse Saved Config Fault × Thread

variable {Thread Saved Config Fault : Type}

/-- The thread takes no part any more. -/
def Mode.Exited (mode : Mode) : Prop :=
  ∃ code, mode = .exited code

/-- What a response to an event means for the thread which gives it. -/
def Threads.Means (threads : Threads Thread Saved Config Fault) (thread : Thread)
    (event : VcpuEvent) (later : Thread) : VcpuResponse Saved Config Fault → Prop
  | .exited code => threads.mode thread = .exited code ∧ later = thread
  | .resumed =>
      ¬ (threads.mode thread).Exited ∧ event = .resume ∧ threads.mode later = .running
  | .paused => ¬ (threads.mode thread).Exited ∧ event = .pause ∧ threads.mode later = .paused
  | .savedState state =>
      event = .saveState ∧ threads.mode thread = .paused ∧ later = thread ∧
        state = threads.savedState thread
  | .dumpedCpuConfig config =>
      event = .dumpCpuConfig ∧ threads.mode thread = .paused ∧ later = thread ∧
        config = threads.cpuConfig thread
  | .error _ | .notAllowed _ =>
      ¬ (threads.mode thread).Exited ∧ threads.mode later = threads.mode thread

/-- The threads mean what they answer. -/
def Threads.Honest (threads : Threads Thread Saved Config Fault) : Prop :=
  ∀ thread event,
    threads.Means thread event (threads.handle thread event).2 (threads.handle thread event).1

/-! ### Commands -/

/-- The methods of `Vmm` which talk to the vCPUs. -/
inductive Command
  | resumeVm
  | resumeVcpusAfterKick
  | pauseVm
  | saveState
  | dumpCpuConfig
  deriving DecidableEq

/-- The event which a command sends to every vCPU. -/
def Command.event : Command → VcpuEvent
  | .resumeVm | .resumeVcpusAfterKick => .resume
  | .pauseVm => .pause
  | .saveState => .saveState
  | .dumpCpuConfig => .dumpCpuConfig

/-- Whether a command reads on after a response. -/
def Command.accepts : Command → VcpuResponse Saved Config Fault → Bool
  | .resumeVm, .resumed | .resumeVcpusAfterKick, .resumed => true
  | .resumeVm, _ | .resumeVcpusAfterKick, _ => false
  | .pauseVm, .paused => true
  | .pauseVm, _ => false
  -- these two collect all responses before they look at them
  | .saveState, _ | .dumpCpuConfig, _ => true

inductive MicrovmStateError (Fault : Type)
  | signalVcpu
  | unexpectedVcpuResponse
  | saveVcpuState (err : Fault)
  | notAllowed (reason : String)
  | saveVmState

inductive DumpCpuConfigError (Fault : Type)
  | sendEvent
  | unexpectedResponse
  | dumpCpuConfig (err : Fault)
  | notAllowed (reason : String)

/-- What a command returns. -/
inductive Outcome (Saved Config Fault : Type)
  /-- `Ok(())`, or `VmmError::VcpuMessage`. -/
  | told (well : Bool)
  | saved (result : Except (MicrovmStateError Fault) (List Saved))
  | dumped (result : Except (DumpCpuConfigError Fault) (List Config))

/-- An event could not be sent. -/
def Command.sendFailure : Command → Outcome Saved Config Fault
  | .resumeVm | .resumeVcpusAfterKick | .pauseVm => .told false
  | .saveState => .saved (.error .signalVcpu)
  | .dumpCpuConfig => .dumped (.error .sendEvent)

/-- A response did not come in time. -/
def Command.timeout : Command → Outcome Saved Config Fault
  | .resumeVm | .resumeVcpusAfterKick | .pauseVm => .told false
  | .saveState => .saved (.error .unexpectedVcpuResponse)
  | .dumpCpuConfig => .dumped (.error .unexpectedResponse)

/-- A response to `VcpuEvent::SaveState`. -/
def savedOf : VcpuResponse Saved Config Fault → Except (MicrovmStateError Fault) Saved
  | .savedState state => .ok state
  | .error err => .error (.saveVcpuState err)
  | .notAllowed reason => .error (.notAllowed reason)
  | _ => .error .unexpectedVcpuResponse

/-- A response to `VcpuEvent::DumpCpuConfig`. -/
def dumpedOf : VcpuResponse Saved Config Fault → Except (DumpCpuConfigError Fault) Config
  | .dumpedCpuConfig config => .ok config
  | .error err => .error (.dumpCpuConfig err)
  | .notAllowed reason => .error (.notAllowed reason)
  | _ => .error .unexpectedResponse

/-! ### States -/

inductive VmState
  | notStarted
  | paused
  | running
  deriving DecidableEq

/-- Where the thread of the VMM stands. -/
inductive Pc (Saved Config Fault : Type)
  | idle
  /-- `resume_vm`, before the devices are kicked. -/
  | kicking
  /-- `save_state`, before the devices are saved. -/
  | savingDevices
  | sending (command : Command) (next : ℕ)
  | receiving (command : Command) (got : List (VcpuResponse Saved Config Fault))
  /-- `save_state`, once it has the states of the vCPUs. -/
  | savingVm (states : List Saved)
  | returning (outcome : Outcome Saved Config Fault)
  /-- `process`, which drains the responses. -/
  | exiting (next : ℕ)
  | stopped (code : FcExitCode)

/-- `VcpuHandle`, with its thread. -/
structure Handle (Thread Saved Config Fault : Type) where
  thread : Thread
  events : List VcpuEvent
  responses : List (VcpuResponse Saved Config Fault)

structure State (Thread Saved Config Fault : Type) where
  pc : Pc Saved Config Fault
  vmState : VmState
  vcpu : ℕ → Handle Thread Saved Config Fault

namespace State

variable (state : State Thread Saved Config Fault)

def goTo (pc : Pc Saved Config Fault) : State Thread Saved Config Fault :=
  { state with pc := pc }

def setVcpu (index : ℕ) (handle : Handle Thread Saved Config Fault) :
    State Thread Saved Config Fault :=
  { state with vcpu := Function.update state.vcpu index handle }

def send (index : ℕ) (event : VcpuEvent) : State Thread Saved Config Fault :=
  state.setVcpu index
    { state.vcpu index with events := (state.vcpu index).events ++ [event] }

/-- The state after the first response of a vCPU has been read. -/
def takeResponse (index : ℕ) : State Thread Saved Config Fault :=
  state.setVcpu index
    { state.vcpu index with responses := (state.vcpu index).responses.tail }

@[simp] theorem goTo_pc (pc : Pc Saved Config Fault) : (state.goTo pc).pc = pc := rfl

@[simp] theorem goTo_vmState (pc : Pc Saved Config Fault) :
    (state.goTo pc).vmState = state.vmState := rfl

@[simp] theorem goTo_vcpu (pc : Pc Saved Config Fault) : (state.goTo pc).vcpu = state.vcpu := rfl

@[simp] theorem setVcpu_pc (index : ℕ) (handle : Handle Thread Saved Config Fault) :
    (state.setVcpu index handle).pc = state.pc := rfl

@[simp] theorem setVcpu_vmState (index : ℕ) (handle : Handle Thread Saved Config Fault) :
    (state.setVcpu index handle).vmState = state.vmState := rfl

@[simp] theorem setVcpu_vcpu (index : ℕ) (handle : Handle Thread Saved Config Fault) :
    (state.setVcpu index handle).vcpu = Function.update state.vcpu index handle := rfl

end State

def Command.start : Command → Pc Saved Config Fault
  | .resumeVm => .kicking
  | .saveState => .savingDevices
  | .resumeVcpusAfterKick => .sending .resumeVcpusAfterKick 0
  | .pauseVm => .sending .pauseVm 0
  | .dumpCpuConfig => .sending .dumpCpuConfig 0

/-- What a command makes of the responses of all vCPUs. -/
def Command.conclude (command : Command) (got : List (VcpuResponse Saved Config Fault))
    (state : State Thread Saved Config Fault) : State Thread Saved Config Fault :=
  match command with
  | .resumeVm | .resumeVcpusAfterKick =>
      { state with pc := .returning (.told true), vmState := .running }
  | .pauseVm => { state with pc := .returning (.told true), vmState := .paused }
  | .saveState =>
      match got.mapM savedOf with
      | .ok states => state.goTo (.savingVm states)
      | .error error => state.goTo (.returning (.saved (.error error)))
  | .dumpCpuConfig => state.goTo (.returning (.dumped (got.mapM dumpedOf)))

/-- Where `process` goes on after a response. -/
def afterDrained (next : ℕ) : VcpuResponse Saved Config Fault → Pc Saved Config Fault
  | .exited .ok => .exiting next
  | .exited status => .stopped status
  | _ => .exiting next

/-! ### Steps -/

inductive Label (Saved Config Fault : Type)
  | called (command : Command)
  | kicked
  | devicesSaved
  | sent (index : ℕ) (event : VcpuEvent)
  /-- `send_event` has failed, perhaps after the event was sent. -/
  | sendFailed (index : ℕ) (event : Option VcpuEvent)
  | allSent
  | received (index : ℕ) (response : VcpuResponse Saved Config Fault)
  /-- The command stops at this response. -/
  | refused (index : ℕ) (response : VcpuResponse Saved Config Fault)
  | timedOut (index : ℕ)
  | allReceived
  | vmSaved (well : Bool)
  | returned (outcome : Outcome Saved Config Fault)
  | exitEvent
  | drained (index : ℕ) (response : VcpuResponse Saved Config Fault)
  | exhausted (index : ℕ)
  | allDrained
  | answered (index : ℕ) (event : VcpuEvent) (response : VcpuResponse Saved Config Fault)
  | ran (index : ℕ)
  | exited (index : ℕ) (code : FcExitCode)

section System

variable (threads : Threads Thread Saved Config Fault) (count : ℕ)

inductive Step (state : State Thread Saved Config Fault) :
    Label Saved Config Fault → State Thread Saved Config Fault → Prop
  | called (command : Command) (idle : state.pc = .idle) :
      Step state (.called command) (state.goTo command.start)
  | kicked (kicking : state.pc = .kicking) :
      Step state .kicked (state.goTo (.sending .resumeVm 0))
  | devicesSaved (saving : state.pc = .savingDevices) :
      Step state .devicesSaved (state.goTo (.sending .saveState 0))
  | sent {command next} (sending : state.pc = .sending command next) (more : next < count) :
      Step state (.sent next command.event)
        ((state.send next command.event).goTo (.sending command (next + 1)))
  | lost {command next} (sending : state.pc = .sending command next) (more : next < count) :
      Step state (.sendFailed next none) (state.goTo (.returning command.sendFailure))
  | unsignalled {command next} (sending : state.pc = .sending command next) (more : next < count) :
      Step state (.sendFailed next (some command.event))
        ((state.send next command.event).goTo (.returning command.sendFailure))
  | allSent {command} (sending : state.pc = .sending command count) :
      Step state .allSent (state.goTo (.receiving command []))
  | received {command got response rest} (receiving : state.pc = .receiving command got)
      (more : got.length < count)
      (waiting : (state.vcpu got.length).responses = response :: rest)
      (accepted : command.accepts response = true) :
      Step state (.received got.length response)
        ((state.takeResponse got.length).goTo (.receiving command (got ++ [response])))
  | refused {command got response rest} (receiving : state.pc = .receiving command got)
      (more : got.length < count)
      (waiting : (state.vcpu got.length).responses = response :: rest)
      (other : command.accepts response = false) :
      Step state (.refused got.length response)
        ((state.takeResponse got.length).goTo (.returning (.told false)))
  | timedOut {command got} (receiving : state.pc = .receiving command got)
      (more : got.length < count) (none : (state.vcpu got.length).responses = []) :
      Step state (.timedOut got.length) (state.goTo (.returning command.timeout))
  | allReceived {command got} (receiving : state.pc = .receiving command got)
      (all : got.length = count) :
      Step state .allReceived (command.conclude got state)
  | vmSaved {states} (well : Bool) (saving : state.pc = .savingVm states) :
      Step state (.vmSaved well)
        (state.goTo (.returning (.saved (if well then .ok states else .error .saveVmState))))
  | returned {outcome} (returning : state.pc = .returning outcome) :
      Step state (.returned outcome) (state.goTo .idle)
  | exitEvent (idle : state.pc = .idle) : Step state .exitEvent (state.goTo (.exiting 0))
  | drained {next response rest} (exiting : state.pc = .exiting next) (more : next < count)
      (waiting : (state.vcpu next).responses = response :: rest) :
      Step state (.drained next response)
        ((state.takeResponse next).goTo (afterDrained next response))
  | exhausted {next} (exiting : state.pc = .exiting next) (more : next < count)
      (none : (state.vcpu next).responses = []) :
      Step state (.exhausted next) (state.goTo (.exiting (next + 1)))
  | allDrained (exiting : state.pc = .exiting count) :
      Step state .allDrained (state.goTo (.stopped .ok))
  | answered {index event rest} (below : index < count)
      (waiting : (state.vcpu index).events = event :: rest) :
      Step state (.answered index event (threads.handle (state.vcpu index).thread event).1)
        (state.setVcpu index
          { thread := (threads.handle (state.vcpu index).thread event).2
            events := rest
            responses := (state.vcpu index).responses ++
              [(threads.handle (state.vcpu index).thread event).1] })
  | ran {index} {later : Thread} (below : index < count)
      (running : threads.mode (state.vcpu index).thread = .running)
      (still : threads.mode later = .running) :
      Step state (.ran index) (state.setVcpu index { state.vcpu index with thread := later })
  | exited {index} {code : FcExitCode} {later : Thread} (below : index < count)
      (running : threads.mode (state.vcpu index).thread = .running)
      (ended : threads.mode later = .exited code) :
      Step state (.exited index code)
        (state.setVcpu index
          { state.vcpu index with
            thread := later
            responses := (state.vcpu index).responses ++ [.exited code] })

/-- The VMM after `start_vcpus`, with so many vCPUs. -/
def vmm : TransitionSystem (State Thread Saved Config Fault) (Label Saved Config Fault) where
  Initial state := state.pc = .idle ∧ state.vmState = .paused ∧ ∀ index,
    (state.vcpu index).events = [] ∧ (state.vcpu index).responses = [] ∧
      threads.mode (state.vcpu index).thread = .paused
  Step := Step threads count

end System

/-! ### A sample -/

/-- Threads which are nothing but their mode. -/
def sampleThreads : Threads Mode ℕ Unit Unit where
  mode := id
  savedState _ := 7
  cpuConfig _ := ()
  handle
    | .exited code, _ => (.exited code, .exited code)
    | _, .resume => (.resumed, .running)
    | _, .pause => (.paused, .paused)
    | .paused, .saveState => (.savedState 7, .paused)
    | .paused, .dumpCpuConfig => (.dumpedCpuConfig (), .paused)
    | .running, _ => (.notAllowed "running", .running)

theorem sampleThreads_honest : sampleThreads.Honest := by
  intro thread event
  cases thread <;> cases event <;> simp [sampleThreads, Threads.Means, Mode.Exited]

def sampleStart : State Mode ℕ Unit Unit :=
  ⟨.idle, .paused, fun _ => ⟨.paused, [], []⟩⟩

end Vmm
end HermOS
