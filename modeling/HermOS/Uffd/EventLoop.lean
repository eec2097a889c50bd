import HermOS.Library.TransitionSystem
import HermOS.Uffd.Handler
import Mathlib.Logic.Function.Basic

/-!
# The event loop of the page handlers

The closure which `Runtime::run` calls on a readable userfaultfd, the queue of the kernel and the
pages it has populated.  Events may arrive at any step.  Each event carries the number of the read
which returned it, so that two equal events are told apart.  A panic ends the process, and a run
with it.
-/

namespace HermOS
namespace Uffd

/-- `userfaultfd::Event`, of the two kinds which the loop accepts. -/
inductive Event
  | pagefault (addr : UInt64)
  | remove (start stop : UInt64)
  deriving DecidableEq

/-- An event and the number of the read which returned it. -/
structure ReadEvent where
  number : ℕ
  event : Event
  deriving DecidableEq

def ReadEvent.isFault (event : ReadEvent) : Bool :=
  match event.event with
  | .pagefault _ => true
  | .remove _ _ => false

/-- Program points of the closure. -/
inductive DispatchPc
  | idle
  | draining
  /-- Reading events until the queue is empty. -/
  | reading (eventsToHandle : List ReadEvent)
  | handling (eventsToHandle : List ReadEvent)
  /-- `Runtime::run` has returned and the count is printed. -/
  | exited
  deriving DecidableEq

/-- The handler with its userfaultfd. -/
structure LoopState where
  queue : List Event
  reads : ℕ
  deferredEvents : List ReadEvent
  pc : DispatchPc
  copiedPages : ℕ
  populated : UInt64 → Bool
  /-- Ranges of the `Remove` events so far. -/
  removed : List (UInt64 × UInt64)

/-- Observable events of a run. -/
inductive LoopLabel
  | arrive (event : Event)
  /-- The kernel drops a page of a removed range. -/
  | zap (page : UInt64)
  | dispatch
  /-- A round begins with the deferred events. -/
  | drain
  | read (event : ReadEvent)
  /-- `read_event` returns `None`. -/
  | quiet
  /-- The page of a fault is copied, with the answer to `UFFDIO_COPY`. -/
  | serve (event : ReadEvent) (page : UInt64) (answer : CopyAnswer)
  | unregister (event : ReadEvent)
  /-- A round ends with deferred events. -/
  | again
  | leave
  | print (copiedPages : ℕ)
  deriving DecidableEq

/-- How the kernel answers a copy to a page. -/
inductive KernelCopy (populated : UInt64 → Bool) (page : UInt64) :
    CopyAnswer → (UInt64 → Bool) → Prop
  | install {bytes : UInt64} (absent : populated page = false) (copied : bytes > 0) :
      KernelCopy populated page (.ok bytes) (Function.update populated page true)
  | present (present : populated page = true) :
      KernelCopy populated page (.copyFailed EEXIST) populated
  /-- A copy is refused while a `Remove` event is pending. -/
  | refused {bytes : UInt64} (again : bytes = 0 ∨ bytes = 0 - EAGAIN) :
      KernelCopy populated page (.partiallyCopied bytes) populated

/-- `unregister_range` accepts a range. -/
def UffdHandler.Unregisters (handler : UffdHandler) (start stop : UInt64) : Prop :=
  handler.pageSize.toNat ∣ start.toNat ∧ handler.pageSize.toNat ∣ stop.toNat ∧ start < stop

/-- Where an event goes whose copy has ended. -/
def LoopState.afterCopy (state : LoopState) (event : ReadEvent) (served : Bool) : LoopState :=
  if served then { state with copiedPages := state.copiedPages + 1 }
  else { state with deferredEvents := state.deferredEvents ++ [event] }

/-- One step of the handler, of its userfaultfd or of the guest. -/
inductive LoopStep (handler : UffdHandler) : LoopState → LoopLabel → LoopState → Prop
  | arriveFault {state : LoopState} (addr : UInt64) (running : state.pc ≠ .exited) :
      LoopStep handler state (.arrive (.pagefault addr))
        { state with queue := state.queue ++ [.pagefault addr] }
  | arriveRemove {state : LoopState} (start stop : UInt64) (running : state.pc ≠ .exited) :
      LoopStep handler state (.arrive (.remove start stop))
        { state with
          queue := state.queue ++ [.remove start stop]
          removed := state.removed ++ [(start, stop)] }
  | zap {state : LoopState} {page start stop : UInt64} (ranged : (start, stop) ∈ state.removed)
      (inside : start ≤ page ∧ page < stop) :
      LoopStep handler state (.zap page)
        { state with populated := Function.update state.populated page false }
  | dispatch {state : LoopState} (at_pc : state.pc = .idle) :
      LoopStep handler state .dispatch { state with deferredEvents := [], pc := .draining }
  | drain {state : LoopState} (at_pc : state.pc = .draining) :
      LoopStep handler state .drain
        { state with deferredEvents := [], pc := .reading state.deferredEvents }
  | read {state : LoopState} {eventsToHandle : List ReadEvent} {event : Event} {queue : List Event}
      (at_pc : state.pc = .reading eventsToHandle) (head : state.queue = event :: queue) :
      LoopStep handler state (.read ⟨state.reads, event⟩)
        { state with
          queue
          reads := state.reads + 1
          pc := .reading (eventsToHandle ++ [⟨state.reads, event⟩]) }
  | quiet {state : LoopState} {eventsToHandle : List ReadEvent}
      (at_pc : state.pc = .reading eventsToHandle) (empty : state.queue = []) :
      LoopStep handler state .quiet { state with pc := .handling eventsToHandle }
  | serve {state : LoopState} {number : ℕ} {addr : UInt64} {rest : List ReadEvent}
      {answer : CopyAnswer} {populated : UInt64 → Bool} {served : Bool}
      (at_pc : state.pc = .handling (⟨number, .pagefault addr⟩ :: rest))
      (found : handler.regionOf (clearBelow addr handler.pageSize) ≠ none)
      (answered : KernelCopy state.populated (clearBelow addr handler.pageSize) answer populated)
      (result : copyFromPtr answer = some served) :
      LoopStep handler state
        (.serve ⟨number, .pagefault addr⟩ (clearBelow addr handler.pageSize) answer)
        ({ state with populated, pc := .handling rest }.afterCopy ⟨number, .pagefault addr⟩ served)
  | unregister {state : LoopState} {number : ℕ} {start stop : UInt64} {rest : List ReadEvent}
      (at_pc : state.pc = .handling (⟨number, .remove start stop⟩ :: rest))
      (valid : handler.Unregisters start stop) :
      LoopStep handler state (.unregister ⟨number, .remove start stop⟩)
        { state with pc := .handling rest }
  | again {state : LoopState} (at_pc : state.pc = .handling [])
      (left : state.deferredEvents ≠ []) :
      LoopStep handler state .again { state with pc := .draining }
  | leave {state : LoopState} (at_pc : state.pc = .handling [])
      (none_left : state.deferredEvents = []) :
      LoopStep handler state .leave { state with pc := .idle }
  | print {state : LoopState} (at_pc : state.pc = .idle) :
      LoopStep handler state (.print state.copiedPages) { state with pc := .exited }

/-- All runs of a handler from its start. -/
def eventLoop (handler : UffdHandler) : TransitionSystem LoopState LoopLabel where
  Initial state := state.reads = 0 ∧ state.deferredEvents = [] ∧ state.pc = .idle ∧
    state.copiedPages = 0 ∧ state.populated = (fun _ => false) ∧ state.removed = [] ∧
    state.queue = []
  Step := LoopStep handler

end Uffd
end HermOS
