import HermOS.Library.TransitionSystem
import Mathlib.Data.Nat.Notation

/-!
# The poll loop and its shutdown signal

`Runtime::run` beside the handler of SIGTERM and SIGINT, which may run at any step.  A signal makes
the poll which it finds blocked return; a poll which begins afterwards does not know of it.
-/

namespace HermOS
namespace Uffd

/-- The bits of `revents` which the loop reads. -/
structure Revents where
  pollin : Bool
  /-- `POLLRDHUP` or `POLLHUP`. -/
  hangup : Bool
  deriving DecidableEq

/-- A descriptor for which `poll` returns has some bit set. -/
def Revents.isReady (revents : Revents) : Bool :=
  revents.pollin || revents.hangup

/-- `libc::pollfd`, always with `events = POLLIN`. -/
structure PollFd where
  fd : ℕ
  revents : Revents
  deriving DecidableEq

/-- Program points of `Runtime::run`. -/
inductive RunPc
  /-- At the head of the loop, before `poll`. -/
  | polling
  /-- Blocked in `poll`, with infinite timeout. -/
  | blocked
  /-- In a `poll` which a signal has interrupted. -/
  | woken
  /-- In the loop over the descriptors, `count` of them, `nready` of which are still to be found. -/
  | handling (index count nready : ℕ)
  /-- At the test of `shutdown_requested()`. -/
  | checking
  | retaining
  | returned
  | panicked
  deriving DecidableEq

/-- The runtime, its signal flag and the readiness of its descriptors. -/
structure RuntimeState where
  shutdownRequested : Bool
  stream : ℕ
  pollfds : List PollFd
  /-- Descriptors in the map of handlers. -/
  uffds : List ℕ
  pc : RunPc
  /-- What a poll would report for a descriptor now. -/
  ready : ℕ → Revents

/-- Whose step it is. -/
inductive RuntimeLabel
  /-- `handle_shutdown_signal` runs. -/
  | signal
  /-- Descriptors become ready, or cease to be. -/
  | environment
  | run
  deriving DecidableEq

namespace RuntimeState

/-- `Runtime::run` before its first poll. -/
def start (stream : ℕ) (ready : ℕ → Revents) : RuntimeState :=
  ⟨false, stream, [⟨stream, ⟨false, false⟩⟩], [], .polling, ready⟩

/-- The polled descriptors with their readiness. -/
def polled (state : RuntimeState) : List PollFd :=
  state.pollfds.map fun pollfd => { pollfd with revents := state.ready pollfd.fd }

/-- The return value of `poll`. -/
def nready (state : RuntimeState) : ℕ :=
  state.polled.countP fun pollfd => pollfd.revents.isReady

/-- `handle_shutdown_signal`, which also interrupts a blocked poll. -/
def signal (state : RuntimeState) : RuntimeState :=
  { state with
    shutdownRequested := true
    pc := if state.pc = .blocked then .woken else state.pc }

def pollReady (state : RuntimeState) : RuntimeState :=
  { state with
    pollfds := state.polled
    pc := .handling 0 state.pollfds.length state.nready }

def retain (state : RuntimeState) : RuntimeState :=
  { state with
    pollfds := state.pollfds.filter fun pollfd => !pollfd.revents.hangup
    pc := .polling }

end RuntimeState

inductive RuntimeStep : RuntimeState → RuntimeLabel → RuntimeState → Prop
  | signal (state : RuntimeState) : RuntimeStep state .signal state.signal
  | environment (state : RuntimeState) (ready : ℕ → Revents) :
      RuntimeStep state .environment { state with ready }
  | enterPoll {state : RuntimeState} (at_pc : state.pc = .polling) :
      RuntimeStep state .run { state with pc := .blocked }
  | pollReady {state : RuntimeState} (at_pc : state.pc = .blocked ∨ state.pc = .woken)
      (some_ready : 0 < state.nready) : RuntimeStep state .run state.pollReady
  | interrupted {state : RuntimeState} (at_pc : state.pc = .woken) (none_ready : state.nready = 0) :
      RuntimeStep state .run
        { state with pc := if state.shutdownRequested then .returned else .panicked }
  | handled {state : RuntimeState} {index count nready : ℕ}
      (at_pc : state.pc = .handling index count nready) (all : count ≤ index ∨ nready = 0) :
      RuntimeStep state .run { state with pc := .checking }
  | skip {state : RuntimeState} {index count nready : ℕ} {pollfd : PollFd}
      (at_pc : state.pc = .handling index count nready) (more : index < count ∧ 0 < nready)
      (at_index : state.pollfds[index]? = some pollfd) (quiet : pollfd.revents.pollin = false) :
      RuntimeStep state .run { state with pc := .handling (index + 1) count nready }
  | accept {state : RuntimeState} {index count nready fd : ℕ} {pollfd : PollFd}
      (at_pc : state.pc = .handling index count nready) (more : index < count ∧ 0 < nready)
      (at_index : state.pollfds[index]? = some pollfd) (readable : pollfd.revents.pollin = true)
      (from_stream : pollfd.fd = state.stream) :
      RuntimeStep state .run
        { state with
          pollfds := state.pollfds ++ [⟨fd, ⟨false, false⟩⟩]
          uffds := fd :: state.uffds
          pc := .handling (index + 1) count (nready - 1) }
  | dispatch {state : RuntimeState} {index count nready : ℕ} {pollfd : PollFd}
      (at_pc : state.pc = .handling index count nready) (more : index < count ∧ 0 < nready)
      (at_index : state.pollfds[index]? = some pollfd) (readable : pollfd.revents.pollin = true)
      (from_uffd : pollfd.fd ≠ state.stream) (known : pollfd.fd ∈ state.uffds) :
      RuntimeStep state .run { state with pc := .handling (index + 1) count (nready - 1) }
  | panic {state : RuntimeState} {index count nready : ℕ}
      (at_pc : state.pc = .handling index count nready) :
      RuntimeStep state .run { state with pc := .panicked }
  | shutdown {state : RuntimeState} (at_pc : state.pc = .checking)
      (requested : state.shutdownRequested = true) :
      RuntimeStep state .run { state with pc := .returned }
  | continue {state : RuntimeState} (at_pc : state.pc = .checking)
      (unrequested : state.shutdownRequested = false) :
      RuntimeStep state .run { state with pc := .retaining }
  | retain {state : RuntimeState} (at_pc : state.pc = .retaining) :
      RuntimeStep state .run state.retain

/-- All interleavings of `Runtime::run` with signals. -/
def runtime : TransitionSystem RuntimeState RuntimeLabel where
  Initial state := ∃ stream ready, state = .start stream ready
  Step := RuntimeStep

/-- Blocked with the flag set and nothing to wake up for. -/
def RuntimeState.Overslept (state : RuntimeState) : Prop :=
  state.shutdownRequested = true ∧ state.pc = .blocked ∧
    ∀ pollfd ∈ state.pollfds, (state.ready pollfd.fd).isReady = false

/-- Between a test which finds no request, or the start, and the next poll. -/
def RunPc.deaf : RunPc → Bool
  | .retaining | .polling => true
  | _ => false

/-- No signal is delivered between a test of the flag and the next poll. -/
def Timely (state : RuntimeState) (label : RuntimeLabel) : Prop :=
  label = .signal → state.pc.deaf = false

/-- The flag is not set from the test to the end of the poll. -/
def Attentive (state : RuntimeState) : Prop :=
  state.pc.deaf = true ∨ state.pc = .blocked → state.shutdownRequested = false

theorem attentive_step {before after : RuntimeState} {label : RuntimeLabel}
    (attentive : Attentive before)
    (step : (runtime.restrict Timely).Step before label after) : Attentive after := by
  obtain ⟨step, timely⟩ := step
  cases step with
  | signal =>
      have heard := timely rfl
      intro waiting
      simp only [RuntimeState.signal] at waiting
      split at waiting
      next => simp [RunPc.deaf] at waiting
      next other => simp [heard, other] at waiting
  | environment ready => exact attentive
  | enterPoll at_pc => exact fun _ => attentive (.inl (by rw [at_pc]; rfl))
  | «continue» at_pc unrequested => exact fun _ => unrequested
  | retain at_pc => exact fun _ => attentive (.inl (by rw [at_pc]; rfl))
  | interrupted at_pc none_ready =>
      intro waiting
      split at waiting <;> simp [RunPc.deaf] at waiting
  | _ => intro waiting; simp [RunPc.deaf, RuntimeState.pollReady] at waiting

/-- If every signal is delivered inside a poll or before the next test, the loop never sleeps
through one. -/
theorem run_not_overslept {state : RuntimeState}
    (reachable : (runtime.restrict Timely).Reachable state) : ¬ state.Overslept := by
  rintro ⟨requested, blocked, _⟩
  have attentive := reachable.invariant Attentive (by
    rintro _ ⟨stream, ready, rfl⟩
    exact fun _ => rfl) attentive_step
  rw [attentive (.inr blocked)] at requested
  cases requested

/-! ### A signal between the test and the poll -/

/-- Nothing is ready. -/
def idleStart : RuntimeState :=
  .start 3 fun _ => ⟨false, false⟩

theorem run_not_overslept_woken : ∃ state, state.shutdownRequested = true ∧ state.pc = .woken ∧
    (runtime.restrict Timely).Reachable state ∧ ¬ state.Overslept := by
  have reachable : (runtime.restrict Timely).Reachable
      ({ idleStart with pc := .blocked } : RuntimeState).signal :=
    ⟨_, idleStart, ⟨3, _, rfl⟩, .cons ⟨.enterPoll rfl, by simp [Timely]⟩ <|
      .cons ⟨.signal _, fun _ => rfl⟩ <| .nil _⟩
  exact ⟨_, rfl, rfl, reachable, run_not_overslept reachable⟩

/-- A signal before the poll is not seen by it. -/
theorem overslept_reachable :
    ∃ state, runtime.Reachable state ∧ state.Overslept :=
  ⟨_, ⟨_, idleStart, ⟨3, _, rfl⟩, .cons (.signal _) <| .cons (.enterPoll rfl) <| .nil _⟩,
    rfl, rfl, fun _ _ => rfl⟩

end Uffd
end HermOS
