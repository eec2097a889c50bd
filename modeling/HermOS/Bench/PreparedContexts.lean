import HermOS.Bench.Workers
import HermOS.Library.FallibleFold
import Mathlib.Logic.Function.Iterate

/-!
# Runners over prepared contexts

Every `prepare` of the operations builds one context per iteration and returns a closure which
takes the front context of its queue at each call.  The operations differ in their contexts, in
what they do with one and in the text for an empty queue.
-/

namespace HermOS
namespace Bench

/-- What one operation does with its contexts. -/
structure ContextOps (Context : Type) where
  /-- The body of the loop of `prepare`, up to `push_back`. -/
  setup : WorkerRunConfig → ℕ → Except String Context
  exhausted : String
  /-- The rest of the closure, once it has taken a context. -/
  runOnce : Context → Except String Unit
  /-- Usage and clock around the calls of a worker. -/
  around : ℕ → PreparedRunner

namespace ContextOps

variable {Context : Type} (ops : ContextOps Context)

/-- The queue which `prepare` fills. -/
def contexts (worker : WorkerRunConfig) : Except String (List Context) :=
  (List.range worker.iterations).foldlM
    (fun contexts iteration => do
      let context ← ops.setup worker iteration
      return contexts ++ [context])
    []

/-- One call of the closure: its result and the queue it leaves. -/
def call : List Context → Except String Unit × List Context
  | [] => (.error ops.exhausted, [])
  | context :: contexts => (ops.runOnce context, contexts)

/-- The queue after some calls of the closure. -/
def queueAfter (contexts : List Context) (calls : ℕ) : List Context :=
  (fun contexts => (ops.call contexts).2)^[calls] contexts

/-- The closure over a queue, call after call. -/
def runner (tid : ℕ) (contexts : List Context) : PreparedRunner := fun calls =>
  { ops.around tid calls with outcome := (ops.call (ops.queueAfter contexts calls)).1 }

def prepare (worker : WorkerRunConfig) : Except String PreparedRunner := do
  let contexts ← ops.contexts worker
  return ops.runner worker.threadId contexts

theorem queueAfter_eq_drop (contexts : List Context) (calls : ℕ) :
    ops.queueAfter contexts calls = contexts.drop calls := by
  induction calls with
  | zero => rfl
  | succ calls ih =>
      have unfolded : ops.queueAfter contexts (calls + 1) =
          (ops.call (ops.queueAfter contexts calls)).2 :=
        Function.iterate_succ_apply' _ _ _
      rw [unfolded, ih, ← List.tail_drop]
      cases contexts.drop calls <;> rfl

/-- `prepare` fills the queue with one context for each iteration. -/
theorem length_contexts {worker : WorkerRunConfig} {contexts : List Context}
    (filled : ops.contexts worker = .ok contexts) : contexts.length = worker.iterations := by
  rw [ContextOps.contexts] at filled
  have counted := FallibleFold.invariant
    (fun (past : List ℕ) (contexts : List Context) => contexts.length = past.length)
    (by
      intro past iteration rest before after _ counted step
      obtain ⟨context, _, appended⟩ := FallibleFold.bind_ok step
      cases appended
      simp [counted])
    rfl filled
  rw [counted, List.length_range]

/-- The queue is not empty before any of the calls it was filled for. -/
theorem queueAfter_ne_nil {worker : WorkerRunConfig} {contexts : List Context} {calls : ℕ}
    (filled : ops.contexts worker = .ok contexts) (left : calls < worker.iterations) :
    ops.queueAfter contexts calls ≠ [] := by
  rw [queueAfter_eq_drop, ne_eq, List.drop_eq_nil_iff, ops.length_contexts filled]
  omega

/-- `prepare` does not fail by itself. -/
theorem prepare_ok (sets : ∀ worker iteration, ∃ context, ops.setup worker iteration = .ok context)
    (worker : WorkerRunConfig) : ∃ runner, ops.prepare worker = .ok runner := by
  have fills : ∃ contexts, ops.contexts worker = .ok contexts := by
    refine FallibleFold.ends (fun contexts iteration _ => ?_) []
    obtain ⟨context, set⟩ := sets worker iteration
    rw [set]
    exact ⟨contexts ++ [context], rfl⟩
  obtain ⟨contexts, filled⟩ := fills
  rw [prepare, filled]
  exact ⟨ops.runner worker.threadId contexts, rfl⟩

end ContextOps

/-! ### `create_firecracker` -/

namespace CreateFirecracker

inductive NetnsMode
  | none
  | full

structure FirecrackerContext (Netns : Type) where
  socketPath : String
  netns : Option Netns

def buildSocketPath (threadId iteration : ℕ) : String :=
  s!"/tmp/firecracker-api/{threadId}-{iteration}.sock"

section PrepareWithNetns

variable {Netns : Type} (removeSocketIfExists : String → Except String Unit)
  (prepareFull : WorkerRunConfig → ℕ → Except String Netns)
  (runOnce : FirecrackerContext Netns → Except String Unit) (around : ℕ → PreparedRunner)

/-- The contexts of `create_firecracker`, over the namespaces which `VmNetnsContext::prepare_full`
answers. -/
def contextOps (mode : NetnsMode) : ContextOps (FirecrackerContext Netns) where
  setup worker iteration := do
    let socketPath := buildSocketPath worker.threadId iteration
    removeSocketIfExists socketPath
    let netns ← match mode with
      | .none => pure none
      | .full => some <$> prepareFull worker iteration
    return ⟨socketPath, netns⟩
  exhausted := "no prepared create_firecracker context left"
  runOnce := runOnce
  around := around

def prepareWithNetns (worker : WorkerRunConfig) (mode : NetnsMode) :
    Except String PreparedRunner :=
  (contextOps removeSocketIfExists prepareFull runOnce around mode).prepare worker

end PrepareWithNetns

end CreateFirecracker
end Bench
end HermOS
