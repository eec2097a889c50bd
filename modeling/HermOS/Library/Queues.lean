import HermOS.Library.TransitionSystem

/-!
# Queues of a run

A queue of a system has what was put into it and was not taken yet.  If every step takes from the
front and puts at the back, what a run takes comes out in the order in which it went in.
-/

namespace HermOS
namespace TransitionSystem

variable {State Label Item : Type*} {system : TransitionSystem State Label}
  {puts takes : Label → List Item} {queue : State → List Item}

/-- Every step takes from the front of the queue and puts at its back. -/
def FirstInFirstOut (system : TransitionSystem State Label) (puts takes : Label → List Item)
    (queue : State → List Item) : Prop :=
  ∀ {before label after}, system.Step before label after →
    queue before ++ puts label = takes label ++ queue after

theorem FirstInFirstOut.path (ordered : system.FirstInFirstOut puts takes queue)
    {before after : State} {trace : List Label} (path : system.Path before trace after) :
    queue before ++ trace.flatMap puts = trace.flatMap takes ++ queue after := by
  induction path with
  | nil state => simp
  | @cons before middle after label trace step _ ih =>
      have first := ordered step
      calc
        queue before ++ (label :: trace).flatMap puts =
            (queue before ++ puts label) ++ trace.flatMap puts := by simp
        _ = takes label ++ (queue middle ++ trace.flatMap puts) := by rw [first]; simp
        _ = (label :: trace).flatMap takes ++ queue after := by rw [ih]; simp

/-- In a run from an empty queue, whatever was taken so far was put in first. -/
theorem FirstInFirstOut.run (ordered : system.FirstInFirstOut puts takes queue)
    (empty : ∀ state, system.Initial state → queue state = []) {state : State} {trace : List Label}
    (run : system.Run trace state) : trace.flatMap puts = trace.flatMap takes ++ queue state := by
  obtain ⟨initial, start, path⟩ := run
  have whole := ordered.path path
  rwa [empty initial start, List.nil_append] at whole

end TransitionSystem
end HermOS
