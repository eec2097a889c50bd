import Mathlib.Data.List.Basic

/-!
# Labelled transition systems

Runs are finite label lists, oldest first.  Safety arguments use the two closure rules of `Path`;
arguments about what can no longer happen after a label use `Path.split` and restart the closure
rule from the state which the label reaches.
-/

namespace HermOS

/-- A transition system whose steps carry labels. -/
structure TransitionSystem (State Label : Type*) where
  Initial : State → Prop
  Step : State → Label → State → Prop

namespace TransitionSystem

variable {State Label : Type*} {system : TransitionSystem State Label}

/-- `Path before trace after` performs the labels of `trace` in order. -/
inductive Path (system : TransitionSystem State Label) : State → List Label → State → Prop
  | nil (state : State) : Path system state [] state
  | cons {before middle after : State} {label : Label} {trace : List Label} :
      system.Step before label middle → Path system middle trace after →
      Path system before (label :: trace) after

/-- A path from an initial state. -/
def Run (system : TransitionSystem State Label) (trace : List Label) (state : State) : Prop :=
  ∃ initial, system.Initial initial ∧ system.Path initial trace state

/-- Some run ends in the state. -/
def Reachable (system : TransitionSystem State Label) (state : State) : Prop :=
  ∃ trace, system.Run trace state

/-- Some step leaves the state. -/
def Enabled (system : TransitionSystem State Label) (state : State) : Prop :=
  ∃ label after, system.Step state label after

/-- The same system with only the steps which meet a condition. -/
def restrict (system : TransitionSystem State Label) (Allowed : State → Label → Prop) :
    TransitionSystem State Label where
  Initial := system.Initial
  Step before label after := system.Step before label after ∧ Allowed before label

/-- The same system with a history variable, which every step updates and none reads. -/
def withHistory {History : Type*} (system : TransitionSystem State Label) (start : History)
    (note : State → Label → History → History) : TransitionSystem (State × History) Label where
  Initial pair := system.Initial pair.1 ∧ pair.2 = start
  Step before label after :=
    system.Step before.1 label after.1 ∧ after.2 = note before.1 label before.2

namespace Path

theorem trans {before middle after : State} {front back : List Label}
    (first : system.Path before front middle) (second : system.Path middle back after) :
    system.Path before (front ++ back) after := by
  induction first with
  | nil => exact second
  | cons step _ ih => exact .cons step (ih second)

theorem split {before after : State} {front back : List Label}
    (path : system.Path before (front ++ back) after) :
    ∃ middle, system.Path before front middle ∧ system.Path middle back after := by
  induction front generalizing before with
  | nil => exact ⟨before, .nil before, path⟩
  | cons label front ih =>
      cases path with
      | cons step rest =>
          obtain ⟨middle, left, right⟩ := ih rest
          exact ⟨middle, .cons step left, right⟩

/-- A property closed under steps holds at the end of every path which starts in it. -/
theorem invariant (Inv : State → Prop)
    (closed : ∀ {before label after}, Inv before → system.Step before label after → Inv after)
    {before after : State} {trace : List Label} (path : system.Path before trace after)
    (start : Inv before) : Inv after := by
  induction path with
  | nil => exact start
  | cons step _ ih => exact ih (closed start step)

/-- The closure rule for a property which also reads the labels performed so far. -/
theorem invariant_trace (Inv : List Label → State → Prop)
    (closed : ∀ {past before label after}, Inv past before → system.Step before label after →
      Inv (past ++ [label]) after)
    {before after : State} {past trace : List Label} (path : system.Path before trace after)
    (start : Inv past before) : Inv (past ++ trace) after := by
  induction path generalizing past with
  | nil => simpa using start
  | cons step _ ih => simpa [List.append_assoc] using ih (closed start step)

/-- Every label of a path is performed from a state which satisfies the closed property. -/
theorem forall_label (Inv : State → Prop) {Allowed : Label → Prop}
    (closed : ∀ {before label after}, Inv before → system.Step before label after → Inv after)
    (allowed : ∀ {before label after}, Inv before → system.Step before label after →
      Allowed label)
    {before after : State} {trace : List Label} (path : system.Path before trace after)
    (start : Inv before) : ∀ label ∈ trace, Allowed label := by
  induction path with
  | nil => simp
  | cons step _ ih =>
      intro label member
      rcases List.mem_cons.mp member with rfl | later
      · exact allowed start step
      · exact ih (closed start step) label later

/-- A rank which every step lowers bounds the length of a path. -/
theorem length_add_le (Inv : State → Prop) (rank : State → ℕ)
    (closed : ∀ {before label after}, Inv before → system.Step before label after → Inv after)
    (falls : ∀ {before label after}, Inv before → system.Step before label after →
      rank after < rank before)
    {before after : State} {trace : List Label} (path : system.Path before trace after)
    (start : Inv before) : trace.length + rank after ≤ rank before := by
  induction path with
  | nil => simp
  | cons step _ ih =>
      have later := ih (closed start step)
      have lower := falls start step
      rw [List.length_cons]
      omega

/-- A rank which every step lowers leads to a state without steps. -/
theorem exists_stuck (Inv : State → Prop) (rank : State → ℕ)
    (closed : ∀ {before label after}, Inv before → system.Step before label after → Inv after)
    (falls : ∀ {before label after}, Inv before → system.Step before label after →
      rank after < rank before)
    (before : State) (start : Inv before) :
    ∃ trace after, system.Path before trace after ∧ Inv after ∧ ¬ system.Enabled after := by
  induction height : rank before using Nat.strongRecOn generalizing before with
  | ind _ ih =>
      subst height
      by_cases enabled : system.Enabled before
      · obtain ⟨label, middle, step⟩ := enabled
        obtain ⟨trace, after, path, kept, stuck⟩ :=
          ih _ (falls start step) middle (closed start step) rfl
        exact ⟨label :: trace, after, .cons step path, kept, stuck⟩
      · exact ⟨[], before, .nil before, start, enabled⟩

theorem of_restrict {Allowed : State → Label → Prop} {before after : State} {trace : List Label}
    (path : (system.restrict Allowed).Path before trace after) :
    system.Path before trace after := by
  induction path with
  | nil state => exact .nil state
  | cons step _ ih => exact .cons step.1 ih

/-- A condition which every step meets excludes none. -/
theorem restrict {Allowed : State → Label → Prop} (allowed : ∀ before label, Allowed before label)
    {before after : State} {trace : List Label} (path : system.Path before trace after) :
    (system.restrict Allowed).Path before trace after := by
  induction path with
  | nil state => exact .nil state
  | cons step _ ih => exact .cons ⟨step, allowed _ _⟩ ih

theorem withHistory {History : Type*} {before after : State} {trace : List Label}
    (path : system.Path before trace after) (start : History)
    (note : State → Label → History → History) (history : History) :
    ∃ later, (system.withHistory start note).Path (before, history) trace (after, later) := by
  induction path generalizing history with
  | nil state => exact ⟨history, .nil _⟩
  | @cons before middle _ label _ step _ ih =>
      obtain ⟨later, rest⟩ := ih (note before label history)
      have noted : (system.withHistory start note).Step (before, history) label
          (middle, note before label history) := ⟨step, rfl⟩
      exact ⟨later, .cons noted rest⟩

end Path

theorem Run.reachable {trace : List Label} {state : State} (run : system.Run trace state) :
    system.Reachable state :=
  ⟨trace, run⟩

theorem Run.extend {trace : List Label} {before after : State} {label : Label}
    (run : system.Run trace before) (step : system.Step before label after) :
    system.Run (trace ++ [label]) after := by
  obtain ⟨initial, start, path⟩ := run
  exact ⟨initial, start, path.trans (.cons step (.nil after))⟩

theorem Run.split {front back : List Label} {state : State}
    (run : system.Run (front ++ back) state) :
    ∃ middle, system.Run front middle ∧ system.Path middle back state := by
  obtain ⟨initial, start, path⟩ := run
  obtain ⟨middle, left, right⟩ := path.split
  exact ⟨middle, ⟨initial, start, left⟩, right⟩

theorem Reachable.invariant (Inv : State → Prop)
    (initially : ∀ {state}, system.Initial state → Inv state)
    (closed : ∀ {before label after}, Inv before → system.Step before label after → Inv after)
    {state : State} (reachable : system.Reachable state) : Inv state := by
  obtain ⟨_, initial, start, path⟩ := reachable
  exact path.invariant Inv closed (initially start)

theorem Reachable.restrict {Allowed : State → Label → Prop}
    (allowed : ∀ before label, Allowed before label) {state : State}
    (reachable : system.Reachable state) : (system.restrict Allowed).Reachable state := by
  obtain ⟨trace, initial, start, path⟩ := reachable
  exact ⟨trace, initial, start, path.restrict allowed⟩

/-- A history variable excludes no state. -/
theorem Reachable.withHistory {History : Type*} {state : State}
    (reachable : system.Reachable state) (start : History)
    (note : State → Label → History → History) :
    ∃ history, (system.withHistory start note).Reachable (state, history) := by
  obtain ⟨trace, initial, begins, path⟩ := reachable
  obtain ⟨later, path⟩ := path.withHistory start note start
  exact ⟨later, trace, (initial, start), ⟨begins, rfl⟩, path⟩

theorem Reachable.step {before after : State} {label : Label}
    (reachable : system.Reachable before) (step : system.Step before label after) :
    system.Reachable after := by
  obtain ⟨trace, run⟩ := reachable
  exact ⟨trace ++ [label], run.extend step⟩

end TransitionSystem
end HermOS
