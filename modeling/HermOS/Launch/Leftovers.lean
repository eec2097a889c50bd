import HermOS.Launch.StartUp

/-!
# What a failed start-up leaves behind

A helper which raises has returned nothing, so that what it had started before is unknown to the
`finally` block of `main`.
-/

namespace HermOS
namespace Launch

open Python

/-! ### One namespace -/

theorem ns_injective {i j : ℕ} {up : Text} (same : (nsinfo i up).ns = (nsinfo j up).ns) : i = j :=
  decimal_injective (List.cons.inj (List.cons.inj same).2).2

/-- What `setup` makes and `cleanup` deletes. -/
def NsInfo.resources (n : NsInfo) : List Resource :=
  (if n.up ≠ [] then [.nat n.subnet n.up] else []) ++ [.veth n.hv, .netns n.ns]

theorem process_not_mem_resources {process : Process} {n : NsInfo} :
    .process process ∉ n.resources := by
  by_cases routed : n.up = []
  · simp [NsInfo.resources, routed]
  · simp [NsInfo.resources, routed]

section Setup

variable {failure : Option Point} {i : ℕ} {n : NsInfo} {resource : Resource}

theorem closed_cleanup : effects.Closed (cleanup n) resource ↔ resource ∈ n.resources := by
  by_cases routed : n.up = []
  · simp [Brackets.Closed, effects, cleanup, NsInfo.resources, routed, Event.closes, eq_comm]
  · simp [Brackets.Closed, effects, cleanup, NsInfo.resources, routed, Event.closes, eq_comm]

theorem not_held_cleanup : ¬ effects.Held (cleanup n) resource := by
  intro held
  obtain ⟨event, inside, opened⟩ := held.opened
  by_cases routed : n.up = []
  · rw [cleanup, routed] at inside
    simp at inside
    rcases inside with rfl | rfl <;> cases opened
  · simp [cleanup, routed] at inside
    rcases inside with rfl | rfl | rfl <;> cases opened

theorem opens_setupCommands {command : Command} (inside : command ∈ setupCommands n)
    (opened : Event.opens (.ran command) = some resource) : resource ∈ n.resources := by
  rw [setupCommands, List.mem_append] at inside
  rcases inside with inside | inside
  · simp only [List.mem_cons, List.not_mem_nil, or_false] at inside
    rcases inside with rfl | rfl | rfl | rfl | rfl | rfl | rfl | rfl | rfl | rfl | rfl | rfl <;>
      cases opened <;> simp [NsInfo.resources]
  · split at inside
    next routed =>
      rw [List.mem_singleton.mp inside] at opened
      cases opened
      simp [NsInfo.resources, routed]
    next => cases inside

theorem closes_setupCommands {command : Command} (inside : command ∈ setupCommands n) :
    Event.closes (.ran command) = none := by
  rw [setupCommands, List.mem_append] at inside
  rcases inside with inside | inside
  · simp only [List.mem_cons, List.not_mem_nil, or_false] at inside
    rcases inside with rfl | rfl | rfl | rfl | rfl | rfl | rfl | rfl | rfl | rfl | rfl | rfl <;> rfl
  · split at inside
    next => rw [List.mem_singleton.mp inside]; rfl
    next => cases inside

/-- `setup` runs its commands up to the one at which it raises. -/
theorem shAll_cases (commands : List Command) (next : ℕ) :
    (shAll failure i next commands = ⟨commands.map .ran, some ()⟩ ∧
        ∀ j < commands.length, failure ≠ some (.setup i (next + j))) ∨
      ∃ j < commands.length, failure = some (.setup i (next + j)) ∧
        shAll failure i next commands = ⟨(commands.take j).map .ran, none⟩ := by
  induction commands generalizing next with
  | nil => exact .inl ⟨rfl, by simp⟩
  | cons command commands ih =>
      by_cases here : failure = some (.setup i next)
      · refine .inr ⟨0, Nat.succ_pos _, here, ?_⟩
        have raises : raiseAt failure (.setup i next) = ⟨[], none⟩ := by
          rw [raiseAt, if_pos here]
        rw [shAll, Attempt.bind_none raises]
        rfl
      · have passes : raiseAt failure (.setup i next) = ⟨[], some ()⟩ := by
          rw [raiseAt, if_neg here]
        have rest : ∀ {events value}, shAll failure i (next + 1) commands = ⟨events, value⟩ →
            shAll failure i next (command :: commands) = ⟨.ran command :: events, value⟩ := by
          intro events value same
          rw [shAll, Attempt.bind_some passes, Attempt.bind_some rfl, same]
          rfl
        rcases ih (next + 1) with ⟨returned, other⟩ | ⟨j, short, found, raised⟩
        · refine .inl ⟨rest returned, ?_⟩
          rintro (_ | j) short
          · exact here
          · rw [← Nat.succ_add_eq_add_succ]
            exact other j (Nat.lt_of_succ_lt_succ short)
        · refine .inr ⟨j + 1, Nat.succ_lt_succ short, ?_, rest raised⟩
          rw [← Nat.succ_add_eq_add_succ]
          exact found

theorem not_closed_commands {commands : List Command}
    (listed : ∀ command ∈ commands, command ∈ setupCommands n) :
    ¬ effects.Closed (commands.map Event.ran) resource := by
  rintro ⟨event, inside, closes⟩
  obtain ⟨command, member, rfl⟩ := List.mem_map.mp inside
  exact absurd ((closes_setupCommands (listed command member)).symm.trans closes) (by simp)

theorem resource_of_held_commands {commands : List Command}
    (listed : ∀ command ∈ commands, command ∈ setupCommands n)
    (held : effects.Held (commands.map Event.ran) resource) : resource ∈ n.resources := by
  obtain ⟨event, inside, opened⟩ := held.opened
  obtain ⟨command, member, rfl⟩ := List.mem_map.mp inside
  exact opens_setupCommands (listed command member) opened

/-- How `setup` ends: it makes everything, or nothing is left of what it has made. -/
theorem setup_cases :
    (setup failure i n = ⟨cleanup n ++ (setupCommands n).map .ran, some n⟩ ∧
        ∀ j < (setupCommands n).length, failure ≠ some (.setup i j)) ∨
      ∃ j < (setupCommands n).length, failure = some (.setup i j) ∧
        setup failure i n =
          ⟨cleanup n ++ ((setupCommands n).take j).map .ran ++ cleanup n, none⟩ := by
  rcases @shAll_cases failure i (setupCommands n) 0 with
    ⟨returned, other⟩ | ⟨j, short, found, raised⟩
  · refine .inl ⟨by rw [setup, returned], ?_⟩
    simpa using other
  · rw [Nat.zero_add] at found
    exact .inr ⟨j, short, found, by rw [setup, raised]⟩

theorem closed_setup : effects.Closed (setup failure i n).events resource →
    resource ∈ n.resources := by
  rcases @setup_cases failure i n with ⟨returned, _⟩ | ⟨j, _, _, raised⟩
  · rw [returned, Brackets.closed_append, closed_cleanup]
    rintro (cleaned | closed)
    · exact cleaned
    · exact absurd closed (not_closed_commands fun _ inside => inside)
  · rw [raised, Brackets.closed_append, Brackets.closed_append, closed_cleanup]
    rintro ((cleaned | closed) | cleaned)
    · exact cleaned
    · exact absurd closed (not_closed_commands fun _ inside => List.mem_of_mem_take inside)
    · exact cleaned

/-- A `setup` which raises holds nothing. -/
theorem not_held_of_raised (raised : (setup failure i n).value = none) :
    ¬ effects.Held (setup failure i n).events resource := by
  rcases @setup_cases failure i n with ⟨returned, _⟩ | ⟨j, _, _, same⟩
  · rw [returned] at raised
    cases raised
  · rw [same]
    intro held
    rcases Brackets.held_append.mp held with ⟨earlier, open_still⟩ | cleaned
    · rcases Brackets.held_append.mp earlier with ⟨cleaned, _⟩ | made
      · exact not_held_cleanup cleaned
      · exact open_still (closed_cleanup.mpr
          (resource_of_held_commands (fun _ inside => List.mem_of_mem_take inside) made))
    · exact not_held_cleanup cleaned

/-- A `setup` holds what `cleanup` deletes. -/
theorem resource_of_held_setup (held : effects.Held (setup failure i n).events resource) :
    resource ∈ n.resources := by
  rcases @setup_cases failure i n with ⟨returned, _⟩ | ⟨j, _, _, raised⟩
  · rw [returned] at held
    rcases Brackets.held_append.mp held with ⟨cleaned, _⟩ | made
    · exact absurd cleaned not_held_cleanup
    · exact resource_of_held_commands (fun _ inside => inside) made
  · exact absurd held (not_held_of_raised (by rw [raised]))

/-- A `setup` which returns holds its namespace. -/
theorem held_netns (returned : (setup failure i n).value ≠ none) :
    effects.Held (setup failure i n).events (.netns n.ns) := by
  rcases @setup_cases failure i n with ⟨same, _⟩ | ⟨j, _, _, raised⟩
  · rw [same]
    have made : Event.ran (.netnsAdd n.ns) ∈ (setupCommands n).map Event.ran :=
      List.mem_map_of_mem List.mem_cons_self
    exact Brackets.Held.append_left
      (Brackets.held_of_opened made rfl (not_closed_commands fun _ inside => inside))
  · exact absurd (by rw [raised]) returned

theorem setup_value : (setup failure i n).value = some n ∨ (setup failure i n).value = none := by
  rcases @setup_cases failure i n with ⟨returned, _⟩ | ⟨j, _, _, raised⟩
  · exact .inl (by rw [returned])
  · exact .inr (by rw [raised])

theorem setup_raises_iff : (setup failure i n).value = none ↔
    ∃ j < (setupCommands n).length, failure = some (.setup i j) := by
  rcases @setup_cases failure i n with ⟨returned, other⟩ | ⟨j, short, found, raised⟩
  · rw [returned]
    constructor
    · rintro ⟨⟩
    · rintro ⟨j, short, found⟩
      exact absurd found (other j short)
  · rw [raised]
    exact ⟨fun _ => ⟨j, short, found⟩, fun _ => rfl⟩

end Setup

/-! ### The `finally` block -/

theorem closed_stop {procs : List Process} {resource : Resource} :
    effects.Closed (stop procs) resource ↔ ∃ process ∈ procs, resource = .process process := by
  constructor
  · rintro ⟨event, inside, closes⟩
    obtain ⟨process, listed, rfl⟩ := List.mem_map.mp inside
    exact ⟨process, listed, (Option.some.inj closes).symm⟩
  · rintro ⟨process, listed, rfl⟩
    exact ⟨.stopped process, List.mem_map_of_mem listed, rfl⟩

theorem not_held_stop {procs : List Process} {resource : Resource} :
    ¬ effects.Held (stop procs) resource := by
  intro held
  obtain ⟨event, inside, opened⟩ := held.opened
  obtain ⟨process, _, rfl⟩ := List.mem_map.mp inside
  cases opened

/-- The processes which `main` knows. -/
def Locals.processes (known : Locals) : List Process :=
  known.fcProcs ++ known.uffdProcs ++ known.proxyProc.toList

/-- The `finally` block takes back what `main` knows. -/
def Locals.Covers (known : Locals) (resource : Resource) : Prop :=
  (∃ process ∈ known.processes, resource = .process process) ∨
    ∃ n ∈ known.netns, resource ∈ n.resources

theorem closed_finally {known : Locals} {resource : Resource} :
    effects.Closed known.cleanup resource ↔ known.Covers resource := by
  have joined : stop known.fcProcs ++ stop known.uffdProcs ++ stop known.proxyProc.toList =
      stop known.processes := by
    simp only [stop, Locals.processes, List.map_append]
  rw [Locals.cleanup, cleanupSandboxes, joined, Brackets.closed_append, closed_stop,
    Brackets.closed_flatMap]
  simp only [List.mem_reverse, closed_cleanup, Locals.Covers]

theorem not_held_finally {known : Locals} {resource : Resource} :
    ¬ effects.Held known.cleanup resource := by
  intro held
  rcases Brackets.held_append.mp held with ⟨stopped, _⟩ | cleaned
  · rcases Brackets.held_append.mp stopped with ⟨stopped, _⟩ | stopped
    · rcases Brackets.held_append.mp stopped with ⟨stopped, _⟩ | stopped
      · exact not_held_stop stopped
      · exact not_held_stop stopped
    · exact not_held_stop stopped
  · obtain ⟨n, _, cleaned⟩ := cleaned.flatMap
    exact not_held_cleanup cleaned

/-! ### Statements -/

/-- What a statement holds is covered by the variables which it leaves, and they still cover what
the earlier ones covered, unless it was taken back. -/
def Tidy (statement : Statement) (known : Locals) : Prop :=
  match statement known with
  | ⟨events, none⟩ => ∀ resource, effects.Held events resource → known.Covers resource
  | ⟨events, some assigned⟩ =>
      (∀ resource, effects.Held events resource → assigned.Covers resource) ∧
        ∀ resource, known.Covers resource →
          effects.Closed events resource ∨ assigned.Covers resource

theorem runStatements_raises {statement : Statement} {statements : List Statement} {known : Locals}
    {events : List Event} (raises : statement known = ⟨events, none⟩) :
    runStatements (statement :: statements) known = (events, known) := by
  rw [runStatements, raises]

theorem runStatements_returns {statement : Statement} {statements : List Statement}
    {known assigned : Locals} {events : List Event}
    (returns : statement known = ⟨events, some assigned⟩) :
    runStatements (statement :: statements) known =
      (events ++ (runStatements statements assigned).1, (runStatements statements assigned).2) := by
  rw [runStatements, returns]

/-- Every statement which is reached is tidy. -/
def TidyRun : List Statement → Locals → Prop
  | [], _ => True
  | statement :: statements, known => Tidy statement known ∧
      ∀ assigned, (statement known).value = some assigned → TidyRun statements assigned

/-- What tidy statements hold, `main` knows. -/
theorem covers_of_tidyRun {statements : List Statement} {known : Locals} {before : List Event}
    (tidy : TidyRun statements known)
    (covered : ∀ resource, effects.Held before resource → known.Covers resource) :
    ∀ resource, effects.Held (before ++ (runStatements statements known).1) resource →
      (runStatements statements known).2.Covers resource := by
  induction statements generalizing known before with
  | nil =>
      rw [runStatements, List.append_nil]
      exact covered
  | cons statement statements ih =>
      obtain ⟨here, later⟩ := tidy
      unfold Tidy at here
      rcases outcome : statement known with ⟨events, _ | assigned⟩
      · rw [outcome] at here
        rw [runStatements_raises outcome]
        intro resource held
        rcases Brackets.held_append.mp held with ⟨earlier, _⟩ | held
        · exact covered resource earlier
        · exact here resource held
      · rw [outcome] at here
        obtain ⟨held_covered, still_covered⟩ := here
        rw [runStatements_returns outcome, ← List.append_assoc]
        refine ih (later assigned (by rw [outcome])) fun resource held => ?_
        rcases Brackets.held_append.mp held with ⟨earlier, kept⟩ | held
        · exact (still_covered resource (covered resource earlier)).resolve_left kept
        · exact held_covered resource held

theorem not_covers_empty {resource : Resource} : ¬ Locals.Covers {} resource := by
  rintro (⟨process, listed, _⟩ | ⟨n, listed, _⟩) <;> cases listed

/-- If every statement which is reached is tidy, nothing is left. -/
theorem leavesNothing_of_tidyRun {failure : Option Point} {up : Text} {count : ℕ}
    (tidy : TidyRun (tryBlock failure up count) {}) : LeavesNothing (main failure up count) := by
  intro resource held
  rcases Brackets.held_append.mp held with ⟨held, kept⟩ | held
  · have none : ∀ resource, effects.Held [] resource → Locals.Covers {} resource := by
      intro resource held
      obtain ⟨_, inside, _⟩ := held.opened
      cases inside
    exact kept (closed_finally.mpr (covers_of_tidyRun tidy none resource held))
  · exact not_held_finally held

/-! ### Where a start-up may raise -/

/-- The helper which raises has started nothing which it has to hand over. -/
def HandedOver (failure : Option Point) (up : Text) (count : ℕ) : Prop :=
  match failure with
  | some .proxyWait => False
  | some (.setup i j) => i = 0 ∨ count ≤ i ∨ (setupCommands (nsinfo i up)).length ≤ j
  | some (.firecracker i) | some (.uffdWait i) => count ≤ i
  | some (.uffdSpawn i) => i = 0 ∨ count ≤ i
  | _ => True

section Points

variable {failure : Option Point} {up : Text} {count : ℕ} {resource : Resource}

theorem raiseAt_cases (failure : Option Point) (point : Point) :
    (failure = some point ∧ raiseAt failure point = ⟨[], none⟩) ∨
      (failure ≠ some point ∧ raiseAt failure point = ⟨[], some ()⟩) := by
  by_cases here : failure = some point
  · exact .inl ⟨here, by rw [raiseAt, if_pos here]⟩
  · exact .inr ⟨here, by rw [raiseAt, if_neg here]⟩

/-- A process is spawned and then waited for. -/
def startAndWait (failure : Option Point) (spawn wait : Point) (process : Process) :
    Attempt Event Process := do
  raiseAt failure spawn
  ⟨[.spawned process], some ()⟩
  raiseAt failure wait
  pure process

theorem startAndWait_cases (failure : Option Point) (spawn wait : Point) (process : Process) :
    (failure = some spawn ∧ startAndWait failure spawn wait process = ⟨[], none⟩) ∨
      (failure ≠ some spawn ∧ failure = some wait ∧
        startAndWait failure spawn wait process = ⟨[.spawned process], none⟩) ∨
      (failure ≠ some spawn ∧ failure ≠ some wait ∧
        startAndWait failure spawn wait process = ⟨[.spawned process], some process⟩) := by
  unfold startAndWait
  rcases raiseAt_cases failure spawn with ⟨here, raises⟩ | ⟨other, passes⟩
  · exact .inl ⟨here, Attempt.bind_none raises⟩
  · rw [Attempt.bind_some passes]
    rcases raiseAt_cases failure wait with ⟨here, raises⟩ | ⟨later, passes⟩
    · refine .inr (.inl ⟨other, here, ?_⟩)
      rw [Attempt.bind_some rfl, Attempt.bind_none raises]
      rfl
    · refine .inr (.inr ⟨other, later, ?_⟩)
      rw [Attempt.bind_some rfl, Attempt.bind_some passes]
      rfl

theorem startProxy_eq : startProxy failure =
    startAndWait failure .proxySpawn .proxyWait .proxy :=
  rfl

theorem startRemoteUffd_eq (i : ℕ) : startRemoteUffd failure i =
    startAndWait failure (.uffdSpawn i) (.uffdWait i) (.uffdHandler i) :=
  rfl

theorem held_spawned {process : Process} :
    effects.Held [.spawned process] resource ↔ resource = .process process := by
  constructor
  · intro held
    obtain ⟨event, inside, opened⟩ := held.opened
    rw [List.mem_singleton.mp inside] at opened
    exact (Option.some.inj opened).symm
  · rintro rfl
    exact ⟨[], _, [], rfl, rfl, Brackets.not_closed_nil⟩

theorem not_held_nil : ¬ effects.Held [] resource := by
  intro held
  obtain ⟨_, inside, _⟩ := held.opened
  cases inside

theorem not_closed_spawned {process : Process} :
    ¬ effects.Closed [.spawned process] resource := by
  rintro ⟨event, inside, closes⟩
  rw [List.mem_singleton.mp inside] at closes
  cases closes

/-- A process which was waited for is returned. -/
theorem startAndWait_held {spawn wait : Point} {process value : Process}
    (returned : (startAndWait failure spawn wait process).value = some value)
    (held : effects.Held (startAndWait failure spawn wait process).events resource) :
    resource = .process value := by
  rcases startAndWait_cases failure spawn wait process with
    ⟨_, same⟩ | ⟨_, _, same⟩ | ⟨_, _, same⟩
  · rw [same] at returned
    cases returned
  · rw [same] at returned
    cases returned
  · rw [same] at returned held
    cases returned
    exact held_spawned.mp held

theorem startFirecracker_cases (failure : Option Point) (i : ℕ) (n : NsInfo) :
    (failure = some (.firecracker i) ∧ startFirecracker failure i n = ⟨[], none⟩) ∨
      (failure ≠ some (.firecracker i) ∧ startFirecracker failure i n =
        ⟨[.spawned (.firecracker i n.ns)], some (.firecracker i n.ns)⟩) := by
  unfold startFirecracker
  rcases raiseAt_cases failure (.firecracker i) with ⟨here, raises⟩ | ⟨other, passes⟩
  · exact .inl ⟨here, Attempt.bind_none raises⟩
  · exact .inr ⟨other, Attempt.bind_some passes⟩

theorem not_closed_startFirecracker {i : ℕ} {n : NsInfo} :
    ¬ effects.Closed (startFirecracker failure i n).events resource := by
  rcases startFirecracker_cases failure i n with ⟨_, same⟩ | ⟨_, same⟩
  · rw [same]
    exact Brackets.not_closed_nil
  · rw [same]
    exact not_closed_spawned

/-- The namespaces of all sandboxes. -/
def setupAll (failure : Option Point) (up : Text) (count : ℕ) : Attempt Event (List NsInfo) :=
  Attempt.comprehension (fun i => setup failure i (nsinfo i up)) (List.range count)

def startAll (failure : Option Point) (netns : List NsInfo) : Attempt Event (List Process) :=
  Attempt.comprehension (fun item => startFirecracker failure item.2 item.1) netns.zipIdx

theorem setupAll_raises (raised : (setupAll failure up count).value = none) :
    ∃ i j, failure = some (.setup i j) ∧ i < count ∧ j < (setupCommands (nsinfo i up)).length ∧
      (∀ earlier < i, (setup failure earlier (nsinfo earlier up)).value ≠ none) ∧
      (setupAll failure up count).events =
        ((List.range i).flatMap fun j => (setup failure j (nsinfo j up)).events) ++
          (setup failure i (nsinfo i up)).events ∧
      (setup failure i (nsinfo i up)).value = none := by
  obtain ⟨i, small, returns, raises, same⟩ := Attempt.comprehension_range raised
  obtain ⟨j, short, found⟩ := setup_raises_iff.mp raises
  exact ⟨i, j, found, small, short, returns, same, raises⟩

theorem closed_setup_netns {i j : ℕ}
    (closed : effects.Closed (setup failure i (nsinfo i up)).events (.netns (nsinfo j up).ns)) :
    j = i := by
  have listed := closed_setup closed
  rw [NsInfo.resources, List.mem_append] at listed
  rcases listed with listed | listed
  · split at listed
    next => cases List.mem_singleton.mp listed
    next => cases listed
  · simp only [List.mem_cons, reduceCtorEq, false_or, List.not_mem_nil, or_false,
      Resource.netns.injEq] at listed
    exact ns_injective listed

/-- The first namespace is held behind any others. -/
theorem held_first_netns {others : List ℕ} (positive : 0 ∉ others)
    (returned : (setup failure 0 (nsinfo 0 up)).value ≠ none) :
    effects.Held ((0 :: others).flatMap fun i => (setup failure i (nsinfo i up)).events)
      (.netns (nsinfo 0 up).ns) := by
  refine @Brackets.held_flatMap _ _ _ _ _ _ [] others 0 (held_netns returned) ?_
  intro later listed closed
  exact positive (closed_setup_netns closed ▸ listed)

theorem setupAll_returns {netns : List NsInfo}
    (returned : (setupAll failure up count).value = some netns) :
    netns.length = count ∧
      (∀ i < count, (setup failure i (nsinfo i up)).value ≠ none) ∧
      ∀ resource, effects.Held (setupAll failure up count).events resource →
        ∃ n ∈ netns, resource ∈ n.resources := by
  obtain ⟨_, each⟩ := Attempt.comprehension_returned returned
  refine ⟨?_, fun i small => ?_, fun resource held => Attempt.held_values ?_ returned held⟩
  · rw [← each.length_eq, List.length_range]
  · obtain ⟨n, _, made⟩ := (FallibleFold.partners each).1 i (List.mem_range.mpr small)
    rw [made]
    exact Option.some_ne_none n
  · intro i n made held
    rcases @setup_value failure i (nsinfo i up) with same | raised
    · obtain rfl : nsinfo i up = n := Option.some.inj (same.symm.trans made)
      exact resource_of_held_setup held
    · rw [raised] at made
      cases made

theorem setupAll_held_first {netns : List NsInfo}
    (returned : (setupAll failure up count).value = some netns) (positive : 0 < count) :
    effects.Held (setupAll failure up count).events (.netns (nsinfo 0 up).ns) := by
  have first := (setupAll_returns returned).2.1 0 positive
  rw [setupAll, (Attempt.comprehension_returned returned).1]
  obtain ⟨rest, rfl⟩ := Nat.exists_eq_add_of_lt positive
  rw [Nat.zero_add, List.range_succ_eq_map]
  exact held_first_netns (by simp) first

theorem startAll_returns {netns : List NsInfo} {procs : List Process}
    (returned : (startAll failure netns).value = some procs) :
    (∀ i < netns.length, failure ≠ some (.firecracker i)) ∧
      (∀ process ∈ procs, ∃ i ns, process = .firecracker i ns) ∧
      ∀ resource, effects.Held (startAll failure netns).events resource →
        ∃ process ∈ procs, resource = .process process := by
  obtain ⟨right, left⟩ := FallibleFold.partners (Attempt.comprehension_returned returned).2
  refine ⟨fun i small => ?_, fun process listed => ?_, fun resource held => ?_⟩
  · have listed : (netns[i], i) ∈ netns.zipIdx := List.mk_mem_zipIdx_iff_getElem?.mpr (by simp)
    obtain ⟨process, _, made⟩ := right _ listed
    rcases startFirecracker_cases failure i netns[i] with ⟨_, same⟩ | ⟨other, _⟩
    · rw [same] at made
      cases made
    · exact other
  · obtain ⟨item, _, made⟩ := left process listed
    rcases startFirecracker_cases failure item.2 item.1 with ⟨_, same⟩ | ⟨_, same⟩
    · rw [same] at made
      cases made
    · rw [same] at made
      cases made
      exact ⟨_, _, rfl⟩
  · refine Attempt.held_values (fun item process made held => ?_) returned held
    rcases startFirecracker_cases failure item.2 item.1 with ⟨_, same⟩ | ⟨_, same⟩
    · rw [same] at made
      cases made
    · rw [same] at made held
      cases made
      exact held_spawned.mp held

theorem startAll_raises {netns : List NsInfo} (raised : (startAll failure netns).value = none) :
    ∃ i < netns.length, failure = some (.firecracker i) := by
  rcases Attempt.comprehension_cases
      (fun item : NsInfo × ℕ => startFirecracker failure item.2 item.1) netns.zipIdx with
    ⟨procs, same, _⟩ | ⟨front, item, back, whole, _, raises, _⟩
  · rw [startAll, same] at raised
    cases raised
  · have listed : item ∈ netns.zipIdx := by simp [whole]
    rcases startFirecracker_cases failure item.2 item.1 with ⟨here, _⟩ | ⟨_, same⟩
    · exact ⟨item.2, List.snd_lt_of_mem_zipIdx listed, here⟩
    · rw [same] at raises
      cases raises

theorem not_closed_startAll {netns : List NsInfo} :
    ¬ effects.Closed (startAll failure netns).events resource := by
  rcases Attempt.comprehension_cases
      (fun item : NsInfo × ℕ => startFirecracker failure item.2 item.1) netns.zipIdx with
    ⟨procs, same, _⟩ | ⟨front, item, back, _, _, _, same⟩
  · rw [startAll, same, Brackets.closed_flatMap]
    rintro ⟨item, _, closed⟩
    exact not_closed_startFirecracker closed
  · rw [startAll, same, Brackets.closed_append, Brackets.closed_flatMap]
    rintro (⟨item, _, closed⟩ | closed)
    · exact not_closed_startFirecracker closed
    · exact not_closed_startFirecracker closed

/-! ### Helpers which start more than one thing -/

/-- The helper has returned, and what it holds is covered by what it has returned. -/
structure SandboxesStarted (failure : Option Point) (up : Text) (count : ℕ) (events : List Event)
    (netns : List NsInfo) (procs : List Process) : Prop where
  setups : ∀ i j, failure = some (.setup i j) →
    count ≤ i ∨ (setupCommands (nsinfo i up)).length ≤ j
  spawns : ∀ i, failure = some (.firecracker i) → count ≤ i
  firecrackers : ∀ process ∈ procs, ∃ i ns, process = .firecracker i ns
  accounted : ∀ resource, effects.Held events resource →
    (∃ process ∈ procs, resource = .process process) ∨ ∃ n ∈ netns, resource ∈ n.resources

/-- The helper has raised, and holds a resource unless it had started nothing. -/
def Raised (failure : Option Point) (up : Text) (count : ℕ) (events : List Event)
    (lost : Resource) : Prop :=
  (∀ resource, ¬ effects.Held events resource) ∧ HandedOver failure up count ∨
    effects.Held events lost ∧ ¬ HandedOver failure up count

theorem startSandboxes_eq : startSandboxes failure up count = (do
    raiseAt failure .upstream
    let netns ← setupAll failure up count
    let procs ← startAll failure netns
    pure (netns, procs)) :=
  rfl

/-- A `setup` which raises has lost the namespaces before it. -/
theorem setupAll_lost (raised : (setupAll failure up count).value = none) :
    Raised failure up count (setupAll failure up count).events (.netns (nsinfo 0 up).ns) := by
  obtain ⟨i, j, rfl, small, short, returns, same, raises⟩ := setupAll_raises raised
  rw [same]
  cases i with
  | zero =>
      refine .inl ⟨fun resource held => ?_, .inl rfl⟩
      exact not_held_of_raised raises held
  | succ i =>
      refine .inr ⟨?_, ?_⟩
      · rw [List.range_succ_eq_map]
        refine Brackets.Held.append_right
          (held_first_netns (by simp) (returns 0 (Nat.succ_pos i))) fun closed => ?_
        exact absurd (closed_setup_netns closed) (Nat.succ_ne_zero i).symm
      · rintro (zero | above | beyond)
        · cases zero
        · exact absurd small (Nat.not_lt.mpr above)
        · exact absurd short (Nat.not_lt.mpr beyond)

theorem startSandboxes_cases (failure : Option Point) (up : Text) (count : ℕ) :
    (∃ events netns procs, startSandboxes failure up count = ⟨events, some (netns, procs)⟩ ∧
        SandboxesStarted failure up count events netns procs) ∨
      ∃ events, startSandboxes failure up count = ⟨events, none⟩ ∧
        Raised failure up count events (.netns (nsinfo 0 up).ns) := by
  rw [startSandboxes_eq]
  rcases raiseAt_cases failure .upstream with ⟨rfl, raises⟩ | ⟨_, passes⟩
  · exact .inr ⟨[], Attempt.bind_none raises, .inl ⟨fun _ => not_held_nil, trivial⟩⟩
  rw [Attempt.bind_some passes]
  rcases made : setupAll failure up count with ⟨setups, _ | netns⟩
  · have lost := @setupAll_lost failure up count (by rw [made])
    rw [made] at lost
    exact .inr ⟨setups, by rw [Attempt.bind_none rfl]; rfl, lost⟩
  have returned : (setupAll failure up count).value = some netns := by rw [made]
  obtain ⟨size, all, accounted⟩ := setupAll_returns returned
  rw [Attempt.bind_some rfl]
  rcases spawned : startAll failure netns with ⟨spawns, _ | procs⟩
  · obtain ⟨i, small, rfl⟩ := @startAll_raises failure netns (by rw [spawned])
    rw [size] at small
    have first := setupAll_held_first returned (Nat.zero_lt_of_lt small)
    have kept := @not_closed_startAll (some (.firecracker i)) (.netns (nsinfo 0 up).ns) netns
    rw [made] at first
    rw [spawned] at kept
    refine .inr ⟨setups ++ spawns, by rw [Attempt.bind_none rfl]; rfl, .inr ⟨?_, ?_⟩⟩
    · exact first.append_right kept
    · exact Nat.not_le.mpr small
  · obtain ⟨other, fire, held_procs⟩ := @startAll_returns failure netns procs (by rw [spawned])
    refine .inl ⟨setups ++ spawns, netns, procs, ?_, ?_, ?_, fire, fun resource held => ?_⟩
    · rw [Attempt.bind_some rfl]
      exact congrArg₂ Attempt.mk (by simp [pure]) rfl
    · intro i j here
      by_contra inside
      rw [not_or, Nat.not_le, Nat.not_le] at inside
      exact all i inside.1 (setup_raises_iff.mpr ⟨j, inside.2, here⟩)
    · intro i here
      by_contra inside
      exact other i (size ▸ Nat.not_le.mp inside) here
    · rw [made] at accounted
      rw [spawned] at held_procs
      rcases Brackets.held_append.mp held with ⟨held, _⟩ | held
      · exact .inr (accounted resource held)
      · exact .inl (held_procs resource held)

/-- The helper has returned the handlers which it has spawned. -/
structure HandlersStarted (failure : Option Point) (count : ℕ) (events : List Event)
    (procs : List Process) : Prop where
  spawns : ∀ i, failure = some (.uffdSpawn i) → count ≤ i
  waits : ∀ i, failure = some (.uffdWait i) → count ≤ i
  accounted : ∀ resource, effects.Held events resource →
    ∃ process ∈ procs, resource = .process process

theorem not_closed_startRemoteUffd {i : ℕ} :
    ¬ effects.Closed (startRemoteUffd failure i).events resource := by
  rw [startRemoteUffd_eq]
  rcases startAndWait_cases failure (.uffdSpawn i) (.uffdWait i) (.uffdHandler i) with
    ⟨_, same⟩ | ⟨_, _, same⟩ | ⟨_, _, same⟩
  · rw [same]
    exact Brackets.not_closed_nil
  · rw [same]
    exact not_closed_spawned
  · rw [same]
    exact not_closed_spawned

theorem held_first_handler {others : List ℕ} (returned : (startRemoteUffd failure 0).value ≠ none) :
    effects.Held ((0 :: others).flatMap fun i => (startRemoteUffd failure i).events)
      (.process (.uffdHandler 0)) := by
  refine @Brackets.held_flatMap _ _ _ _ _ _ [] others 0 ?_ fun _ _ =>
    not_closed_startRemoteUffd
  rw [startRemoteUffd_eq] at returned ⊢
  rcases startAndWait_cases failure (.uffdSpawn 0) (.uffdWait 0) (.uffdHandler 0) with
    ⟨_, same⟩ | ⟨_, _, same⟩ | ⟨_, _, same⟩
  · exact absurd (by rw [same]) returned
  · exact absurd (by rw [same]) returned
  · rw [same]
    exact held_spawned.mpr rfl

theorem startRemoteUffdHandlers_cases (failure : Option Point) (up : Text) (count : ℕ) :
    (∃ events procs, startRemoteUffdHandlers failure count = ⟨events, some procs⟩ ∧
        HandlersStarted failure count events procs) ∨
      ∃ events, startRemoteUffdHandlers failure count = ⟨events, none⟩ ∧
        Raised failure up count events (.process (.uffdHandler 0)) := by
  rcases made : startRemoteUffdHandlers failure count with ⟨events, _ | procs⟩
  · obtain ⟨i, small, returns, raises, same⟩ :=
      @Attempt.comprehension_range _ _ (startRemoteUffd failure) count (by
        rw [← startRemoteUffdHandlers, made])
    rw [← startRemoteUffdHandlers, made] at same
    change events = _ at same
    refine .inr ⟨events, rfl, ?_⟩
    -- The handlers before the one at which it raises are lost.
    have earlier : ∀ k, i = k + 1 → effects.Held events (.process (.uffdHandler 0)) := by
      rintro k rfl
      rw [same, List.range_succ_eq_map]
      exact (held_first_handler (returns 0 (Nat.succ_pos k))).append_right
        not_closed_startRemoteUffd
    rw [startRemoteUffd_eq] at raises same
    rcases startAndWait_cases failure (.uffdSpawn i) (.uffdWait i) (.uffdHandler i) with
      ⟨here, started⟩ | ⟨_, here, started⟩ | ⟨_, _, started⟩
    · rw [started] at same
      cases i with
      | zero =>
          rw [same]
          exact .inl ⟨fun _ => not_held_nil, here ▸ .inl rfl⟩
      | succ k =>
          refine .inr ⟨earlier k rfl, ?_⟩
          rw [here]
          rintro (zero | above)
          · cases zero
          · exact absurd small (Nat.not_lt.mpr above)
    · rw [started] at same
      refine .inr ⟨?_, here ▸ Nat.not_le.mpr small⟩
      cases i with
      | zero =>
          rw [same]
          exact held_spawned.mpr rfl
      | succ k => exact earlier k rfl
    · rw [started] at raises
      cases raises
  · have returned : (startRemoteUffdHandlers failure count).value = some procs := by rw [made]
    obtain ⟨right, _⟩ := FallibleFold.partners (Attempt.comprehension_returned returned).2
    have passed : ∀ i < count, failure ≠ some (.uffdSpawn i) ∧ failure ≠ some (.uffdWait i) := by
      intro i small
      obtain ⟨process, _, started⟩ := right i (List.mem_range.mpr small)
      rw [startRemoteUffd_eq] at started
      rcases startAndWait_cases failure (.uffdSpawn i) (.uffdWait i) (.uffdHandler i) with
        ⟨_, same⟩ | ⟨_, _, same⟩ | ⟨spawned, waited, _⟩
      · rw [same] at started
        cases started
      · rw [same] at started
        cases started
      · exact ⟨spawned, waited⟩
    refine .inl ⟨events, procs, rfl, fun i here => ?_, fun i here => ?_, fun resource held => ?_⟩
    · by_contra small
      exact (passed i (Nat.not_le.mp small)).1 here
    · by_contra small
      exact (passed i (Nat.not_le.mp small)).2 here
    · have held : effects.Held (startRemoteUffdHandlers failure count).events resource := by
        rw [made]
        exact held
      refine Attempt.held_values (fun i process started held => ?_) returned held
      exact startAndWait_held started held

end Points

/-! ### The script -/

section Main

variable {failure : Option Point} {up : Text} {count : ℕ}

theorem tidyRun_raises {statement : Statement} {statements : List Statement} {known : Locals}
    {events : List Event} (raises : statement known = ⟨events, none⟩)
    (covered : ∀ resource, effects.Held events resource → known.Covers resource) :
    TidyRun (statement :: statements) known := by
  refine ⟨?_, fun assigned returned => ?_⟩
  · rw [Tidy, raises]
    exact covered
  · rw [raises] at returned
    cases returned

theorem tidyRun_returns {statement : Statement} {statements : List Statement}
    {known assigned : Locals} {events : List Event}
    (returns : statement known = ⟨events, some assigned⟩)
    (covered : ∀ resource, effects.Held events resource → assigned.Covers resource)
    (still : ∀ resource, known.Covers resource →
      effects.Closed events resource ∨ assigned.Covers resource)
    (later : TidyRun statements assigned) : TidyRun (statement :: statements) known := by
  refine ⟨?_, fun other returned => ?_⟩
  · rw [Tidy, returns]
    exact ⟨covered, still⟩
  · rw [returns] at returned
    obtain rfl : assigned = other := Option.some.inj returned
    exact later

/-- A statement which does nothing to the host is tidy. -/
theorem tidyRun_quiet {statement : Statement} {statements : List Statement} {known : Locals}
    (quiet : statement known = ⟨[], none⟩ ∨ statement known = ⟨[], some known⟩)
    (later : TidyRun statements known) : TidyRun (statement :: statements) known := by
  rcases quiet with raises | returns
  · exact tidyRun_raises raises fun _ held => absurd held not_held_nil
  · exact tidyRun_returns returns (fun _ held => absurd held not_held_nil)
      (fun _ covered => .inr covered) later

theorem raiseAt_quiet (point : Point) (known : Locals) :
    (raiseAt failure point >>= fun _ => pure known) = ⟨[], none⟩ ∨
      (raiseAt failure point >>= fun _ => pure known) = ⟨[], some known⟩ := by
  rcases raiseAt_cases failure point with ⟨_, raises⟩ | ⟨_, passes⟩
  · exact .inl (Attempt.bind_none raises)
  · exact .inr (Attempt.bind_some passes)

theorem parallelMap_quiet (point : Point) (known : Locals) :
    (parallelMap failure point count >>= fun _ => pure known) = ⟨[], none⟩ ∨
      (parallelMap failure point count >>= fun _ => pure known) = ⟨[], some known⟩ := by
  unfold parallelMap
  split
  next => exact .inl rfl
  next => exact raiseAt_quiet point known

/-- A statement which is reached raises, and holds what `main` does not know. -/
def LosesRun : List Statement → Locals → Prop
  | [], _ => False
  | statement :: statements, known =>
      match statement known with
      | ⟨events, none⟩ => ∃ resource, effects.Held events resource ∧ ¬ known.Covers resource
      | ⟨_, some assigned⟩ => LosesRun statements assigned

theorem held_of_losesRun {statements : List Statement} {known : Locals}
    (loses : LosesRun statements known) :
    ∃ resource, effects.Held (runStatements statements known).1 resource ∧
      ¬ (runStatements statements known).2.Covers resource := by
  induction statements generalizing known with
  | nil => exact loses.elim
  | cons statement statements ih =>
      unfold LosesRun at loses
      rcases outcome : statement known with ⟨events, _ | assigned⟩
      · rw [outcome] at loses
        rw [runStatements_raises outcome]
        exact loses
      · rw [outcome] at loses
        rw [runStatements_returns outcome]
        obtain ⟨resource, held, unknown⟩ := ih loses
        exact ⟨resource, held.append_left, unknown⟩

/-- The statements lose nothing exactly if every helper hands over what it has started. -/
def Settled (failure : Option Point) (up : Text) (count : ℕ) (statements : List Statement)
    (known : Locals) : Prop :=
  TidyRun statements known ∧ HandedOver failure up count ∨
    LosesRun statements known ∧ ¬ HandedOver failure up count

theorem settled_raises {statement : Statement} {statements : List Statement} {known : Locals}
    {events : List Event} {lost : Resource} (raises : statement known = ⟨events, none⟩)
    (raised : Raised failure up count events lost) (unknown : ¬ known.Covers lost) :
    Settled failure up count (statement :: statements) known := by
  rcases raised with ⟨nothing, handed⟩ | ⟨held, dropped⟩
  · exact .inl ⟨tidyRun_raises raises fun _ held => absurd held (nothing _), handed⟩
  · refine .inr ⟨?_, dropped⟩
    rw [LosesRun, raises]
    exact ⟨lost, held, unknown⟩

theorem settled_returns {statement : Statement} {statements : List Statement}
    {known assigned : Locals} {events : List Event}
    (returns : statement known = ⟨events, some assigned⟩)
    (covered : ∀ resource, effects.Held events resource → assigned.Covers resource)
    (still : ∀ resource, known.Covers resource → assigned.Covers resource)
    (later : Settled failure up count statements assigned) :
    Settled failure up count (statement :: statements) known := by
  rcases later with ⟨tidy, handed⟩ | ⟨loses, dropped⟩
  · exact .inl ⟨tidyRun_returns returns covered (fun _ known => .inr (still _ known)) tidy, handed⟩
  · refine .inr ⟨?_, dropped⟩
    rw [LosesRun, returns]
    exact loses

/-- The statements behind the start-up are tidy. -/
theorem tidyRun_experiment (known : Locals) :
    TidyRun ((tryBlock failure up count).drop 3) known := by
  refine tidyRun_quiet (parallelMap_quiet .load known)
    (tidyRun_quiet (parallelMap_quiet .workload known) ?_)
  refine tidyRun_returns rfl (fun _ held => absurd held not_held_stop) ?_
    (tidyRun_quiet (raiseAt_quiet .record _) trivial)
  rintro resource (⟨process, listed, rfl⟩ | netns)
  · rw [Locals.processes, List.mem_append, List.mem_append] at listed
    rcases listed with (fire | handler) | proxy
    · refine .inr (.inl ⟨process, ?_, rfl⟩)
      simp [Locals.processes, fire]
    · exact .inl (closed_stop.mpr ⟨process, handler, rfl⟩)
    · refine .inr (.inl ⟨process, ?_, rfl⟩)
      exact List.mem_append_right _ proxy
  · exact .inr (.inr netns)

/-- The statement which starts the uffd handlers, behind the others of the start-up. -/
theorem settled_handlers {known : Locals} (none_yet : known.uffdProcs = [])
    (apart : ∀ i, .uffdHandler i ∉ known.processes) (proxied : failure ≠ some .proxyWait)
    (setups : ∀ i j, failure = some (.setup i j) →
      count ≤ i ∨ (setupCommands (nsinfo i up)).length ≤ j)
    (spawns : ∀ i, failure = some (.firecracker i) → count ≤ i) :
    Settled failure up count ((tryBlock failure up count).drop 2) known := by
  rcases startRemoteUffdHandlers_cases failure up count with
    ⟨events, procs, same, started⟩ | ⟨events, same, raised⟩
  · refine .inl ⟨tidyRun_returns (by rw [Attempt.bind_pure, same]; rfl) ?_ ?_
      (@tidyRun_experiment failure up count _), ?_⟩
    · intro resource held
      obtain ⟨process, listed, rfl⟩ := started.accounted resource held
      refine .inl ⟨process, ?_, rfl⟩
      simp [Locals.processes, listed]
    · rintro resource (⟨process, listed, rfl⟩ | netns)
      · rw [Locals.processes, none_yet] at listed
        refine .inr (.inl ⟨process, ?_, rfl⟩)
        simp only [List.append_nil, List.mem_append] at listed
        simp only [Locals.processes, List.mem_append]
        exact listed.elim (.inl ∘ .inl) .inr
      · exact .inr (.inr netns)
    · unfold HandedOver
      split
      next => exact proxied rfl
      next i j => exact .inr (setups i j rfl)
      next i => exact spawns i rfl
      next i => exact started.waits i rfl
      next i => exact .inr (started.spawns i rfl)
      next => trivial
  · refine settled_raises (by rw [Attempt.bind_pure, same]; rfl) raised ?_
    rintro (⟨process, listed, same⟩ | ⟨n, _, listed⟩)
    · cases same
      exact apart 0 listed
    · exact process_not_mem_resources listed

theorem settled_tryBlock (failure : Option Point) (up : Text) (count : ℕ) :
    Settled failure up count (tryBlock failure up count) {} := by
  rcases startAndWait_cases failure .proxySpawn .proxyWait .proxy with
    ⟨rfl, same⟩ | ⟨_, rfl, same⟩ | ⟨_, waited, same⟩
  · refine @settled_raises _ _ _ _ _ _ _ (.process .proxy)
      (by rw [Attempt.bind_pure, startProxy_eq, same]; rfl) ?_ not_covers_empty
    exact .inl ⟨fun _ => not_held_nil, trivial⟩
  · refine settled_raises (by rw [Attempt.bind_pure, startProxy_eq, same]; rfl) ?_
      (@not_covers_empty (.process .proxy))
    exact .inr ⟨held_spawned.mpr rfl, id⟩
  refine settled_returns (by rw [Attempt.bind_pure, startProxy_eq, same]; rfl) ?_
    (fun _ covered => absurd covered not_covers_empty) ?_
  · intro resource held
    exact .inl ⟨.proxy, List.mem_singleton.mpr rfl, held_spawned.mp held⟩
  rcases startSandboxes_cases failure up count with
    ⟨events, netns, procs, same, started⟩ | ⟨events, same, raised⟩
  · refine settled_returns (by rw [Attempt.bind_pure, same]; rfl) ?_ ?_ ?_
    · intro resource held
      rcases started.accounted resource held with ⟨process, listed, rfl⟩ | netns
      · refine .inl ⟨process, ?_, rfl⟩
        simp [Locals.processes, listed]
      · exact .inr netns
    · rintro resource (⟨process, listed, rfl⟩ | ⟨n, listed, _⟩)
      · refine .inl ⟨process, ?_, rfl⟩
        have proxy : process = .proxy := List.mem_singleton.mp listed
        simp [Locals.processes, proxy]
      · cases listed
    · refine settled_handlers rfl (fun i listed => ?_) waited started.setups started.spawns
      simp only [Locals.processes, List.append_nil, List.mem_append, Option.toList_some,
        List.mem_singleton, reduceCtorEq, or_false] at listed
      obtain ⟨_, _, fire⟩ := started.firecrackers _ listed
      cases fire
  · refine settled_raises (by rw [Attempt.bind_pure, same]; rfl) raised ?_
    rintro (⟨process, _, same⟩ | ⟨n, listed, _⟩)
    · cases same
    · cases listed

end Main

/-- `main` leaves nothing behind if and only if every helper hands over what it has started. -/
theorem leavesNothing_iff (failure : Option Point) (up : Text) (count : ℕ) :
    LeavesNothing (main failure up count) ↔ HandedOver failure up count := by
  rcases settled_tryBlock failure up count with ⟨tidy, handed⟩ | ⟨loses, dropped⟩
  · exact ⟨fun _ => handed, fun _ => leavesNothing_of_tidyRun tidy⟩
  · refine ⟨fun leaves => ?_, fun handed => absurd handed dropped⟩
    obtain ⟨resource, held, unknown⟩ := held_of_losesRun loses
    exact absurd (held.append_right fun closed => unknown (closed_finally.mp closed))
      (leaves resource)

/-- A uffd handler which never opens its socket is left behind. -/
theorem not_leavesNothing_uffdWait : ¬ LeavesNothing (main (some (.uffdWait 0)) [] 1) := by
  intro leaves
  refine leaves (.process (.uffdHandler 0)) ?_
  refine ⟨(main (some (.uffdWait 0)) [] 1).take 16, .spawned (.uffdHandler 0),
    (main (some (.uffdWait 0)) [] 1).drop 17, by decide, rfl, ?_⟩
  unfold Brackets.Closed
  decide

end Launch
end HermOS
