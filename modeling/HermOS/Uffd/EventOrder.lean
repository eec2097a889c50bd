import HermOS.Uffd.EventLoop

/-!
# No event is lost or repeated

Every event read is served, unregistered, still to be handled in this round or deferred to the next.
A round handles the events which the round before has deferred and then those it reads, each list in
its order.
-/

namespace HermOS
namespace Uffd

/-! ### What a trace has done -/

def readEvents (trace : List LoopLabel) : List ReadEvent :=
  trace.filterMap fun
    | .read event => some event
    | _ => none

/-- Faults whose copy has ended with a given result. -/
def copied (result : Bool) (trace : List LoopLabel) : List ReadEvent :=
  trace.filterMap fun
    | .serve event _ answer => if copyFromPtr answer = some result then some event else none
    | _ => none

/-- `Remove` events whose range has been unregistered. -/
def unregistered (trace : List LoopLabel) : List ReadEvent :=
  trace.filterMap fun
    | .unregister event => some event
    | _ => none

/-- Events which have been handled, whether their copy was refused or not. -/
def attempted (trace : List LoopLabel) : List ReadEvent :=
  trace.filterMap fun
    | .serve event _ _ => some event
    | .unregister event => some event
    | _ => none

/-- The events which a round has taken over from the round before, and its labels so far. -/
structure Round where
  retried : List ReadEvent
  labels : List LoopLabel

/-- A round ends where the next one takes over the deferred events. -/
def Round.next (round : Round) (label : LoopLabel) : Round :=
  if label = .drain then ⟨copied false round.labels, []⟩
  else ⟨round.retried, round.labels ++ [label]⟩

/-- The round in which a trace ends. -/
def lastRound (trace : List LoopLabel) : Round :=
  trace.foldl Round.next ⟨[], []⟩

/-- Events of the current round which are not handled yet. -/
def DispatchPc.remaining : DispatchPc → List ReadEvent
  | .reading events | .handling events => events
  | _ => []

/-- A round handles the events it has taken over, then those it reads. -/
def Round.Ordered (round : Round) (remaining : List ReadEvent) : Prop :=
  attempted round.labels ++ remaining = round.retried ++ readEvents round.labels

section Append

variable (trace : List LoopLabel) (label : LoopLabel)

@[simp]
theorem readEvents_append (front back : List LoopLabel) :
    readEvents (front ++ back) = readEvents front ++ readEvents back :=
  List.filterMap_append

@[simp]
theorem copied_append (result : Bool) (front back : List LoopLabel) :
    copied result (front ++ back) = copied result front ++ copied result back :=
  List.filterMap_append

@[simp]
theorem unregistered_append (front back : List LoopLabel) :
    unregistered (front ++ back) = unregistered front ++ unregistered back :=
  List.filterMap_append

@[simp]
theorem attempted_append (front back : List LoopLabel) :
    attempted (front ++ back) = attempted front ++ attempted back :=
  List.filterMap_append

@[simp]
theorem lastRound_append :
    lastRound (trace ++ [label]) = (lastRound trace).next label := by
  rw [lastRound, List.foldl_append]
  rfl

end Append

/-! ### The invariant -/

/-- Where the events are which have been read. -/
structure Kept (trace : List LoopLabel) (state : LoopState) : Prop where
  /-- Reads are numbered in their order. -/
  numbered : (readEvents trace).map ReadEvent.number = List.range state.reads
  /-- A fault is served, to be handled, or deferred. -/
  faults : (copied true trace ++ (state.pc.remaining.filter ReadEvent.isFault ++
    state.deferredEvents)).Perm ((readEvents trace).filter ReadEvent.isFault)
  /-- A `Remove` event is unregistered or to be handled. -/
  removes : unregistered trace ++ state.pc.remaining.filter (fun event => !event.isFault) =
    (readEvents trace).filter fun event => !event.isFault
  /-- Only faults are deferred. -/
  deferred_faults : ∀ event ∈ state.deferredEvents, event.isFault = true
  /-- `copied_pages` counts the faults served. -/
  counted : state.copiedPages = (copied true trace).length
  /-- Outside the closure nothing is deferred. -/
  idle : state.pc = .idle ∨ state.pc = .exited → state.deferredEvents = []
  /-- The deferred events are those which this round has deferred. -/
  deferred : state.deferredEvents = copied false (lastRound trace).labels
  /-- The round handles the events it has taken over, then those it reads. -/
  ordered : attempted (lastRound trace).labels ++ state.pc.remaining =
    (lastRound trace).retried ++ readEvents (lastRound trace).labels

theorem kept_init {handler : UffdHandler} {state : LoopState}
    (initial : (eventLoop handler).Initial state) : Kept [] state := by
  obtain ⟨reads, deferred, pc, copied, _⟩ := initial
  constructor <;> simp [reads, deferred, pc, copied, readEvents, Uffd.copied, unregistered,
    attempted, lastRound, DispatchPc.remaining]

/-- A label which moves no event. -/
def LoopLabel.silent : LoopLabel → Bool
  | .drain | .read _ | .serve _ _ _ | .unregister _ => false
  | _ => true

theorem Kept.silent {trace : List LoopLabel} {before after : LoopState} {label : LoopLabel}
    (kept : Kept trace before) (silent : label.silent = true)
    (reads : after.reads = before.reads) (remaining : after.pc.remaining = before.pc.remaining)
    (deferred : after.deferredEvents = before.deferredEvents)
    (copied : after.copiedPages = before.copiedPages)
    (idle : after.pc = .idle ∨ after.pc = .exited → after.deferredEvents = []) :
    Kept (trace ++ [label]) after := by
  have no_read : readEvents [label] = [] := by cases label <;> first | rfl | cases silent
  have no_copy : ∀ result, Uffd.copied result [label] = [] := by
    intro result
    cases label <;> first | rfl | cases silent
  have no_range : unregistered [label] = [] := by cases label <;> first | rfl | cases silent
  have no_attempt : attempted [label] = [] := by cases label <;> first | rfl | cases silent
  have same_round : (lastRound trace).next label =
      ⟨(lastRound trace).retried, (lastRound trace).labels ++ [label]⟩ := by
    refine if_neg ?_
    rintro rfl
    cases silent
  constructor
  · rw [readEvents_append, no_read, List.append_nil, reads, kept.numbered]
  · rw [readEvents_append, copied_append, no_read, no_copy, List.append_nil, List.append_nil,
      remaining, deferred]
    exact kept.faults
  · rw [readEvents_append, unregistered_append, no_read, no_range, List.append_nil,
      List.append_nil, remaining]
    exact kept.removes
  · rw [deferred]
    exact kept.deferred_faults
  · rw [copied_append, no_copy, List.append_nil, copied, kept.counted]
  · exact idle
  · rw [lastRound_append, same_round, copied_append, no_copy, List.append_nil, deferred,
      kept.deferred]
  · rw [lastRound_append, same_round, attempted_append, readEvents_append, no_attempt, no_read,
      List.append_nil, List.append_nil, remaining]
    exact kept.ordered

theorem Kept.drain {trace : List LoopLabel} {state : LoopState} (kept : Kept trace state)
    (at_pc : state.pc = .draining) :
    Kept (trace ++ [.drain])
      { state with deferredEvents := [], pc := .reading state.deferredEvents } := by
  obtain ⟨numbered, faults, removes, deferred_faults, counted, idle, deferred, ordered⟩ := kept
  rw [at_pc] at faults removes
  have all_faults : state.deferredEvents.filter ReadEvent.isFault = state.deferredEvents :=
    List.filter_eq_self.mpr deferred_faults
  have no_remove : (state.deferredEvents.filter fun event => !event.isFault) = [] :=
    List.filter_eq_nil_iff.mpr fun event inside => by simp [deferred_faults event inside]
  constructor
  · simpa [readEvents] using numbered
  · simpa [DispatchPc.remaining, all_faults, readEvents, copied] using faults
  · simpa [DispatchPc.remaining, no_remove, readEvents, unregistered] using removes
  · simp
  · simpa [copied] using counted
  · simp
  · simp [Round.next, copied]
  · simp [Round.next, attempted, readEvents, DispatchPc.remaining, deferred]

theorem Kept.read {trace : List LoopLabel} {state : LoopState} (kept : Kept trace state)
    {eventsToHandle : List ReadEvent} {event : Event} {queue : List Event}
    (at_pc : state.pc = .reading eventsToHandle) :
    Kept (trace ++ [.read ⟨state.reads, event⟩])
      { state with
        queue
        reads := state.reads + 1
        pc := .reading (eventsToHandle ++ [⟨state.reads, event⟩]) } := by
  obtain ⟨numbered, faults, removes, deferred_faults, counted, idle, deferred, ordered⟩ := kept
  rw [at_pc] at faults removes ordered
  have this_read : readEvents [LoopLabel.read ⟨state.reads, event⟩] = [⟨state.reads, event⟩] := rfl
  have same_round : (lastRound trace).next (.read ⟨state.reads, event⟩) =
      ⟨(lastRound trace).retried, (lastRound trace).labels ++ [.read ⟨state.reads, event⟩]⟩ := rfl
  constructor
  · rw [readEvents_append, this_read, List.map_append, numbered, List.range_succ]
    rfl
  · rw [readEvents_append, this_read, copied_append, List.filter_append]
    simp only [DispatchPc.remaining, List.filter_append] at faults ⊢
    refine .trans ?_ (faults.append_right _)
    simp only [copied, List.filterMap_cons, List.filterMap_nil, List.append_nil, List.append_assoc]
    exact .append_left _ (.append_left _ List.perm_append_comm)
  · rw [readEvents_append, this_read, unregistered_append, List.filter_append, ← removes]
    simp [DispatchPc.remaining, unregistered]
  · exact deferred_faults
  · simpa [copied] using counted
  · simp
  · rw [lastRound_append, same_round]
    simpa [copied] using deferred
  · rw [lastRound_append, same_round, readEvents_append, this_read, ← List.append_assoc, ← ordered]
    simp [DispatchPc.remaining, attempted]

theorem Kept.serve {trace : List LoopLabel} {state : LoopState} (kept : Kept trace state)
    {event : ReadEvent} {rest : List ReadEvent} {page : UInt64} {answer : CopyAnswer}
    {populated : UInt64 → Bool} {served : Bool} (at_pc : state.pc = .handling (event :: rest))
    (fault : event.isFault = true) (result : copyFromPtr answer = some served) :
    Kept (trace ++ [.serve event page answer])
      ({ state with populated, pc := .handling rest }.afterCopy event served) := by
  obtain ⟨numbered, faults, removes, deferred_faults, counted, idle, deferred, ordered⟩ := kept
  rw [at_pc] at faults removes ordered
  have no_read : readEvents [LoopLabel.serve event page answer] = [] := rfl
  have no_range : unregistered [LoopLabel.serve event page answer] = [] := rfl
  have this_attempt : attempted [LoopLabel.serve event page answer] = [event] := rfl
  have this_copy : ∀ wanted, copied wanted [LoopLabel.serve event page answer] =
      if served = wanted then [event] else [] := by
    intro wanted
    by_cases same : served = wanted
    · simp [copied, result, same]
    · simp [copied, result, same]
  have same_round : (lastRound trace).next (.serve event page answer) =
      ⟨(lastRound trace).retried, (lastRound trace).labels ++ [.serve event page answer]⟩ := rfl
  have removes' : unregistered (trace ++ [.serve event page answer]) ++
      rest.filter (fun event => !event.isFault) =
      (readEvents (trace ++ [.serve event page answer])).filter fun event => !event.isFault := by
    rw [readEvents_append, no_read, unregistered_append, no_range, List.append_nil,
      List.append_nil, ← removes]
    simp [DispatchPc.remaining, fault]
  have ordered' : attempted ((lastRound trace).labels ++ [.serve event page answer]) ++ rest =
      (lastRound trace).retried ++
        readEvents ((lastRound trace).labels ++ [.serve event page answer]) := by
    rw [attempted_append, this_attempt, readEvents_append, no_read, List.append_nil, ← ordered]
    simp [DispatchPc.remaining]
  simp only [DispatchPc.remaining, List.filter_cons, fault, if_true] at faults
  cases served with
  | true =>
      constructor
      · simpa [LoopState.afterCopy, no_read] using numbered
      · rw [readEvents_append, no_read, copied_append, this_copy]
        simpa [LoopState.afterCopy, DispatchPc.remaining] using faults
      · exact removes'
      · exact deferred_faults
      · simp [LoopState.afterCopy, this_copy, counted]
      · simp [LoopState.afterCopy]
      · rw [lastRound_append, same_round, copied_append, this_copy]
        simpa [LoopState.afterCopy] using deferred
      · rw [lastRound_append, same_round]
        exact ordered'
  | false =>
      constructor
      · simpa [LoopState.afterCopy, no_read] using numbered
      · rw [readEvents_append, no_read, copied_append, this_copy]
        refine .trans ?_ (by simpa using faults)
        simp only [LoopState.afterCopy, DispatchPc.remaining, Bool.false_eq_true, if_false,
          List.append_nil]
        refine .append_left _ ?_
        rw [← List.append_assoc]
        exact List.perm_append_singleton _ _
      · exact removes'
      · intro other inside
        rcases List.mem_append.mp inside with old | new
        · exact deferred_faults other old
        · rw [List.mem_singleton.mp new]
          exact fault
      · simp [LoopState.afterCopy, this_copy, counted]
      · simp [LoopState.afterCopy]
      · rw [lastRound_append, same_round, copied_append, this_copy]
        simp [LoopState.afterCopy, deferred]
      · rw [lastRound_append, same_round]
        exact ordered'

theorem Kept.unregister {trace : List LoopLabel} {state : LoopState} (kept : Kept trace state)
    {event : ReadEvent} {rest : List ReadEvent} (at_pc : state.pc = .handling (event :: rest))
    (remove : event.isFault = false) :
    Kept (trace ++ [.unregister event]) { state with pc := .handling rest } := by
  obtain ⟨numbered, faults, removes, deferred_faults, counted, idle, deferred, ordered⟩ := kept
  rw [at_pc] at faults removes ordered
  constructor
  · simpa [readEvents] using numbered
  · simpa [readEvents, copied, DispatchPc.remaining, remove] using faults
  · rw [readEvents_append, unregistered_append]
    simpa [readEvents, unregistered, DispatchPc.remaining, remove] using removes
  · exact deferred_faults
  · simpa [copied] using counted
  · simp
  · simpa [Round.next, copied] using deferred
  · rw [lastRound_append]
    simpa [Round.next, attempted, readEvents, DispatchPc.remaining] using ordered

theorem kept_step {handler : UffdHandler} {trace : List LoopLabel} {before after : LoopState}
    {label : LoopLabel} (kept : Kept trace before) (step : LoopStep handler before label after) :
    Kept (trace ++ [label]) after := by
  cases step with
  | arriveFault addr running => exact kept.silent rfl rfl rfl rfl rfl kept.idle
  | arriveRemove start stop running => exact kept.silent rfl rfl rfl rfl rfl kept.idle
  | zap ranged inside => exact kept.silent rfl rfl rfl rfl rfl kept.idle
  | dispatch at_pc =>
      have none_left := kept.idle (.inl at_pc)
      exact kept.silent rfl rfl (by rw [at_pc]; rfl) none_left.symm rfl fun _ => rfl
  | drain at_pc => exact kept.drain at_pc
  | read at_pc head => exact kept.read at_pc
  | quiet at_pc empty => exact kept.silent rfl rfl (by rw [at_pc]; rfl) rfl rfl (by simp)
  | serve at_pc found answered result => exact kept.serve at_pc rfl result
  | unregister at_pc valid => exact kept.unregister at_pc rfl
  | again at_pc left => exact kept.silent rfl rfl (by rw [at_pc]; rfl) rfl rfl (by simp)
  | leave at_pc none_left =>
      exact kept.silent rfl rfl (by rw [at_pc]; rfl) rfl rfl fun _ => none_left
  | print at_pc =>
      exact kept.silent rfl rfl (by rw [at_pc]; rfl) rfl rfl fun _ => kept.idle (.inl at_pc)

theorem kept_run {handler : UffdHandler} {trace : List LoopLabel} {state : LoopState}
    (run : (eventLoop handler).Run trace state) : Kept trace state := by
  obtain ⟨initial, start, path⟩ := run
  exact path.invariant_trace Kept kept_step (kept_init start)

/-- Between two moments outside the closure every event read is handled once and counted, and every
round begins with what the round before has deferred. -/
theorem dispatch_handles_once {handler : UffdHandler} {front body : List LoopLabel}
    {before after : LoopState} (run : (eventLoop handler).Run front before)
    (outside : before.pc = .idle) (path : (eventLoop handler).Path before body after) :
    (lastRound (front ++ body)).Ordered after.pc.remaining ∧
    (after.pc = .idle →
      ((readEvents (front ++ body)).map ReadEvent.number).Nodup ∧
      (copied true (front ++ body)).Perm
        ((readEvents (front ++ body)).filter ReadEvent.isFault) ∧
      unregistered (front ++ body) =
        (readEvents (front ++ body)).filter (fun event => !event.isFault) ∧
      after.copiedPages =
        before.copiedPages + ((readEvents body).filter ReadEvent.isFault).length ∧
      after.deferredEvents = []) := by
  have earlier := kept_run run
  obtain ⟨initial, start, entry⟩ := run
  have later := kept_run ⟨initial, start, entry.trans path⟩
  refine ⟨later.ordered, fun left => ?_⟩
  have settled : ∀ {trace state}, Kept trace state → state.pc = .idle →
      (copied true trace).Perm ((readEvents trace).filter ReadEvent.isFault) ∧
        unregistered trace = (readEvents trace).filter fun event => !event.isFault := by
    intro trace state kept idle
    have faults := kept.faults
    have removes := kept.removes
    rw [idle, kept.idle (.inl idle)] at faults
    rw [idle] at removes
    exact ⟨by simpa [DispatchPc.remaining] using faults,
      by simpa [DispatchPc.remaining] using removes⟩
  obtain ⟨served, ranges⟩ := settled later left
  refine ⟨?_, served, ranges, ?_, later.idle (.inl left)⟩
  · rw [later.numbered]
    exact List.nodup_range
  · rw [later.counted, earlier.counted, served.length_eq, (settled earlier outside).1.length_eq,
      readEvents_append, List.filter_append, List.length_append]

/-! ### A refused copy -/

/-- A region of one page of 4 KiB. -/
def sampleHandler : UffdHandler :=
  ⟨[⟨0x1000, 0x1000, 0, 0x1000⟩], 0x1000, 12, rfl⟩

def sampleFault : ReadEvent :=
  ⟨0, .pagefault 0x1abc⟩

/-- The handler before its first event. -/
def sampleStart : LoopState :=
  ⟨[], 0, [], .idle, 0, fun _ => false, []⟩

/-- A fault is read, refused, deferred and served in the next round. -/
def sampleTrace : List LoopLabel :=
  [.arrive (.pagefault 0x1abc), .dispatch, .drain, .read sampleFault, .quiet,
    .serve sampleFault 0x1000 (.partiallyCopied 0), .again, .drain, .quiet,
    .serve sampleFault 0x1000 (.ok 0x1000), .leave]

theorem sampleTrace_path : ∃ after, (eventLoop sampleHandler).Path sampleStart sampleTrace after ∧
    after.pc = .idle := by
  refine ⟨_, .cons (.arriveFault 0x1abc (by decide)) <| .cons (.dispatch rfl) <|
    .cons (.drain rfl) <| .cons (.read rfl rfl) <| .cons (.quiet rfl rfl) <|
    .cons (.serve rfl (by decide) (.refused (.inl rfl)) rfl) <|
    .cons (.again rfl (by decide)) <| .cons (.drain rfl) <| .cons (.quiet rfl rfl) <|
    .cons (.serve rfl (by decide) (.install rfl (by decide)) rfl) <|
    .cons (.leave rfl rfl) <| .nil _, rfl⟩

theorem dispatch_handles_once_sample : ∃ after,
    (eventLoop sampleHandler).Path sampleStart sampleTrace after ∧
      (lastRound ([] ++ sampleTrace)).Ordered after.pc.remaining ∧ after.copiedPages = 0 + 1 := by
  obtain ⟨after, path, left⟩ := sampleTrace_path
  have handled := dispatch_handles_once
    ⟨sampleStart, ⟨rfl, rfl, rfl, rfl, rfl, rfl, rfl⟩, .nil _⟩ rfl path
  exact ⟨after, path, handled.1, (handled.2 left).2.2.2.1⟩

end Uffd
end HermOS
