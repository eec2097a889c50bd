import HermOS.Block.Device

/-!
# Every request is answered once

A chain which the guest has made available is waiting, in flight, or used, and only one of these.
One visit says what happens to a popped head; the ledger follows the heads through a run.
-/

namespace HermOS
namespace Block

variable {Queue Engine Limiter Memory Fault EngineError : Type}
  {parts : Parts Queue Engine Limiter Memory Fault EngineError} {disk : Disk}
  {state before after : DeviceState Queue Engine Limiter Memory}

/-! ### One visit -/

/-- What a visit of a head does to the engine. -/
def Visit.Effect (parts : Parts Queue Engine Limiter Memory Fault EngineError) (disk : Disk)
    (head : DescriptorChain) (before after : EngineView) : Visit Fault → Prop
  | .rejected _ => after = before
  | .limited _ => after = before
  | .processed request result =>
      (∃ mem, request.Accepts parts.guest head mem disk.nsectors) ∧
        match result with
        | .submitted => request.type ≠ .getDeviceID ∧ after =
            { before with running := request.toPendingRequest head.desc.index ::ₘ before.running }
        | .throttled => after = before ∧ before.running + before.completed ≠ 0
        | .executed finished => after = before ∧ finished.numBytesToMem.toNat ≤ head.writable

/-- Two states differ at most in what a visit may change. -/
def DeviceState.Framed (before after : DeviceState Queue Engine Limiter Memory) : Prop :=
  after = { before with
    engine := after.engine, rateLimiter := after.rateLimiter, mem := after.mem,
    calls := after.calls }

theorem counts_error {pending : PendingRequest} (err : IoErr Fault EngineError) :
    pending.Counts (.error err) := by
  intro count counted
  cases counted

theorem finish_snd {pending : PendingRequest} {res : Except (IoErr Fault EngineError) UInt32} :
    (state.finish parts pending res).2 =
      { state with mem := (pending.finish parts.guest state.mem res).2 } := rfl

theorem finish_fst {pending : PendingRequest} {res : Except (IoErr Fault EngineError) UInt32} :
    (state.finish parts pending res).1 = (pending.finish parts.guest state.mem res).1 := rfl

variable {request : Request} {head : DescriptorChain} {now : Option (BitVec 128)}

theorem processLocally_framed {pending : PendingRequest} :
    (state.processLocally parts disk request pending).2 =
      { state with mem := (state.processLocally parts disk request pending).2.mem } := by
  unfold DeviceState.processLocally
  cases request.type <;> rfl

theorem processLocally_le (state : DeviceState Queue Engine Limiter Memory) {mem : Memory}
    (accepts : request.Accepts parts.guest head mem disk.nsectors)
    (local_type : request.operation disk now = none) :
    (state.processLocally parts disk request
      (request.toPendingRequest head.desc.index)).1.numBytesToMem.toNat ≤ head.writable := by
  unfold DeviceState.processLocally
  cases type : request.type with
  | transferIn | transferOut | flush => simp [Request.operation, type] at local_type
  | getDeviceID =>
      refine finish_le_writable accepts.fits ?_
      split
      · intro count counted
        obtain rfl := Except.ok.inj counted
        exact ⟨UInt32.le_iff_toNat_le.mpr (accepts.valid.id type), fun _ => rfl⟩
      · exact counts_error _
  | unsupported op =>
      refine finish_le_writable accepts.fits ?_
      intro count counted
      obtain rfl := Except.ok.inj counted
      refine ⟨UInt32.le_iff_toNat_le.mpr (Nat.zero_le _), fun getId => ?_⟩
      rw [Request.toPendingRequest, type] at getId
      cases getId

/-- What an engine may be asked for is not an id. -/
theorem operation_type {call : Operation × Trace.Call}
    (asks : request.operation disk now = some call) : request.type ≠ .getDeviceID := by
  rintro getId
  simp [Request.operation, getId] at asks

theorem answer_framed {answer : EngineAnswer EngineError} :
    (state.answer parts answer).2 =
      { state with mem := (state.answer parts answer).2.mem } := by
  cases answer with
  | submitted | executed req count => rfl
  | failed req error =>
      simp only [DeviceState.answer]
      split <;> rfl

/-- Processing changes the engine, the guest memory and the trace only. -/
theorem process_framed {descIdx : UInt16} :
    (state.process parts disk request descIdx now).2 =
      { state with
        engine := (state.process parts disk request descIdx now).2.engine
        mem := (state.process parts disk request descIdx now).2.mem
        calls := (state.process parts disk request descIdx now).2.calls } := by
  unfold DeviceState.process
  split
  · rw [answer_framed]
  · rw [processLocally_framed]

/-- The request is processed as its type and its data descriptor say. -/
theorem process_effect {mem : Memory}
    (accepts : request.Accepts parts.guest head mem disk.nsectors) :
    Visit.Effect parts disk head (parts.io.view state.engine)
      (parts.io.view (state.process parts disk request head.desc.index now).2.engine)
      (.processed request (state.process parts disk request head.desc.index now).1) := by
  refine ⟨⟨mem, accepts⟩, ?_⟩
  unfold DeviceState.process
  cases asks : request.operation disk now with
  | none =>
      have bound := processLocally_le state accepts asks
      simp only
      rw [processLocally_framed]
      exact ⟨rfl, bound⟩
  | some asked =>
      obtain ⟨operation, call⟩ := asked
      simp only
      cases answered : (parts.io.perform state.engine state.mem operation
        (request.toPendingRequest head.desc.index)).1 with
      | submitted => exact ⟨operation_type asks, parts.io.perform_submitted answered⟩
      | executed req count =>
          obtain ⟨rfl, le, same⟩ := parts.io.perform_executed answered
          refine ⟨same, finish_le_writable accepts.fits ?_⟩
          intro count' counted
          obtain rfl := Except.ok.inj counted
          exact ⟨le, fun getId => absurd getId (operation_type asks)⟩
      | failed req error =>
          obtain ⟨rfl, same, busy⟩ := parts.io.perform_failed answered
          by_cases throttling : parts.io.isThrottlingErr error = true
          · simp only [DeviceState.answer, if_pos throttling]
            exact ⟨same, busy throttling⟩
          · simp only [DeviceState.answer, if_neg throttling]
            exact ⟨same, finish_le_writable accepts.fits (counts_error _)⟩

theorem visit_framed (state : DeviceState Queue Engine Limiter Memory) (head : DescriptorChain)
    (now : Option (BitVec 128)) : state.Framed (state.visit parts disk head now).2 := by
  unfold DeviceState.Framed DeviceState.visit
  split
  · rfl
  · dsimp only
    split
    · rfl
    · rw [process_framed]

theorem visit_effect (state : DeviceState Queue Engine Limiter Memory) (head : DescriptorChain)
    (now : Option (BitVec 128)) :
    Visit.Effect parts disk head (parts.io.view state.engine)
      (parts.io.view (state.visit parts disk head now).2.engine)
      (state.visit parts disk head now).1 := by
  unfold DeviceState.visit
  split
  · rfl
  next request parsed =>
    dsimp only
    split
    · rfl
    · exact process_effect (parse_eq_ok_iff.mp parsed)

theorem visit_spec {visit : Visit Fault}
    (visited : before.visit parts disk head now = (visit, after)) :
    before.Framed after ∧
      visit.Effect parts disk head (parts.io.view before.engine) (parts.io.view after.engine) := by
  constructor
  · have framed : before.Framed (before.visit parts disk head now).2 := visit_framed before head now
    rw [visited] at framed
    exact framed
  · have effect : Visit.Effect parts disk head (parts.io.view before.engine)
        (parts.io.view (before.visit parts disk head now).2.engine)
        (before.visit parts disk head now).1 := visit_effect before head now
    rw [visited] at effect
    exact effect

/-! ### The ledger -/

/-- Where the chains are which the guest has made available. -/
structure Ledger (Index : UInt16 → Prop) (offers avail : List DescriptorChain)
    (used : List (UInt16 × UInt32)) (inFlight : Multiset PendingRequest)
    (answers : List (DescriptorChain × UInt32))
    (flying : Multiset (DescriptorChain × PendingRequest)) : Prop where
  /-- Chains are taken in order, and each taken one is answered or in flight. -/
  taken : ∃ taken, offers = taken ++ avail ∧
    (taken : Multiset DescriptorChain) = (answers.map Prod.fst : List _) + flying.map Prod.fst
  /-- Each answer is one used element. -/
  used : used = answers.map fun answer => (answer.1.desc.index, answer.2)
  /-- Each request in flight is in the engine. -/
  inFlight : inFlight = flying.map Prod.snd
  /-- No answer is longer than what the device may write to its chain. -/
  bounded : ∀ answer ∈ answers, answer.2.toNat ≤ answer.1.writable
  fits : ∀ entry ∈ flying, entry.2.Fits entry.1 ∧ entry.2.type ≠ .getDeviceID ∧
    Index entry.1.desc.index

/-- Every chain is waiting, in flight or answered, and only one of these. -/
def Accounted (Index : UInt16 → Prop) (offers avail : List DescriptorChain)
    (used : List (UInt16 × UInt32)) (inFlight : Multiset PendingRequest) : Prop :=
  ∃ answers flying, Ledger Index offers avail used inFlight answers flying

namespace Accounted

variable {Index : UInt16 → Prop} {offers avail chains : List DescriptorChain}
  {used : List (UInt16 × UInt32)} {inFlight : Multiset PendingRequest} {pending : PendingRequest}
  {len : UInt32}

theorem empty : Accounted Index [] [] [] 0 :=
  ⟨[], 0, ⟨[], rfl, rfl⟩, rfl, rfl, by simp, by simp⟩

theorem offer (accounted : Accounted Index offers avail used inFlight) :
    Accounted Index (offers ++ chains) (avail ++ chains) used inFlight := by
  obtain ⟨answers, flying, ledger⟩ := accounted
  obtain ⟨taken, whole, places⟩ := ledger.taken
  refine ⟨answers, flying, { ledger with taken := ⟨taken, ?_, places⟩ }⟩
  rw [whole, List.append_assoc]

/-- A popped head is answered at once. -/
theorem answer (accounted : Accounted Index offers (head :: avail) used inFlight)
    (fits : len.toNat ≤ head.writable) :
    Accounted Index offers avail (used ++ [(head.desc.index, len)]) inFlight := by
  obtain ⟨answers, flying, ledger⟩ := accounted
  obtain ⟨taken, whole, places⟩ := ledger.taken
  refine ⟨answers ++ [(head, len)], flying, {
    taken := ⟨taken ++ [head], ?_, ?_⟩
    used := ?_
    inFlight := ledger.inFlight
    bounded := ?_
    fits := ledger.fits }⟩
  · rw [whole, List.append_assoc, List.singleton_append]
  · rw [← Multiset.coe_add, places, List.map_append, ← Multiset.coe_add]
    exact add_right_comm _ _ _
  · rw [ledger.used, List.map_append]
    rfl
  · intro answer member
    rcases List.mem_append.mp member with old | new
    · exact ledger.bounded answer old
    · rw [List.mem_singleton.mp new]
      exact fits

/-- A popped head is handed to the engine. -/
theorem submit (accounted : Accounted Index offers (head :: avail) used inFlight)
    (fits : pending.Fits head) (moves : pending.type ≠ .getDeviceID)
    (index : Index head.desc.index) : Accounted Index offers avail used (pending ::ₘ inFlight) := by
  obtain ⟨answers, flying, ledger⟩ := accounted
  obtain ⟨taken, whole, places⟩ := ledger.taken
  refine ⟨answers, (head, pending) ::ₘ flying, {
    taken := ⟨taken ++ [head], ?_, ?_⟩
    used := ledger.used
    inFlight := ?_
    bounded := ledger.bounded
    fits := ?_ }⟩
  · rw [whole, List.append_assoc, List.singleton_append]
  · rw [← Multiset.coe_add, places, Multiset.map_cons, ← Multiset.singleton_add, add_assoc,
      add_comm (flying.map Prod.fst)]
    rfl
  · rw [ledger.inFlight, Multiset.map_cons]
  · intro entry member
    rcases Multiset.mem_cons.mp member with rfl | old
    · exact ⟨fits, moves, index⟩
    · exact ledger.fits entry old

/-- A request in flight is answered. -/
theorem reap (accounted : Accounted Index offers avail used (pending ::ₘ inFlight))
    (within : ∀ chain, pending.Fits chain → pending.type ≠ .getDeviceID →
      len.toNat ≤ chain.writable) :
    Index pending.descIdx ∧
      Accounted Index offers avail (used ++ [(pending.descIdx, len)]) inFlight := by
  obtain ⟨answers, flying, ledger⟩ := accounted
  obtain ⟨taken, whole, places⟩ := ledger.taken
  have flies : pending ∈ flying.map Prod.snd := by
    rw [← ledger.inFlight]
    exact Multiset.mem_cons_self _ _
  obtain ⟨⟨chain, pending⟩, member, rfl⟩ := Multiset.mem_map.mp flies
  obtain ⟨others, rfl⟩ := Multiset.exists_cons_of_mem member
  obtain ⟨fits, moves, index⟩ := ledger.fits _ member
  have rest := ledger.inFlight
  rw [Multiset.map_cons, Multiset.cons_inj_right] at rest
  refine ⟨by rw [fits.descIdx]; exact index, answers ++ [(chain, len)], others, {
    taken := ⟨taken, whole, ?_⟩
    used := ?_
    inFlight := rest
    bounded := ?_
    fits := fun entry other => ledger.fits entry (Multiset.mem_cons_of_mem other) }⟩
  · rw [places, List.map_append, ← Multiset.coe_add, Multiset.map_cons,
      ← Multiset.singleton_add, ← add_assoc]
    rfl
  · rw [ledger.used, List.map_append, fits.descIdx]
    rfl
  · intro answer member
    rcases List.mem_append.mp member with old | new
    · exact ledger.bounded answer old
    · rw [List.mem_singleton.mp new]
      exact within chain fits moves

end Accounted

/-! ### Runs -/

/-- Requests which the engine has taken and not given back. -/
def EngineView.inFlight (view : EngineView) : Multiset PendingRequest :=
  view.running + view.completed

theorem EngineView.Advances.inFlight {before after : EngineView}
    (advances : before.Advances after) :
    after.inFlight = before.inFlight := by
  obtain ⟨finished, running, completed, -⟩ := advances
  rw [EngineView.inFlight, EngineView.inFlight, running, completed, add_comm before.completed,
    ← add_assoc, add_comm after.running]

/-- The books of a state: every chain has its place, and an idle device hides no answer. -/
structure Balanced (parts : Parts Queue Engine Limiter Memory Fault EngineError)
    (trace : List (DeviceLabel Fault)) (state : DeviceState Queue Engine Limiter Memory) :
    Prop where
  accounted : Accounted parts.virtq.Index (offered trace) (parts.virtq.view state.queue).avail
    (parts.virtq.view state.queue).used (parts.io.view state.engine).inFlight
  published : state.pc = .idle →
    (parts.virtq.view state.queue).published = (parts.virtq.view state.queue).used

theorem view_publish : parts.virtq.view (state.publish parts).queue =
    { parts.virtq.view state.queue with published := (parts.virtq.view state.queue).used } :=
  parts.virtq.view_advance state.queue

theorem view_kickGuest : parts.virtq.view (state.kickGuest parts).queue =
    parts.virtq.view state.queue :=
  parts.virtq.view_prepareKick state.queue

theorem view_endProcessing {usedAny : Bool} :
    parts.virtq.view (state.endProcessing parts usedAny).queue =
      { parts.virtq.view state.queue with published := (parts.virtq.view state.queue).used } := by
  cases usedAny with
  | false => exact view_publish
  | true => exact view_kickGuest.trans view_publish

theorem EngineView.Advances.refl (view : EngineView) : view.Advances view :=
  ⟨0, by simp, by simp, id, by simp⟩

theorem engine_endProcessing {usedAny : Bool} :
    (parts.io.view state.engine).Advances
      (parts.io.view (state.endProcessing parts usedAny).engine) := by
  have kicked : (parts.io.view state.engine).Advances (parts.io.view
      (if parts.io.isAsync state.engine then parts.io.kickSubmissionQueue state.engine
        else state.engine)) := by
    split
    · exact parts.io.kick_advances _
    · exact .refl _
  cases usedAny <;> exact kicked

theorem endCompleting_eq (parts : Parts Queue Engine Limiter Memory Fault EngineError)
    (state : DeviceState Queue Engine Limiter Memory) (reaper : Reaper) :
    parts.virtq.view (state.endCompleting parts reaper).queue =
        { parts.virtq.view state.queue with published := (parts.virtq.view state.queue).used } ∧
      (state.endCompleting parts reaper).engine = state.engine := by
  have view : parts.virtq.view ((state.publish parts).kickGuest parts).queue =
      { parts.virtq.view state.queue with published := (parts.virtq.view state.queue).used } :=
    view_kickGuest.trans view_publish
  unfold DeviceState.endCompleting
  cases reaper with
  | save drained => exact ⟨view, rfl⟩
  | event =>
      dsimp only
      split <;> exact ⟨view, rfl⟩

theorem offered_append (trace : List (DeviceLabel Fault)) (label : DeviceLabel Fault) :
    offered (trace ++ [label]) = offered trace ++ offered [label] :=
  List.flatMap_append

variable {trace : List (DeviceLabel Fault)} {label : DeviceLabel Fault}

/-- A step which offers nothing and leaves chains, answers and requests where they are. -/
theorem Balanced.keep (balanced : Balanced parts trace before)
    (quiet : offered [label] = [])
    (avail : (parts.virtq.view after.queue).avail = (parts.virtq.view before.queue).avail)
    (used : (parts.virtq.view after.queue).used = (parts.virtq.view before.queue).used)
    (inFlight : (parts.io.view after.engine).inFlight = (parts.io.view before.engine).inFlight)
    (published : after.pc = .idle →
      (parts.virtq.view after.queue).published = (parts.virtq.view after.queue).used) :
    Balanced parts (trace ++ [label]) after := by
  refine ⟨?_, published⟩
  rw [offered_append, quiet, List.append_nil, avail, used, inFlight]
  exact balanced.accounted

theorem endProcessing_pc {usedAny : Bool} : (state.endProcessing parts usedAny).pc = .idle := by
  cases usedAny <;> rfl

/-- A head which goes back to the avail ring. -/
theorem balanced_undo {usedAny : Bool} {queue : Queue} {armed : Bool}
    (state : DeviceState Queue Engine Limiter Memory) (balanced : Balanced parts trace before)
    (quiet : offered [label] = [])
    (undone : parts.virtq.view queue = { parts.virtq.view before.queue with armed })
    (same : parts.io.view state.engine = parts.io.view before.engine) :
    Balanced parts (trace ++ [label])
      (({ state with queue } : DeviceState Queue Engine Limiter Memory).endProcessing
        parts usedAny) := by
  refine balanced.keep quiet ?_ ?_ ?_ fun _ => ?_
  · rw [view_endProcessing, undone]
  · rw [view_endProcessing, undone]
  · rw [engine_endProcessing.inFlight, same]
  · rw [view_endProcessing]

theorem balanced_visit {usedAny : Bool} {queue : Queue} {visit : Visit Fault}
    (balanced : Balanced parts trace before)
    (pop : parts.virtq.popOrEnableNotification before.queue = (.ok (some head), queue))
    (visited : { before with queue }.visit parts disk head now = (visit, after)) :
    Balanced parts (trace ++ [.visit head now visit]) (after.settle parts usedAny head visit) := by
  obtain ⟨index, rest, armed, armed', waiting, popped, undone⟩ := parts.virtq.pop_some pop
  obtain ⟨framed, effect⟩ := visit_spec visited
  have queued : after.queue = queue := by rw [framed]
  have accounted := balanced.accounted
  rw [waiting] at accounted
  have quiet : offered [DeviceLabel.visit head now visit] = [] := rfl
  -- a used element is written for the head
  have answered : ∀ len : UInt32, len.toNat ≤ head.writable →
      parts.io.view after.engine = parts.io.view before.engine →
      Balanced parts (trace ++ [.visit head now visit])
        { after.addUsed parts head.desc.index len with pc := .processing true } := by
    intro len fits same
    refine ⟨?_, fun idle => by cases idle⟩
    rw [offered_append, quiet, List.append_nil]
    simp only [DeviceState.addUsed, parts.virtq.view_addUsed _ _ _ index, queued, popped, same]
    exact accounted.answer fits
  cases visit with
  | rejected err => exact answered 0 (Nat.zero_le _) effect
  | limited request =>
      rw [DeviceState.settle, queued]
      exact balanced_undo after balanced quiet undone effect
  | processed request result =>
      obtain ⟨⟨mem, accepts⟩, effect⟩ := effect
      cases result with
      | submitted =>
          refine ⟨?_, fun idle => by cases idle⟩
          rw [offered_append, quiet, List.append_nil]
          simp only [DeviceState.settle, queued, popped, EngineView.inFlight, effect.2,
            Multiset.cons_add]
          exact accounted.submit accepts.fits effect.1 index
      | throttled =>
          rw [DeviceState.settle, queued]
          exact balanced_undo { after with isIoEngineThrottled := true } balanced quiet undone
            effect.1
      | executed finished => exact answered finished.numBytesToMem effect.2 effect.1

theorem balanced_reap {engine : Engine} {mem : Memory} {cqe : Cqe EngineError} {reaper : Reaper}
    (balanced : Balanced parts trace before) (at_pc : before.pc = .completing reaper)
    (pop : parts.io.pop before.engine before.mem = (.ok (some cqe), engine, mem)) :
    Balanced parts (trace ++ [.reap cqe.userData])
      (({ before with engine, mem } : DeviceState Queue Engine Limiter Memory).reap parts cqe) := by
  obtain ⟨count_le, rest, waiting, popped⟩ := parts.io.pop_some pop
  refine ⟨?_, fun idle => by cases at_pc.symm.trans idle⟩
  have accounted := balanced.accounted
  have flies : (parts.io.view before.engine).inFlight =
      cqe.userData ::ₘ (parts.io.view engine).inFlight := by
    rw [EngineView.inFlight, waiting, popped, EngineView.inFlight, Multiset.add_cons]
  rw [flies] at accounted
  have within : ∀ chain, cqe.userData.Fits chain → cqe.userData.type ≠ .getDeviceID →
      (({ before with engine, mem } : DeviceState Queue Engine Limiter Memory).finish parts
        cqe.userData (cqe.result.mapError .fileEngine)).1.numBytesToMem.toNat ≤ chain.writable := by
    intro chain fits moves
    refine finish_le_writable fits ?_
    intro count counted
    cases result : cqe.result with
    | error error => simp [result, Except.mapError] at counted
    | ok transferred =>
        obtain rfl : transferred = count := by simpa [result, Except.mapError] using counted
        exact ⟨count_le transferred result, fun getId => absurd getId moves⟩
  obtain ⟨index, accounted⟩ := accounted.reap within
  rw [offered_append, show offered [DeviceLabel.reap cqe.userData] = [] from rfl, List.append_nil]
  simp only [DeviceState.reap, DeviceState.addUsed, finish_snd, finish_fst, finish_descIdx,
    parts.virtq.view_addUsed _ _ _ index]
  exact accounted

theorem balanced_endCompleting {reaper : Reaper} {engine : Engine} {mem : Memory}
    (balanced : Balanced parts trace before) (quiet : offered [label] = [])
    (same : parts.io.view engine = parts.io.view before.engine) :
    Balanced parts (trace ++ [label])
      (({ before with engine, mem } : DeviceState Queue Engine Limiter Memory).endCompleting
        parts reaper) := by
  obtain ⟨view, kept⟩ := endCompleting_eq parts { before with engine, mem } reaper
  refine balanced.keep quiet ?_ ?_ ?_ fun _ => ?_
  · rw [view]
  · rw [view]
  · rw [kept, same]
  · rw [view]

theorem balanced_step (balanced : Balanced parts trace before)
    (step : DeviceStep parts disk before label after) :
    Balanced parts (trace ++ [label]) after := by
  cases step with
  | offer added =>
      refine ⟨?_, fun idle => ?_⟩
      · rw [offered_append, added]
        simpa [offered] using balanced.accounted.offer
      · rw [added]
        exact balanced.published idle
  | notify => exact balanced.keep rfl rfl rfl rfl balanced.published
  | scribble same =>
      refine balanced.keep rfl ?_ ?_ rfl fun idle => ?_
      · rw [same]
      · rw [same]
      · rw [same]
        exact balanced.published idle
  | complete advances =>
      exact balanced.keep rfl rfl rfl advances.inFlight balanced.published
  | refill => exact balanced.keep rfl rfl rfl rfl balanced.published
  | queueEvent at_pc =>
      unfold DeviceState.processQueueEvent
      have published := balanced.published at_pc
      split
      · split
        · exact balanced.keep rfl rfl rfl rfl fun _ => published
        · split <;> exact balanced.keep rfl rfl rfl rfl fun _ => published
      · exact balanced.keep rfl rfl rfl rfl fun _ => published
  | rateLimiterEvent at_pc =>
      unfold DeviceState.processRateLimiterEvent
      have published := balanced.published at_pc
      dsimp only
      split <;> exact balanced.keep rfl rfl rfl rfl fun _ => published
  | completionEvent at_pc =>
      unfold DeviceState.processAsyncCompletionEvent
      have published := balanced.published at_pc
      dsimp only
      split
      · split
        next read =>
          refine balanced.keep rfl rfl rfl ?_ fun _ => published
          simp only [parts.io.readCompletionEvt_ok read]
          rfl
        next read =>
          refine balanced.keep rfl rfl rfl ?_ fun _ => published
          rw [parts.io.readCompletionEvt_error (Bool.eq_false_iff.mpr read)]
      · exact balanced.keep rfl rfl rfl rfl fun _ => published
  | prepareSave at_pc =>
      unfold DeviceState.prepareSave
      have published := balanced.published at_pc
      have drained := (parts.io.drain_advances before.engine).inFlight
      dsimp only
      split <;> exact balanced.keep rfl rfl rfl drained fun _ => published
  | visit now at_pc pop visited => exact balanced_visit balanced pop visited
  | exhausted at_pc pop =>
      obtain ⟨-, emptied⟩ := parts.virtq.pop_none pop
      exact balanced_undo before balanced rfl emptied rfl
  | invalidAvailIdx => exact balanced.keep rfl rfl rfl rfl fun idle => by cases idle
  | reap at_pc pop => exact balanced_reap balanced at_pc pop
  | reaped at_pc pop =>
      exact balanced_endCompleting balanced rfl (parts.io.pop_none pop).2
  | unreadable at_pc pop =>
      exact balanced_endCompleting balanced rfl (parts.io.pop_error pop)

theorem balanced_run (run : (device parts disk).Run trace state) :
    Balanced parts trace state := by
  obtain ⟨initial, ⟨queue, engine, -⟩, path⟩ := run
  have start : Balanced parts [] initial := by
    refine ⟨?_, fun _ => by rw [queue]⟩
    rw [queue, engine]
    exact Accounted.empty
  exact path.invariant_trace (Balanced parts) balanced_step start

/-- In every run each chain which the guest has made available is waiting, in flight or answered,
and only one of these; no answer claims more bytes than its chain has room for, and an idle device
has shown the guest all of them. -/
theorem chains_answered_once (run : (device parts disk).Run trace state) :
    ∃ (taken : List DescriptorChain) (answers : List (DescriptorChain × UInt32))
      (flying : Multiset (DescriptorChain × PendingRequest)),
      offered trace = taken ++ (parts.virtq.view state.queue).avail ∧
      (taken : Multiset DescriptorChain) =
        (answers.map Prod.fst : List _) + flying.map Prod.fst ∧
      (parts.virtq.view state.queue).used =
        answers.map (fun answer => (answer.1.desc.index, answer.2)) ∧
      (parts.io.view state.engine).inFlight = flying.map Prod.snd ∧
      (∀ entry ∈ flying, entry.2.descIdx = entry.1.desc.index) ∧
      (∀ answer ∈ answers, answer.2.toNat ≤ answer.1.writable) ∧
      (state.pc = .idle →
        (parts.virtq.view state.queue).published = (parts.virtq.view state.queue).used) := by
  obtain ⟨⟨answers, flying, ledger⟩, published⟩ := balanced_run run
  obtain ⟨taken, whole, places⟩ := ledger.taken
  exact ⟨taken, answers, flying, whole, places, ledger.used, ledger.inFlight,
    fun entry member => (ledger.fits entry member).1.descIdx, ledger.bounded, published⟩

/-! ### A device in memory -/

/-- A virtqueue which is its own view, and remembers the last head for `undo_pop`. -/
structure ListQueue where
  view : QueueView
  last : Option DescriptorChain

def listQueue : VirtQueue ListQueue where
  popOrEnableNotification queue :=
    match queue.view.avail with
    | [] => (.ok none, { queue with view := { queue.view with armed := true } })
    | head :: avail => (.ok (some head), ⟨{ queue.view with avail }, some head⟩)
  undoPop queue :=
    { queue with view := { queue.view with avail := queue.last.toList ++ queue.view.avail } }
  addUsed queue index len :=
    { queue with view := { queue.view with used := queue.view.used ++ [(index, len)] } }
  advanceUsedRingIdx queue :=
    { queue with view := { queue.view with published := queue.view.used } }
  prepareKick queue := (true, queue)
  Index _ := True
  view := ListQueue.view
  pop_some := by
    intro queue queue' head popped
    split at popped
    · cases popped
    next avail waiting =>
      cases popped
      exact ⟨trivial, avail, queue.view.armed, queue.view.armed, waiting, rfl, by simp [waiting]⟩
  pop_none := by
    intro queue queue' popped
    split at popped
    next waiting =>
      cases popped
      exact ⟨waiting, rfl⟩
    · cases popped
  view_addUsed _ _ _ _ := rfl
  view_addUsed_error _ _ _ wrong := absurd trivial wrong
  view_advance _ := rfl
  view_prepareKick _ := rfl

/-- An asynchronous engine which takes every request. -/
structure ListEngine where
  running : List PendingRequest
  completed : List PendingRequest
  signalled : Bool

def ListEngine.view (engine : ListEngine) : EngineView :=
  ⟨engine.running, engine.completed, engine.signalled⟩

/-- The engine waits for all that it runs. -/
def ListEngine.drain (engine : ListEngine) : ListEngine :=
  ⟨[], engine.completed ++ engine.running, engine.signalled || !engine.running.isEmpty⟩

theorem ListEngine.drain_advances (engine : ListEngine) :
    engine.view.Advances engine.drain.view := by
  refine ⟨engine.running, by simp [ListEngine.view, ListEngine.drain], by
    simp [ListEngine.view, ListEngine.drain], ?_, ?_⟩
  · intro signalled
    have signalled : engine.signalled = true := signalled
    simp [ListEngine.view, ListEngine.drain, signalled]
  · intro some_running
    simp only [ListEngine.view, ListEngine.drain, Bool.or_eq_true, Bool.not_eq_true',
      List.isEmpty_eq_false_iff]
    exact .inr fun none_running => some_running (by rw [none_running]; rfl)

def listEngine (Memory : Type) : FileEngine ListEngine Memory Unit where
  isAsync _ := true
  perform engine mem _ pending :=
    (.submitted, { engine with running := pending :: engine.running }, mem)
  isThrottlingErr _ := true
  kickSubmissionQueue engine := engine
  pop engine mem :=
    match engine.completed with
    | [] => (.ok none, engine, mem)
    | pending :: completed =>
        (.ok (some ⟨.ok pending.dataLen, pending⟩), { engine with completed }, mem)
  drainAndFlush engine := (true, engine.drain)
  readCompletionEvt engine :=
    if engine.signalled then (true, { engine with signalled := false }) else (false, engine)
  view := ListEngine.view
  perform_submitted _ := rfl
  perform_executed answered := by cases answered
  perform_failed answered := by cases answered
  pop_some := by
    intro engine mem cqe engine' mem' popped
    split at popped
    · cases popped
    next pending completed waiting =>
      cases popped
      refine ⟨fun count counted => ?_, completed, by simp [ListEngine.view, waiting], rfl⟩
      rw [Except.ok.inj counted]
      exact UInt32.le_refl _
  pop_none := by
    intro engine mem engine' mem' popped
    split at popped
    next waiting =>
      cases popped
      exact ⟨by simp [ListEngine.view, waiting], rfl⟩
    · cases popped
  pop_error := by
    intro engine mem engine' mem' popped
    split at popped <;> cases popped
  readCompletionEvt_ok := by
    intro engine read
    by_cases signalled : engine.signalled = true
    · simp [signalled, ListEngine.view]
    · simp [signalled] at read
  readCompletionEvt_error := by
    intro engine read
    by_cases signalled : engine.signalled = true
    · simp [signalled] at read
    · simp [signalled]
  kick_advances engine := .refl _
  drain_advances := ListEngine.drain_advances
  drain_empties _ _ := rfl

/-- Guest memory as a function, all of it mapped. -/
def wholeMemory : GuestMemory (UInt64 → UInt8) Unit where
  readObj mem addr size := .ok ((List.range size).map fun index => mem (addr + UInt64.ofNat index))
  writeSlice mem bytes addr :=
    (.ok (), fun at_addr => (bytes[(at_addr - addr).toNat]?).getD (mem at_addr))

/-- A limiter without buckets. -/
def unlimited : RateLimiter Unit where
  consume _ _ _ := (true, ())
  manualReplenish _ _ _ := ()
  isBlocked _ := false
  eventHandler _ := (false, ())
  consume_refused refused := by cases refused
  isBlocked_manualReplenish _ _ _ := rfl
  isBlocked_eventHandler _ := rfl

def sampleParts : Parts ListQueue ListEngine Unit (UInt64 → UInt8) Unit Unit :=
  ⟨wholeMemory, listQueue, listEngine _, unlimited⟩

theorem plain_rootfs : Trace.Plain "rootfs".toList := by decide

/-- A disk of eight sectors. -/
def sampleDisk : Disk :=
  ⟨4096, List.replicate 20 0, "rootfs".toList, plain_rootfs⟩

/-- A read of the first sector. -/
def sampleChain : DescriptorChain where
  desc := ⟨0, 0, 16, false⟩
  rest := [⟨1, 4096, 512, true⟩, ⟨2, 8192, 1, true⟩]
  dangling := false

/-- A device which has just been activated. -/
def sampleStart : DeviceState ListQueue ListEngine Unit (UInt64 → UInt8) where
  queue := ⟨⟨[], [], [], true⟩, none⟩
  engine := ⟨[], [], false⟩
  rateLimiter := ()
  isIoEngineThrottled := false
  mem := fun _ => 0
  calls := []
  interrupts := 0
  queueEvt := false
  kickDue := false
  pc := .idle

/-- The guest has asked for the read, and the device looks at its queue. -/
def sampleReady : DeviceState ListQueue ListEngine Unit (UInt64 → UInt8) :=
  { sampleStart with queue := ⟨⟨[sampleChain], [], [], true⟩, none⟩, pc := .processing false }

def sampleRequest : Request :=
  ⟨.transferIn, 512, 8192, 0, 4096⟩

/-- The engine runs the read. -/
def sampleTaken : DeviceState ListQueue ListEngine Unit (UInt64 → UInt8) :=
  { sampleReady with
    queue := ⟨⟨[], [], [], true⟩, some sampleChain⟩
    engine := ⟨[sampleRequest.toPendingRequest 0], [], false⟩
    calls := [sampleDisk.call "read".toList plain_read 0 512 none] }

/-- The device with the chain popped from its queue. -/
def samplePopped : DeviceState ListQueue ListEngine Unit (UInt64 → UInt8) :=
  { sampleReady with queue := ⟨⟨[], [], [], true⟩, some sampleChain⟩ }

theorem sample_visit : samplePopped.visit sampleParts sampleDisk sampleChain none =
    (.processed sampleRequest .submitted, sampleTaken) := by
  rfl

/-- The labels of the steps in which the device takes up a read. -/
def sampleLabels : List (DeviceLabel Unit) :=
  [.offer [sampleChain], .notify, .queueEvent,
    .visit sampleChain none (.processed sampleRequest .submitted), .exhausted]

theorem sample_path :
    ((device sampleParts sampleDisk).restrict fun _ label => label ≠ .unreadable).Path sampleStart
      sampleLabels (sampleTaken.endProcessing sampleParts false) := by
  have offered : DeviceStep sampleParts sampleDisk sampleStart (.offer [sampleChain])
      { sampleReady with kickDue := true, pc := .idle } := .offer rfl
  have noticed : DeviceStep sampleParts sampleDisk
      { sampleReady with queueEvt := true, pc := .idle } .queueEvent sampleReady := .queueEvent rfl
  have visited : DeviceStep sampleParts sampleDisk sampleReady
      (.visit sampleChain none (.processed sampleRequest .submitted)) sampleTaken :=
    .visit none rfl rfl sample_visit
  have exhausted : DeviceStep sampleParts sampleDisk sampleTaken .exhausted
      (sampleTaken.endProcessing sampleParts false) := .exhausted rfl rfl
  exact .cons ⟨offered, by simp⟩ (.cons ⟨.notify _, by simp⟩ (.cons ⟨noticed, by simp⟩
    (.cons ⟨visited, by simp⟩ (.cons ⟨exhausted, by simp⟩ (.nil _)))))

theorem sample_run : (device sampleParts sampleDisk).Run sampleLabels
    (sampleTaken.endProcessing sampleParts false) :=
  ⟨sampleStart, ⟨rfl, rfl, rfl, rfl, rfl⟩, sample_path.of_restrict⟩

/-! ### Snapshots -/

/-- A drained engine has nothing left to run. -/
def Drained (parts : Parts Queue Engine Limiter Memory Fault EngineError)
    (state : DeviceState Queue Engine Limiter Memory) : Prop :=
  state.pc = .completing (.save true) → (parts.io.view state.engine).running = 0

theorem EngineView.Advances.running {before after : EngineView} (advances : before.Advances after)
    (empty : before.running = 0) : after.running = 0 := by
  obtain ⟨finished, running, -⟩ := advances
  rw [running] at empty
  rw [← Multiset.le_zero, ← empty]
  exact Multiset.le_add_left _ _

theorem settle_pc {usedAny : Bool} {visit : Visit Fault} {reaper : Reaper} :
    (state.settle parts usedAny head visit).pc ≠ .completing reaper := by
  cases visit with
  | rejected err => simp [DeviceState.settle]
  | limited request =>
      rw [DeviceState.settle, endProcessing_pc]
      simp
  | processed request result =>
      cases result with
      | submitted | executed finished => simp [DeviceState.settle]
      | throttled =>
          rw [DeviceState.settle, endProcessing_pc]
          simp

theorem endCompleting_pc {reaper reaper' : Reaper} :
    (state.endCompleting parts reaper).pc ≠ .completing reaper' := by
  cases reaper with
  | save drained => simp [DeviceState.endCompleting]
  | event =>
      simp only [DeviceState.endCompleting]
      split <;> simp

theorem drained_step (drained : Drained parts before)
    (step : DeviceStep parts disk before label after) : Drained parts after := by
  cases step with
  | offer | notify | scribble | refill => exact drained
  | complete advances => exact fun saving => advances.running (drained saving)
  | queueEvent at_pc =>
      unfold DeviceState.processQueueEvent
      intro saving
      split at saving
      · split at saving
        · cases at_pc.symm.trans saving
        · split at saving
          · cases at_pc.symm.trans saving
          · cases saving
      · cases at_pc.symm.trans saving
  | rateLimiterEvent at_pc =>
      unfold DeviceState.processRateLimiterEvent
      intro saving
      dsimp only at saving
      split at saving
      · cases saving
      · cases at_pc.symm.trans saving
  | completionEvent at_pc =>
      unfold DeviceState.processAsyncCompletionEvent
      intro saving
      dsimp only at saving
      split at saving
      · split at saving
        · cases saving
        · cases at_pc.symm.trans saving
      · cases at_pc.symm.trans saving
  | prepareSave at_pc =>
      unfold DeviceState.prepareSave
      intro saving
      dsimp only at saving ⊢
      split at saving
      next async =>
        rw [if_pos async]
        have succeeded : (parts.io.drainAndFlush before.engine).1 = true := by
          simpa using saving
        exact parts.io.drain_empties _ succeeded
      next => cases at_pc.symm.trans saving
  | visit => exact fun saving => absurd saving settle_pc
  | exhausted =>
      intro saving
      rw [endProcessing_pc] at saving
      cases saving
  | invalidAvailIdx => exact fun saving => by cases saving
  | reap at_pc pop =>
      intro saving
      obtain ⟨-, rest, -, popped⟩ := parts.io.pop_some pop
      simp only [DeviceState.reap, DeviceState.addUsed, finish_snd, popped]
      exact drained saving
  | reaped | unreadable => exact fun saving => absurd saving endCompleting_pc

theorem device_drained (run : (device parts disk).Run trace state) : Drained parts state := by
  refine run.reachable.invariant (Drained parts) ?_ drained_step
  rintro state ⟨-, -, -, -, idle⟩ saving
  cases idle.symm.trans saving

/-- Once `prepare_save` has drained the engine and read the last completion, every chain which the
device has taken is answered, and the guest's ring shows it. -/
theorem saved_answered (run : (device parts disk).Run trace before)
    (saving : before.pc = .completing (.save true))
    (step : DeviceStep parts disk before .reaped after) :
    (parts.io.view after.engine).inFlight = 0 ∧
      ∃ (taken : List DescriptorChain) (answers : List (DescriptorChain × UInt32)),
        offered trace = taken ++ (parts.virtq.view after.queue).avail ∧
        taken.Perm (answers.map Prod.fst) ∧
        (parts.virtq.view after.queue).published =
          answers.map fun answer => (answer.1.desc.index, answer.2) := by
  have idle := device_drained run saving
  have balanced := balanced_run (run.extend step)
  have later : offered (trace ++ [DeviceLabel.reaped]) = offered trace := by
    rw [offered_append]
    exact List.append_nil _
  cases step with
  | @reaped reaper engine mem at_pc pop =>
      obtain ⟨none_left, same⟩ := parts.io.pop_none pop
      obtain ⟨view, kept⟩ := endCompleting_eq parts { before with engine, mem } reaper
      have empty : (parts.io.view (({ before with engine, mem } :
          DeviceState Queue Engine Limiter Memory).endCompleting parts reaper).engine).inFlight =
          0 := by
        rw [kept, EngineView.inFlight, same, idle, none_left, zero_add]
      obtain ⟨answers, flying, ledger⟩ := balanced.accounted
      obtain ⟨taken, whole, places⟩ := ledger.taken
      have none_flying : flying = 0 := by
        rw [← Multiset.map_eq_zero (f := Prod.snd), ← ledger.inFlight, empty]
      rw [none_flying, Multiset.map_zero, add_zero, Multiset.coe_eq_coe] at places
      refine ⟨empty, taken, answers, later ▸ whole, places, ?_⟩
      rw [← ledger.used, view]

/-- The device is saved while the read is in flight. -/
def sampleSaved : DeviceState ListQueue ListEngine Unit (UInt64 → UInt8) :=
  { sampleTaken.endProcessing sampleParts false with
    engine := sampleTaken.engine.drain
    pc := .completing (.save true) }

/-- The completion of the read has been popped. -/
def sampleReaped : DeviceState ListQueue ListEngine Unit (UInt64 → UInt8) :=
  DeviceState.reap sampleParts { sampleSaved with engine := ⟨[], [], true⟩ }
    ⟨.ok 512, sampleRequest.toPendingRequest 0⟩

/-- The labels of a run in which the device is saved. -/
def sampleSaving : List (DeviceLabel Unit) :=
  sampleLabels ++ [.prepareSave, .reap (sampleRequest.toPendingRequest 0)]

theorem sample_saving_path :
    ((device sampleParts sampleDisk).restrict fun _ label => label ≠ .unreadable).Path sampleStart
      sampleSaving sampleReaped := by
  have saving : DeviceStep sampleParts sampleDisk (sampleTaken.endProcessing sampleParts false)
      .prepareSave sampleSaved := .prepareSave rfl
  have popped : sampleParts.io.pop sampleSaved.engine sampleSaved.mem =
      (.ok (some ⟨.ok 512, sampleRequest.toPendingRequest 0⟩), ⟨[], [], true⟩, sampleSaved.mem) :=
    rfl
  exact sample_path.trans (.cons ⟨saving, by simp⟩ (.cons ⟨.reap rfl popped, by simp⟩ (.nil _)))

theorem sample_reaped : DeviceStep sampleParts sampleDisk sampleReaped .reaped
    (sampleReaped.endCompleting sampleParts (.save true)) :=
  .reaped rfl rfl

/-- The read is answered before the snapshot is taken. -/
theorem saved_answered_sample :
    (sampleParts.io.view (sampleReaped.endCompleting sampleParts (.save true)).engine).inFlight =
        0 ∧
      ∃ (taken : List DescriptorChain) (answers : List (DescriptorChain × UInt32)),
        offered sampleSaving = taken ++
          (sampleParts.virtq.view
            (sampleReaped.endCompleting sampleParts (.save true)).queue).avail ∧
        taken.Perm (answers.map Prod.fst) ∧
        (sampleParts.virtq.view
            (sampleReaped.endCompleting sampleParts (.save true)).queue).published =
          answers.map fun answer => (answer.1.desc.index, answer.2) :=
  saved_answered ⟨sampleStart, ⟨rfl, rfl, rfl, rfl, rfl⟩, sample_saving_path.of_restrict⟩ rfl
    sample_reaped

/-! ### A chain which waits -/

/-- A read of the second sector. -/
def waitingChain : DescriptorChain where
  desc := ⟨3, 64, 16, false⟩
  rest := [⟨4, 4608, 512, true⟩, ⟨5, 8193, 1, true⟩]
  dangling := false

/-- The first read is answered, and the guest has asked for the second one. -/
def sampleWaiting : DeviceState ListQueue ListEngine Unit (UInt64 → UInt8) :=
  { sampleReaped.endCompleting sampleParts (.save true) with
    queue := ⟨⟨[waitingChain], [(0, 513)], [(0, 513)], true⟩, some sampleChain⟩
    kickDue := true }

def sampleWaits : List (DeviceLabel Unit) :=
  sampleSaving ++ [.reaped, .offer [waitingChain]]

theorem sample_waiting_path :
    ((device sampleParts sampleDisk).restrict fun _ label => label ≠ .unreadable).Path sampleStart
      sampleWaits sampleWaiting := by
  have offered : DeviceStep sampleParts sampleDisk
      (sampleReaped.endCompleting sampleParts (.save true)) (.offer [waitingChain])
      sampleWaiting := .offer rfl
  exact sample_saving_path.trans
    (.cons ⟨sample_reaped, by simp⟩ (.cons ⟨offered, by simp⟩ (.nil _)))

/-- Of the two reads one is answered and one waits. -/
theorem chains_answered_once_sample :
    ∃ (taken : List DescriptorChain) (answers : List (DescriptorChain × UInt32))
      (flying : Multiset (DescriptorChain × PendingRequest)),
      [sampleChain, waitingChain] = taken ++ [waitingChain] ∧
      (taken : Multiset DescriptorChain) =
        (answers.map Prod.fst : List _) + flying.map Prod.fst ∧
      [(0, 513)] = answers.map (fun answer => (answer.1.desc.index, answer.2)) ∧
      0 = flying.map Prod.snd ∧
      (∀ entry ∈ flying, entry.2.descIdx = entry.1.desc.index) ∧
      (∀ answer ∈ answers, answer.2.toNat ≤ answer.1.writable) ∧
      (DevicePc.idle = .idle → [((0 : UInt16), (513 : UInt32))] = [(0, 513)]) :=
  chains_answered_once ⟨sampleStart, ⟨rfl, rfl, rfl, rfl, rfl⟩, sample_waiting_path.of_restrict⟩

end Block
end HermOS
