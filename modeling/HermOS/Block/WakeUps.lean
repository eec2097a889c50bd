import HermOS.Block.Completion

/-!
# No chain is forgotten

The device stops taking chains when the limiter or the engine refuses one, and ignores the guest's
notifications until then.  Whenever a chain waits and no handler runs, one of the events to come
takes it up.
-/

namespace HermOS
namespace Block

variable {Queue Engine Limiter Memory Fault EngineError : Type}
  {parts : Parts Queue Engine Limiter Memory Fault EngineError} {disk : Disk}
  {state before after : DeviceState Queue Engine Limiter Memory}

/-- A completion event can be read or will be signalled. -/
def EngineView.WillSignal (view : EngineView) : Prop :=
  view.signalled ∨ view.running ≠ 0

/-- The handler of a completion event is running. -/
def DevicePc.Reaping (pc : DevicePc) : Prop :=
  pc = .completing .event

/-- What will make the device look at the avail ring. -/
inductive Wakes (parts : Parts Queue Engine Limiter Memory Fault EngineError)
    (state : DeviceState Queue Engine Limiter Memory) : Prop
  | processing (usedAny : Bool) (pc : state.pc = .processing usedAny)
  | kickDue (due : state.kickDue = true)
  | queueEvt (readable : state.queueEvt = true)
  /-- The limiter sends an event when it unblocks. -/
  | limiter (blocked : parts.rate.isBlocked state.rateLimiter = true)
  /-- The engine signals a completion, after which a throttled device goes on. -/
  | engine (throttled : state.isIoEngineThrottled = true)
      (signals : (parts.io.view state.engine).WillSignal ∨ state.pc.Reaping)

/-- What holds in every state of a run. -/
structure Alert (parts : Parts Queue Engine Limiter Memory Fault EngineError)
    (state : DeviceState Queue Engine Limiter Memory) : Prop where
  /-- A throttled device will be told of a completion. -/
  throttled : state.isIoEngineThrottled = true →
    (parts.io.view state.engine).WillSignal ∨ state.pc.Reaping
  /-- Completions which wait have been signalled. -/
  completed : (parts.io.view state.engine).completed ≠ 0 →
    (parts.io.view state.engine).signalled = true ∨ state.pc.Reaping
  /-- Chains do not wait for nothing, and the guest announces the first one which will. -/
  waiting : state.pc = .failed ∨ Wakes parts state ∨
    ((parts.virtq.view state.queue).avail = [] ∧ (parts.virtq.view state.queue).armed = true)

namespace EngineView

variable {view later : EngineView}

theorem Advances.willSignal (advances : view.Advances later) (will : view.WillSignal) :
    later.WillSignal := by
  obtain ⟨finished, running, -, kept, signals⟩ := advances
  by_cases some_finished : finished = 0
  · rcases will with signalled | runs
    · exact .inl (kept signalled)
    · rw [running, some_finished, zero_add] at runs
      exact .inr runs
  · exact .inl (signals some_finished)

theorem Advances.signalled (advances : view.Advances later)
    (before : view.completed ≠ 0 → view.signalled = true) (waits : later.completed ≠ 0) :
    later.signalled = true := by
  obtain ⟨finished, -, completed, kept, signals⟩ := advances
  by_cases some_finished : finished = 0
  · rw [completed, some_finished, add_zero] at waits
    exact kept (before waits)
  · exact signals some_finished

end EngineView

/-- A step after which all that could wake the device can still do so. -/
theorem Alert.keep (alert : Alert parts before)
    (pc : after.pc = before.pc ∨ before.pc = .idle)
    (throttled : after.isIoEngineThrottled = before.isIoEngineThrottled)
    (advances : (parts.io.view before.engine).Advances (parts.io.view after.engine))
    (blocked : parts.rate.isBlocked after.rateLimiter = parts.rate.isBlocked before.rateLimiter)
    (queueEvt : before.queueEvt = true → after.queueEvt = true)
    (kickDue : before.kickDue = true → after.kickDue = true ∨ after.queueEvt = true)
    (queue : (parts.virtq.view before.queue).avail = [] →
      (parts.virtq.view before.queue).armed = true → Wakes parts after ∨
      (parts.virtq.view after.queue).avail = [] ∧ (parts.virtq.view after.queue).armed = true) :
    Alert parts after := by
  have kept : ∀ {point}, point ≠ .idle → before.pc = point → after.pc = point := by
    intro point running at_point
    rcases pc with same | idle
    · exact same.trans at_point
    · exact absurd (at_point.symm.trans idle) running
  have signals : (parts.io.view before.engine).WillSignal ∨ before.pc.Reaping →
      (parts.io.view after.engine).WillSignal ∨ after.pc.Reaping :=
    Or.imp advances.willSignal (kept (by simp))
  refine ⟨fun flag => signals (alert.throttled (throttled ▸ flag)), fun waits => ?_, ?_⟩
  · by_cases reaping : before.pc.Reaping
    · exact .inr (kept (by simp) reaping)
    · exact .inl (advances.signalled
        (fun waited => (alert.completed waited).resolve_right reaping) waits)
  · rcases alert.waiting with failed | wakes | ⟨empty, armed⟩
    · exact .inl (kept (by simp) failed)
    · refine .inr (.inl ?_)
      cases wakes with
      | processing usedAny at_pc => exact .processing usedAny (kept (by simp) at_pc)
      | kickDue due =>
          rcases kickDue due with due | readable
          · exact .kickDue due
          · exact .queueEvt readable
      | queueEvt readable => exact .queueEvt (queueEvt readable)
      | limiter waits => exact .limiter (blocked.trans waits)
      | engine flag coming => exact .engine (throttled.trans flag) (signals coming)
    · exact .inr (queue empty armed)

/-- What wakes a device outside the loop of `process_queue` still does, if the engine does. -/
theorem Alert.waits (alert : Alert parts before) (running : before.pc ≠ .failed)
    (elsewhere : ∀ usedAny, before.pc ≠ .processing usedAny)
    (kickDue : after.kickDue = before.kickDue) (queueEvt : after.queueEvt = before.queueEvt)
    (rateLimiter : after.rateLimiter = before.rateLimiter)
    (engine : before.isIoEngineThrottled = true → Wakes parts after)
    (avail : (parts.virtq.view after.queue).avail = (parts.virtq.view before.queue).avail)
    (armed : (parts.virtq.view after.queue).armed = (parts.virtq.view before.queue).armed) :
    after.pc = .failed ∨ Wakes parts after ∨ ((parts.virtq.view after.queue).avail = [] ∧
      (parts.virtq.view after.queue).armed = true) := by
  rcases alert.waiting with failed | wakes | ⟨empty, notifies⟩
  · exact absurd failed running
  · refine .inr (.inl ?_)
    cases wakes with
    | processing usedAny at_pc => exact absurd at_pc (elsewhere usedAny)
    | kickDue due => exact .kickDue (kickDue.trans due)
    | queueEvt readable => exact .queueEvt (queueEvt.trans readable)
    | limiter blocked => exact .limiter (by rw [rateLimiter]; exact blocked)
    | engine flag => exact engine flag
  · exact .inr (.inr ⟨avail.trans empty, armed.trans notifies⟩)

/-! ### Visits -/

variable {head : DescriptorChain} {now : Option (BitVec 128)} {usedAny : Bool}

/-- A limited request leaves the limiter blocked. -/
theorem rateLimit_blocked {request : Request} {rateLimiter : Limiter}
    (limited : (request.rateLimit parts.rate rateLimiter).1 = true) :
    parts.rate.isBlocked (request.rateLimit parts.rate rateLimiter).2 = true := by
  unfold Request.rateLimit at limited ⊢
  dsimp only at limited ⊢
  split
  next refused => exact parts.rate.consume_refused (by simpa using refused)
  next granted =>
    rw [if_neg granted] at limited
    split
    next transfer =>
      rw [if_pos transfer] at limited
      split
      next refused =>
        rw [parts.rate.isBlocked_manualReplenish]
        exact parts.rate.consume_refused (by simpa using refused)
      next granted => simp [granted] at limited
    next other => simp [other] at limited

theorem visit_limited {request : Request}
    (visited : before.visit parts disk head now = (.limited request, after)) :
    parts.rate.isBlocked after.rateLimiter = true := by
  unfold DeviceState.visit at visited
  split at visited
  · cases visited
  next parsed =>
    dsimp only at visited
    split at visited
    next limited =>
      cases visited
      exact rateLimit_blocked limited
    · cases visited

/-- What a throttled device and the waiting completions can count on once no completion event is
being handled. -/
structure Signals (view : EngineView) (throttled : Bool) : Prop where
  throttled : throttled = true → view.WillSignal
  completed : view.completed ≠ 0 → view.signalled = true

theorem Alert.signals (alert : Alert parts state) (elsewhere : ¬ state.pc.Reaping) :
    Signals (parts.io.view state.engine) state.isIoEngineThrottled where
  throttled flag := (alert.throttled flag).resolve_right elsewhere
  completed waits := (alert.completed waits).resolve_right elsewhere

theorem Signals.advance {view later : EngineView} {throttled : Bool}
    (signals : Signals view throttled) (advances : view.Advances later) :
    Signals later throttled where
  throttled flag := advances.willSignal (signals.throttled flag)
  completed := advances.signalled signals.completed

theorem Signals.alert (signals : Signals (parts.io.view state.engine) state.isIoEngineThrottled)
    (wakes : Wakes parts state) : Alert parts state where
  throttled flag := .inl (signals.throttled flag)
  completed waits := .inl (signals.completed waits)
  waiting := .inr (.inl wakes)

/-- A throttled device waits for the requests which fill the engine. -/
theorem Signals.throttle {view : EngineView} {throttled : Bool} (signals : Signals view throttled)
    (busy : view.running + view.completed ≠ 0) : Signals view true := by
  refine ⟨fun _ => ?_, signals.completed⟩
  by_cases running : view.running = 0
  · rw [running, zero_add] at busy
    exact .inl (signals.completed busy)
  · exact .inr running

theorem Signals.endProcessing (usedAny : Bool)
    (signals : Signals (parts.io.view state.engine) state.isIoEngineThrottled) :
    Signals (parts.io.view (state.endProcessing parts usedAny).engine)
      (state.endProcessing parts usedAny).isIoEngineThrottled := by
  have same : (state.endProcessing parts usedAny).isIoEngineThrottled =
      state.isIoEngineThrottled := by
    cases usedAny <;> rfl
  rw [same]
  exact signals.advance engine_endProcessing

theorem alert_visit {queue : Queue} {visit : Visit Fault} (alert : Alert parts before)
    (at_pc : before.pc = .processing usedAny)
    (visited : { before with queue }.visit parts disk head now = (visit, after)) :
    Alert parts (after.settle parts usedAny head visit) := by
  obtain ⟨framed, effect⟩ := visit_spec visited
  have elsewhere : ¬ before.pc.Reaping := by
    rw [DevicePc.Reaping, at_pc]
    simp
  have signals := alert.signals elsewhere
  have flag : after.isIoEngineThrottled = before.isIoEngineThrottled := by rw [framed]
  rw [← flag] at signals
  cases visit with
  | rejected err =>
      have same : parts.io.view after.engine = parts.io.view before.engine := effect
      rw [← same] at signals
      exact Signals.alert signals (.processing true rfl)
  | limited request =>
      have same : parts.io.view after.engine = parts.io.view before.engine := effect
      rw [← same] at signals
      refine Signals.alert (Signals.endProcessing usedAny signals) (.limiter ?_)
      have blocked := visit_limited visited
      cases usedAny <;> exact blocked
  | processed request result =>
      obtain ⟨-, effect⟩ := effect
      cases result with
      | submitted =>
          refine Signals.alert ⟨fun _ => .inr ?_, fun waits => ?_⟩ (.processing usedAny rfl)
          · simp only [DeviceState.settle, effect.2]
            exact Multiset.cons_ne_zero
          · simp only [DeviceState.settle, effect.2] at waits ⊢
            exact signals.completed waits
      | throttled =>
          obtain ⟨same, busy⟩ := effect
          rw [← same] at signals busy
          have throttled := signals.throttle busy
          refine Signals.alert (Signals.endProcessing usedAny throttled) (.engine ?_ (.inl ?_))
          · cases usedAny <;> rfl
          · exact (Signals.endProcessing usedAny throttled).throttled (by
              cases usedAny <;> rfl)
      | executed finished =>
          rw [← effect.1] at signals
          exact Signals.alert signals (.processing true rfl)

/-! ### Steps -/

theorem alert_queueEvent (alert : Alert parts state) (at_pc : state.pc = .idle) :
    Alert parts (state.processQueueEvent parts) := by
  have signals := alert.signals (by simp [DevicePc.Reaping, at_pc])
  unfold DeviceState.processQueueEvent
  split
  · split
    next blocked => exact Signals.alert signals (.limiter blocked)
    next =>
      split
      next throttled =>
        exact Signals.alert signals (.engine throttled (.inl (signals.throttled throttled)))
      next => exact Signals.alert signals (.processing false rfl)
  · exact alert

theorem alert_rateLimiterEvent (alert : Alert parts state) (at_pc : state.pc = .idle) :
    Alert parts (state.processRateLimiterEvent parts) := by
  have signals := alert.signals (by simp [DevicePc.Reaping, at_pc])
  unfold DeviceState.processRateLimiterEvent
  dsimp only
  split
  next => exact Signals.alert signals (.processing false rfl)
  next refused =>
    have blocked := parts.rate.isBlocked_eventHandler (Bool.eq_false_iff.mpr refused)
    exact alert.keep (.inl rfl) rfl (.refl _) blocked id .inl fun empty armed => .inr ⟨empty, armed⟩

theorem alert_completionEvent (alert : Alert parts state) (at_pc : state.pc = .idle) :
    Alert parts (state.processAsyncCompletionEvent parts) := by
  unfold DeviceState.processAsyncCompletionEvent
  dsimp only
  split
  · split
    next read =>
      refine ⟨fun _ => .inr rfl, fun _ => .inr rfl, ?_⟩
      exact alert.waits (by simp [at_pc]) (by simp [at_pc]) rfl rfl rfl
        (fun flag => .engine flag (.inr rfl)) rfl rfl
    next read =>
      have same := parts.io.readCompletionEvt_error (Bool.eq_false_iff.mpr read)
      refine alert.keep (.inl rfl) rfl ?_ rfl id .inl fun empty armed => .inr ⟨empty, armed⟩
      rw [same]
      exact .refl _
  · exact alert

theorem alert_prepareSave (alert : Alert parts state) (at_pc : state.pc = .idle) :
    Alert parts (state.prepareSave parts) := by
  have advances := parts.io.drain_advances state.engine
  unfold DeviceState.prepareSave
  dsimp only
  split <;> exact alert.keep (.inr at_pc) rfl advances rfl id .inl
    fun empty armed => .inr ⟨empty, armed⟩

theorem view_addUsed_waiting {queue : Queue} {index : UInt16} {len : UInt32} :
    (parts.virtq.view (parts.virtq.addUsed queue index len)).avail =
        (parts.virtq.view queue).avail ∧
      (parts.virtq.view (parts.virtq.addUsed queue index len)).armed =
        (parts.virtq.view queue).armed := by
  by_cases valid : parts.virtq.Index index
  · rw [parts.virtq.view_addUsed _ _ _ valid]
    exact ⟨rfl, rfl⟩
  · rw [parts.virtq.view_addUsed_error _ _ _ valid]
    exact ⟨rfl, rfl⟩

theorem alert_reap {engine : Engine} {mem : Memory} {cqe : Cqe EngineError} {reaper : Reaper}
    (alert : Alert parts state) (at_pc : state.pc = .completing reaper)
    (pop : parts.io.pop state.engine state.mem = (.ok (some cqe), engine, mem)) :
    Alert parts (({ state with engine, mem } :
      DeviceState Queue Engine Limiter Memory).reap parts cqe) := by
  obtain ⟨-, rest, waiting, popped⟩ := parts.io.pop_some pop
  have some_waiting : (parts.io.view state.engine).completed ≠ 0 := by
    rw [waiting]
    exact Multiset.cons_ne_zero
  refine ⟨fun flag => ?_, fun _ => ?_, ?_⟩
  · have before := alert.throttled flag
    simp only [DeviceState.reap, DeviceState.addUsed, finish_snd, popped, EngineView.WillSignal]
    exact before
  · have before := alert.completed some_waiting
    simp only [DeviceState.reap, DeviceState.addUsed, finish_snd, popped]
    exact before
  · refine alert.waits (by simp [at_pc]) (by simp [at_pc]) rfl rfl rfl (fun flag => ?_)
      view_addUsed_waiting.1 view_addUsed_waiting.2
    refine .engine flag ?_
    have before := alert.throttled flag
    simp only [DeviceState.reap, DeviceState.addUsed, finish_snd, popped, EngineView.WillSignal]
    exact before

theorem endCompleting_throttled (state : DeviceState Queue Engine Limiter Memory)
    (throttled : state.isIoEngineThrottled = true) :
    state.endCompleting parts .event =
      { (state.publish parts).kickGuest parts with
        isIoEngineThrottled := false
        pc := .processing false } :=
  if_pos throttled

theorem endCompleting_free (state : DeviceState Queue Engine Limiter Memory)
    (free : ¬ state.isIoEngineThrottled = true) :
    state.endCompleting parts .event =
      { (state.publish parts).kickGuest parts with pc := .idle } :=
  if_neg free

theorem alert_reaped {engine : Engine} {mem : Memory} {reaper : Reaper} (alert : Alert parts state)
    (at_pc : state.pc = .completing reaper)
    (pop : parts.io.pop state.engine state.mem = (.ok none, engine, mem)) :
    Alert parts (({ state with engine, mem } :
      DeviceState Queue Engine Limiter Memory).endCompleting parts reaper) := by
  obtain ⟨none_left, same⟩ := parts.io.pop_none pop
  obtain ⟨view, kept⟩ := endCompleting_eq parts { state with engine, mem } reaper
  have running : state.pc ≠ .failed := by simp [at_pc]
  have elsewhere : ∀ usedAny, state.pc ≠ .processing usedAny := by simp [at_pc]
  have no_completed : ∀ {prop}, (parts.io.view engine).completed ≠ 0 → prop := by
    intro prop waits
    rw [same] at waits
    exact absurd none_left waits
  cases reaper with
  | save drained =>
      have signals := alert.signals (by simp [DevicePc.Reaping, at_pc])
      have throttled : state.isIoEngineThrottled = true → (parts.io.view engine).WillSignal := by
        rw [same]
        exact signals.throttled
      refine ⟨fun flag => .inl (throttled flag), no_completed, ?_⟩
      exact alert.waits running elsewhere rfl rfl rfl
        (fun flag => .engine flag (.inl (throttled flag))) (by rw [view]) (by rw [view])
  | event =>
      by_cases flag : state.isIoEngineThrottled = true
      · rw [endCompleting_throttled { state with engine, mem } flag]
        exact ⟨by simp, no_completed, .inr (.inl (.processing false rfl))⟩
      · rw [endCompleting_free { state with engine, mem } flag] at view ⊢
        refine ⟨fun flagged => absurd flagged flag, no_completed, ?_⟩
        exact alert.waits running elsewhere rfl rfl rfl (fun flagged => absurd flagged flag)
          (by rw [view]) (by rw [view])

theorem alert_step {label : DeviceLabel Fault} (alert : Alert parts before)
    (step : DeviceStep parts disk before label after) (readable : label ≠ .unreadable) :
    Alert parts after := by
  cases step with
  | offer added =>
      refine alert.keep (.inl rfl) rfl (.refl _) rfl id (fun due => .inl ?_) fun _ armed => ?_
      · simp [due]
      · exact .inl (.kickDue (by simp [armed]))
  | notify =>
      exact alert.keep (.inl rfl) rfl (.refl _) rfl (fun _ => rfl) (fun _ => .inr rfl)
        fun empty armed => .inr ⟨empty, armed⟩
  | scribble same =>
      refine alert.keep (.inl rfl) rfl (.refl _) rfl id .inl fun empty armed => .inr ?_
      rw [same]
      exact ⟨empty, armed⟩
  | complete advances =>
      exact alert.keep (.inl rfl) rfl advances rfl id .inl fun empty armed => .inr ⟨empty, armed⟩
  | refill blocked =>
      exact alert.keep (.inl rfl) rfl (.refl _) blocked id .inl
        fun empty armed => .inr ⟨empty, armed⟩
  | queueEvent at_pc => exact alert_queueEvent alert at_pc
  | rateLimiterEvent at_pc => exact alert_rateLimiterEvent alert at_pc
  | completionEvent at_pc => exact alert_completionEvent alert at_pc
  | prepareSave at_pc => exact alert_prepareSave alert at_pc
  | visit now at_pc pop visited => exact alert_visit alert at_pc visited
  | @exhausted usedAny queue at_pc pop =>
      obtain ⟨empty, emptied⟩ := parts.virtq.pop_none pop
      have signals : Signals (parts.io.view ({ before with queue } :
          DeviceState Queue Engine Limiter Memory).engine) before.isIoEngineThrottled :=
        alert.signals (by simp [DevicePc.Reaping, at_pc])
      have signals := Signals.endProcessing usedAny signals
      refine ⟨fun flag => .inl (signals.throttled flag),
        fun waits => .inl (signals.completed waits), .inr (.inr ?_)⟩
      rw [view_endProcessing, emptied]
      exact ⟨empty, rfl⟩
  | invalidAvailIdx at_pc =>
      have signals := alert.signals (by simp [DevicePc.Reaping, at_pc])
      exact ⟨fun flag => .inl (signals.throttled flag), fun waits => .inl (signals.completed waits),
        .inl rfl⟩
  | reap at_pc pop => exact alert_reap alert at_pc pop
  | reaped at_pc pop => exact alert_reaped alert at_pc pop
  | unreadable => exact absurd rfl readable

theorem alert_reachable
    (reachable :
      ((device parts disk).restrict fun _ label => label ≠ .unreadable).Reachable state) :
    Alert parts state := by
  have closed : ∀ {before label after}, Alert parts before →
      ((device parts disk).restrict fun _ label => label ≠ .unreadable).Step before label after →
      Alert parts after := fun alert step => alert_step alert step.1 step.2
  refine reachable.invariant (Alert parts) ?_ closed
  rintro state ⟨queue, engine, free, -, -⟩
  refine ⟨fun flag => ?_, fun waits => ?_, .inr (.inr ?_)⟩
  · rw [free] at flag
    cases flag
  · rw [engine] at waits
    exact absurd rfl waits
  · rw [queue]
    exact ⟨rfl, rfl⟩

/-- A chain which waits will be looked at, and a device which does not look is told of the next
one. -/
theorem device_wakes
    (reachable : ((device parts disk).restrict fun _ label => label ≠ .unreadable).Reachable state)
    (running : state.pc ≠ .failed) :
    Wakes parts state ∨ ((parts.virtq.view state.queue).avail = [] ∧
      (parts.virtq.view state.queue).armed = true) :=
  (alert_reachable reachable).waiting.resolve_left running

/-- The read which waits will be looked at. -/
theorem device_wakes_sample : Wakes sampleParts sampleWaiting ∨
    ((sampleParts.virtq.view sampleWaiting.queue).avail = [] ∧
      (sampleParts.virtq.view sampleWaiting.queue).armed = true) :=
  device_wakes ⟨sampleWaits, sampleStart, ⟨rfl, rfl, rfl, rfl, rfl⟩, sample_waiting_path⟩ nofun

end Block
end HermOS
