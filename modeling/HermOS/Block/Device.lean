import HermOS.Block.Request
import HermOS.Library.TransitionSystem
import HermOS.Trace.Record
import Mathlib.Algebra.Order.Group.Multiset

/-!
# The virtio block device

The event handlers of `VirtioBlock` between the guest, the IO engine and the rate limiter, each of
which may act between two of its steps.  Virtqueue, engine and limiter come from outside the device:
each is a structure of its operations, of what can be observed of it, and of what its operations
are documented to do to that.  `update_disk_image`, which replaces the engine, is left out.
-/

namespace HermOS
namespace Block

open Python (Text)

/-! ### The parts -/

/-- What can be observed of a virtqueue. -/
structure QueueView where
  /-- Chains which the guest has made available and the device has not taken. -/
  avail : List DescriptorChain
  /-- Used elements which the device has written. -/
  used : List (UInt16 × UInt32)
  /-- Used elements which the guest can see. -/
  published : List (UInt16 × UInt32)
  /-- The guest has to notify the device of the next available chain. -/
  armed : Bool

structure VirtQueue (Queue : Type) where
  /-- `pop_or_enable_notification`; an error is `InvalidAvailIdx`. -/
  popOrEnableNotification : Queue → Except Unit (Option DescriptorChain) × Queue
  undoPop : Queue → Queue
  /-- `add_used`; it fails for an index which is not one of the queue. -/
  addUsed : Queue → UInt16 → UInt32 → Queue
  advanceUsedRingIdx : Queue → Queue
  prepareKick : Queue → Bool × Queue
  /-- The index names a descriptor of the queue. -/
  Index : UInt16 → Prop
  view : Queue → QueueView
  pop_some : ∀ {queue queue' head}, popOrEnableNotification queue = (.ok (some head), queue') →
    Index head.desc.index ∧ ∃ rest armed armed', (view queue).avail = head :: rest ∧
      view queue' = { view queue with avail := rest, armed } ∧
      view (undoPop queue') = { view queue with armed := armed' }
  pop_none : ∀ {queue queue'}, popOrEnableNotification queue = (.ok none, queue') →
    (view queue).avail = [] ∧ view queue' = { view queue with armed := true }
  view_addUsed : ∀ queue index len, Index index →
    view (addUsed queue index len) =
      { view queue with used := (view queue).used ++ [(index, len)] }
  view_addUsed_error : ∀ queue index len, ¬ Index index →
    view (addUsed queue index len) = view queue
  view_advance : ∀ queue,
    view (advanceUsedRingIdx queue) = { view queue with published := (view queue).used }
  view_prepareKick : ∀ queue, view (prepareKick queue).2 = view queue

/-- What the device asks of the IO engine. -/
inductive Operation
  | read (offset addr : UInt64) (count : UInt32)
  | write (offset addr : UInt64) (count : UInt32)
  | flush

/-- How the engine answers: `FileEngineOk` or the error with its request. -/
inductive EngineAnswer (EngineError : Type)
  | submitted
  | executed (req : PendingRequest) (count : UInt32)
  | failed (req : PendingRequest) (error : EngineError)

/-- A completed entry of the io_uring. -/
structure Cqe (EngineError : Type) where
  result : Except EngineError UInt32
  userData : PendingRequest

/-- What can be observed of an engine. -/
structure EngineView where
  /-- Requests which the kernel works on. -/
  running : Multiset PendingRequest
  /-- Requests whose completions have not been popped. -/
  completed : Multiset PendingRequest
  /-- The completion event can be read. -/
  signalled : Bool

/-- The kernel completes some requests and signals it. -/
def EngineView.Advances (before after : EngineView) : Prop :=
  ∃ finished, before.running = finished + after.running ∧
    after.completed = before.completed + finished ∧
    (before.signalled → after.signalled) ∧ (finished ≠ 0 → after.signalled)

/-- `FileEngine`, of either type. -/
structure FileEngine (Engine Memory EngineError : Type) where
  isAsync : Engine → Bool
  perform : Engine → Memory → Operation → PendingRequest →
    EngineAnswer EngineError × Engine × Memory
  isThrottlingErr : EngineError → Bool
  kickSubmissionQueue : Engine → Engine
  pop : Engine → Memory → Except Unit (Option (Cqe EngineError)) × Engine × Memory
  /-- `drain_and_flush(false)`, and whether it succeeds. -/
  drainAndFlush : Engine → Bool × Engine
  /-- `completion_evt().read()`, and whether it succeeds. -/
  readCompletionEvt : Engine → Bool × Engine
  view : Engine → EngineView
  perform_submitted : ∀ {engine mem operation pending},
    (perform engine mem operation pending).1 = .submitted →
      view (perform engine mem operation pending).2.1 =
        { view engine with running := pending ::ₘ (view engine).running }
  perform_executed : ∀ {engine mem operation pending req count},
    (perform engine mem operation pending).1 = .executed req count →
      req = pending ∧ count ≤ pending.dataLen ∧
        view (perform engine mem operation pending).2.1 = view engine
  perform_failed : ∀ {engine mem operation pending req error},
    (perform engine mem operation pending).1 = .failed req error →
      req = pending ∧ view (perform engine mem operation pending).2.1 = view engine ∧
        (isThrottlingErr error → (view engine).running + (view engine).completed ≠ 0)
  pop_some : ∀ {engine mem cqe engine' mem'}, pop engine mem = (.ok (some cqe), engine', mem') →
    (∀ count, cqe.result = .ok count → count ≤ cqe.userData.dataLen) ∧
      ∃ rest, (view engine).completed = cqe.userData ::ₘ rest ∧
        view engine' = { view engine with completed := rest }
  pop_none : ∀ {engine mem engine' mem'}, pop engine mem = (.ok none, engine', mem') →
    (view engine).completed = 0 ∧ view engine' = view engine
  pop_error : ∀ {engine mem engine' mem'}, pop engine mem = (.error (), engine', mem') →
    view engine' = view engine
  readCompletionEvt_ok : ∀ {engine}, (readCompletionEvt engine).1 = true →
    view (readCompletionEvt engine).2 = { view engine with signalled := false }
  readCompletionEvt_error : ∀ {engine}, (readCompletionEvt engine).1 = false →
    view (readCompletionEvt engine).2 = view engine
  kick_advances : ∀ engine, (view engine).Advances (view (kickSubmissionQueue engine))
  drain_advances : ∀ engine, (view engine).Advances (view (drainAndFlush engine).2)
  drain_empties : ∀ engine, (drainAndFlush engine).1 = true →
    (view (drainAndFlush engine).2).running = 0

inductive TokenType
  | bytes
  | ops
  deriving DecidableEq

structure RateLimiter (Limiter : Type) where
  consume : Limiter → UInt64 → TokenType → Bool × Limiter
  manualReplenish : Limiter → UInt64 → TokenType → Limiter
  /-- `is_blocked`: an event comes when the limiter unblocks. -/
  isBlocked : Limiter → Bool
  /-- `event_handler`, and whether it succeeds. -/
  eventHandler : Limiter → Bool × Limiter
  consume_refused : ∀ {limiter tokens type}, (consume limiter tokens type).1 = false →
    isBlocked (consume limiter tokens type).2 = true
  isBlocked_manualReplenish : ∀ limiter tokens type,
    isBlocked (manualReplenish limiter tokens type) = isBlocked limiter
  isBlocked_eventHandler : ∀ {limiter}, (eventHandler limiter).1 = false →
    isBlocked (eventHandler limiter).2 = isBlocked limiter

def Request.rateLimit {Limiter : Type} (rate : RateLimiter Limiter) (request : Request)
    (rateLimiter : Limiter) : Bool × Limiter :=
  let ops := rate.consume rateLimiter 1 .ops
  if !ops.1 then (true, ops.2)
  else if request.type = .transferIn ∨ request.type = .transferOut then
    let bytes := rate.consume ops.2 request.dataLen.toUInt64 .bytes
    if !bytes.1 then (true, rate.manualReplenish bytes.2 1 .ops)
    else (false, bytes.2)
  else (false, ops.2)

/-- What a block device is built on. -/
structure Parts (Queue Engine Limiter Memory Fault EngineError : Type) where
  guest : GuestMemory Memory Fault
  virtq : VirtQueue Queue
  io : FileEngine Engine Memory EngineError
  rate : RateLimiter Limiter

/-- `DiskProperties`, and the id of its drive. -/
structure Disk where
  diskSize : UInt64
  imageId : List UInt8
  driveId : Text
  plain_driveId : Trace.Plain driveId

def Disk.nsectors (disk : Disk) : UInt64 :=
  disk.diskSize >>> sectorShift

/-! ### The device -/

/-- Who asked for the completion queue to be read. -/
inductive Reaper
  /-- `process_async_completion_event`. -/
  | event
  /-- `prepare_save`, and whether the engine was drained. -/
  | save (drained : Bool)
  deriving DecidableEq

/-- Program points of the thread which runs the device. -/
inductive DevicePc
  | idle
  /-- In the loop of `process_queue`. -/
  | processing (usedAny : Bool)
  /-- In the loop of `process_async_completion_queue`. -/
  | completing (reaper : Reaper)
  /-- The process has panicked. -/
  | failed
  deriving DecidableEq

/-- The device and what it shares with the guest. -/
structure DeviceState (Queue Engine Limiter Memory : Type) where
  queue : Queue
  engine : Engine
  rateLimiter : Limiter
  isIoEngineThrottled : Bool
  mem : Memory
  calls : List Trace.Call
  interrupts : ℕ
  queueEvt : Bool
  /-- The guest has made chains available and owes a notification. -/
  kickDue : Bool
  pc : DevicePc

/-- What became of one request. -/
inductive ProcessingResult
  | submitted
  | throttled
  | executed (finished : FinishedRequest)
  deriving DecidableEq

/-- What became of a popped head. -/
inductive Visit (Fault : Type)
  /-- It does not stand for a request. -/
  | rejected (err : VirtioBlockError Fault)
  | limited (request : Request)
  | processed (request : Request) (result : ProcessingResult)

section Handlers

variable {Queue Engine Limiter Memory Fault EngineError : Type}
  (parts : Parts Queue Engine Limiter Memory Fault EngineError) (disk : Disk)

theorem plain_read : Trace.Plain "read".toList := by decide

theorem plain_write : Trace.Plain "write".toList := by decide

theorem plain_flush : Trace.Plain "flush".toList := by decide

/-- A call of `trace::record` for the drive. -/
def Disk.call (op : Text) (plain_op : Trace.Plain op) (offset : UInt64) (length : UInt32)
    (now : Option (BitVec 128)) : Trace.Call where
  driveId := disk.driveId
  op := op
  offset := offset
  length := length
  now := now
  plain_driveId := disk.plain_driveId
  plain_op := plain_op

/-- What `process` asks the engine for, and records. -/
def Request.operation (request : Request) (now : Option (BitVec 128)) :
    Option (Operation × Trace.Call) :=
  match request.type with
  | .transferIn => some (.read request.offset request.dataAddr request.dataLen,
      disk.call "read".toList plain_read request.offset request.dataLen now)
  | .transferOut => some (.write request.offset request.dataAddr request.dataLen,
      disk.call "write".toList plain_write request.offset request.dataLen now)
  | .flush => some (.flush, disk.call "flush".toList plain_flush 0 0 now)
  | .getDeviceID | .unsupported _ => none

namespace DeviceState

/-- Finish a request and write its status. -/
def finish (state : DeviceState Queue Engine Limiter Memory) (pending : PendingRequest)
    (res : Except (IoErr Fault EngineError) UInt32) :
    FinishedRequest × DeviceState Queue Engine Limiter Memory :=
  let done := pending.finish parts.guest state.mem res
  (done.1, { state with mem := done.2 })

/-- The result of `process` for an answer of the engine. -/
def answer (state : DeviceState Queue Engine Limiter Memory) :
    EngineAnswer EngineError → ProcessingResult × DeviceState Queue Engine Limiter Memory
  | .submitted => (.submitted, state)
  | .executed req count =>
      let done := state.finish parts req (.ok count)
      (.executed done.1, done.2)
  | .failed req error =>
      if parts.io.isThrottlingErr error then (.throttled, state)
      else
        let done := state.finish parts req (.error (.fileEngine error))
        (.executed done.1, done.2)

/-- What `process` does with a request which needs no engine. -/
def processLocally (state : DeviceState Queue Engine Limiter Memory) (request : Request)
    (pending : PendingRequest) : FinishedRequest × DeviceState Queue Engine Limiter Memory :=
  match request.type with
  | .getDeviceID =>
      let written := parts.guest.writeSlice state.mem disk.imageId request.dataAddr
      let res := match written.1 with
        | .ok () => .ok virtioBlkIdBytes
        | .error fault => .error (.getId fault)
      { state with mem := written.2 }.finish parts pending res
  | _ => state.finish parts pending (.ok 0)

def process (state : DeviceState Queue Engine Limiter Memory) (request : Request)
    (descIdx : UInt16) (now : Option (BitVec 128)) :
    ProcessingResult × DeviceState Queue Engine Limiter Memory :=
  let pending := request.toPendingRequest descIdx
  match request.operation disk now with
  | some (operation, call) =>
      let done := parts.io.perform state.engine state.mem operation pending
      { state with
        engine := done.2.1
        mem := done.2.2
        calls := state.calls ++ [call] }.answer parts done.1
  | none =>
      let done := state.processLocally parts disk request pending
      (.executed done.1, done.2)

/-- The body of the loop of `process_queue` up to the match on the result. -/
def visit (state : DeviceState Queue Engine Limiter Memory) (head : DescriptorChain)
    (now : Option (BitVec 128)) : Visit Fault × DeviceState Queue Engine Limiter Memory :=
  match Request.parse parts.guest head state.mem disk.nsectors with
  | .error err => (.rejected err, state)
  | .ok request =>
      let rated := request.rateLimit parts.rate state.rateLimiter
      let state := { state with rateLimiter := rated.2 }
      if rated.1 then (.limited request, state)
      else
        let done := state.process parts disk request head.desc.index now
        (.processed request done.1, done.2)

def addUsed (state : DeviceState Queue Engine Limiter Memory) (index : UInt16)
    (numBytesToMem : UInt32) : DeviceState Queue Engine Limiter Memory :=
  { state with queue := parts.virtq.addUsed state.queue index numBytesToMem }

/-- Publish the used elements. -/
def publish (state : DeviceState Queue Engine Limiter Memory) :
    DeviceState Queue Engine Limiter Memory :=
  { state with queue := parts.virtq.advanceUsedRingIdx state.queue }

/-- Interrupt the guest if it wants to be. -/
def kickGuest (state : DeviceState Queue Engine Limiter Memory) :
    DeviceState Queue Engine Limiter Memory :=
  let kick := parts.virtq.prepareKick state.queue
  { state with
    queue := kick.2
    interrupts := if kick.1 then state.interrupts + 1 else state.interrupts }

/-- `process_queue` after its loop. -/
def endProcessing (state : DeviceState Queue Engine Limiter Memory) (usedAny : Bool) :
    DeviceState Queue Engine Limiter Memory :=
  let state := state.publish parts
  let state := if usedAny then state.kickGuest parts else state
  { state with
    engine :=
      if parts.io.isAsync state.engine then parts.io.kickSubmissionQueue state.engine
      else state.engine
    pc := .idle }

/-- The match on the result of a visit. -/
def settle (state : DeviceState Queue Engine Limiter Memory) (usedAny : Bool)
    (head : DescriptorChain) : Visit Fault → DeviceState Queue Engine Limiter Memory
  | .rejected _ => { state.addUsed parts head.desc.index 0 with pc := .processing true }
  | .limited _ =>
      { state with queue := parts.virtq.undoPop state.queue }.endProcessing parts usedAny
  | .processed _ .submitted => { state with pc := .processing usedAny }
  | .processed _ .throttled =>
      { state with
        queue := parts.virtq.undoPop state.queue
        isIoEngineThrottled := true }.endProcessing parts usedAny
  | .processed _ (.executed finished) =>
      { state.addUsed parts head.desc.index finished.numBytesToMem with pc := .processing true }

def processQueueEvent (state : DeviceState Queue Engine Limiter Memory) :
    DeviceState Queue Engine Limiter Memory :=
  if state.queueEvt then
    if parts.rate.isBlocked state.rateLimiter then { state with queueEvt := false }
    else if state.isIoEngineThrottled then { state with queueEvt := false }
    else { state with queueEvt := false, pc := .processing false }
  else state

def processRateLimiterEvent (state : DeviceState Queue Engine Limiter Memory) :
    DeviceState Queue Engine Limiter Memory :=
  let handled := parts.rate.eventHandler state.rateLimiter
  if handled.1 then { state with rateLimiter := handled.2, pc := .processing false }
  else { state with rateLimiter := handled.2 }

def processAsyncCompletionEvent (state : DeviceState Queue Engine Limiter Memory) :
    DeviceState Queue Engine Limiter Memory :=
  if parts.io.isAsync state.engine then
    let read := parts.io.readCompletionEvt state.engine
    if read.1 then { state with engine := read.2, pc := .completing .event }
    else { state with engine := read.2 }
  else state

/-- `prepare_save`, of an activated device. -/
def prepareSave (state : DeviceState Queue Engine Limiter Memory) :
    DeviceState Queue Engine Limiter Memory :=
  let drain := parts.io.drainAndFlush state.engine
  if parts.io.isAsync drain.2 then
    { state with engine := drain.2, pc := .completing (.save drain.1) }
  else { state with engine := drain.2 }

/-- The body of the loop of `process_async_completion_queue`, for a completed entry. -/
def reap (state : DeviceState Queue Engine Limiter Memory) (cqe : Cqe EngineError) :
    DeviceState Queue Engine Limiter Memory :=
  let done := state.finish parts cqe.userData (cqe.result.mapError .fileEngine)
  done.2.addUsed parts done.1.descIdx done.1.numBytesToMem

/-- `process_async_completion_queue` after its loop, and what its caller does next. -/
def endCompleting (state : DeviceState Queue Engine Limiter Memory) (reaper : Reaper) :
    DeviceState Queue Engine Limiter Memory :=
  let state := (state.publish parts).kickGuest parts
  match reaper with
  | .save _ => { state with pc := .idle }
  | .event =>
      if state.isIoEngineThrottled then
        { state with isIoEngineThrottled := false, pc := .processing false }
      else { state with pc := .idle }

end DeviceState

/-! ### Steps -/

/-- Observable events of a run. -/
inductive DeviceLabel (Fault : Type)
  | offer (chains : List DescriptorChain)
  | notify
  | scribble
  /-- The kernel completes requests. -/
  | complete
  /-- Time passes for the limiter, or its buckets are updated. -/
  | refill
  | queueEvent
  | rateLimiterEvent
  | completionEvent
  | prepareSave
  /-- A head is popped and visited at a time. -/
  | visit (head : DescriptorChain) (now : Option (BitVec 128)) (visit : Visit Fault)
  | exhausted
  | invalidAvailIdx
  | reap (pending : PendingRequest)
  | reaped
  /-- The completion queue cannot be read. -/
  | unreadable

/-- One step of the device, of the guest, of the kernel or of the limiter. -/
inductive DeviceStep : DeviceState Queue Engine Limiter Memory → DeviceLabel Fault →
    DeviceState Queue Engine Limiter Memory → Prop
  /-- A guest which sees that it has to notify the device will do so. -/
  | offer {state : DeviceState Queue Engine Limiter Memory} {queue : Queue}
      {chains : List DescriptorChain} {armed : Bool}
      (added : parts.virtq.view queue = { parts.virtq.view state.queue with
        avail := (parts.virtq.view state.queue).avail ++ chains, armed }) :
      DeviceStep state (.offer chains)
        { state with queue, kickDue := state.kickDue || (parts.virtq.view state.queue).armed }
  | notify (state : DeviceState Queue Engine Limiter Memory) :
      DeviceStep state .notify { state with queueEvt := true, kickDue := false }
  | scribble {state : DeviceState Queue Engine Limiter Memory} {queue : Queue}
      (same : parts.virtq.view queue = parts.virtq.view state.queue) (mem : Memory) :
      DeviceStep state .scribble { state with queue, mem }
  | complete {state : DeviceState Queue Engine Limiter Memory} {engine : Engine}
      (advances : (parts.io.view state.engine).Advances (parts.io.view engine)) (mem : Memory) :
      DeviceStep state .complete { state with engine, mem }
  | refill {state : DeviceState Queue Engine Limiter Memory} {rateLimiter : Limiter}
      (blocked : parts.rate.isBlocked rateLimiter = parts.rate.isBlocked state.rateLimiter) :
      DeviceStep state .refill { state with rateLimiter }
  | queueEvent {state : DeviceState Queue Engine Limiter Memory} (at_pc : state.pc = .idle) :
      DeviceStep state .queueEvent (state.processQueueEvent parts)
  | rateLimiterEvent {state : DeviceState Queue Engine Limiter Memory} (at_pc : state.pc = .idle) :
      DeviceStep state .rateLimiterEvent (state.processRateLimiterEvent parts)
  | completionEvent {state : DeviceState Queue Engine Limiter Memory} (at_pc : state.pc = .idle) :
      DeviceStep state .completionEvent (state.processAsyncCompletionEvent parts)
  | prepareSave {state : DeviceState Queue Engine Limiter Memory} (at_pc : state.pc = .idle) :
      DeviceStep state .prepareSave (state.prepareSave parts)
  | visit {state after : DeviceState Queue Engine Limiter Memory} {usedAny : Bool}
      {head : DescriptorChain} {queue : Queue} {visit : Visit Fault} (now : Option (BitVec 128))
      (at_pc : state.pc = .processing usedAny)
      (pop : parts.virtq.popOrEnableNotification state.queue = (.ok (some head), queue))
      (visited : { state with queue }.visit parts disk head now = (visit, after)) :
      DeviceStep state (.visit head now visit) (after.settle parts usedAny head visit)
  | exhausted {state : DeviceState Queue Engine Limiter Memory} {usedAny : Bool} {queue : Queue}
      (at_pc : state.pc = .processing usedAny)
      (pop : parts.virtq.popOrEnableNotification state.queue = (.ok none, queue)) :
      DeviceStep state .exhausted ({ state with queue }.endProcessing parts usedAny)
  | invalidAvailIdx {state : DeviceState Queue Engine Limiter Memory} {usedAny : Bool}
      {queue : Queue} (at_pc : state.pc = .processing usedAny)
      (pop : parts.virtq.popOrEnableNotification state.queue = (.error (), queue)) :
      DeviceStep state .invalidAvailIdx { state with pc := .failed }
  | reap {state : DeviceState Queue Engine Limiter Memory} {reaper : Reaper} {engine : Engine}
      {mem : Memory} {cqe : Cqe EngineError} (at_pc : state.pc = .completing reaper)
      (pop : parts.io.pop state.engine state.mem = (.ok (some cqe), engine, mem)) :
      DeviceStep state (.reap cqe.userData) ({ state with engine, mem }.reap parts cqe)
  | reaped {state : DeviceState Queue Engine Limiter Memory} {reaper : Reaper} {engine : Engine}
      {mem : Memory} (at_pc : state.pc = .completing reaper)
      (pop : parts.io.pop state.engine state.mem = (.ok none, engine, mem)) :
      DeviceStep state .reaped ({ state with engine, mem }.endCompleting parts reaper)
  | unreadable {state : DeviceState Queue Engine Limiter Memory} {reaper : Reaper}
      {engine : Engine} {mem : Memory} (at_pc : state.pc = .completing reaper)
      (pop : parts.io.pop state.engine state.mem = (.error (), engine, mem)) :
      DeviceStep state .unreadable ({ state with engine, mem }.endCompleting parts reaper)

/-- The device from its activation on. -/
def device : TransitionSystem (DeviceState Queue Engine Limiter Memory) (DeviceLabel Fault) where
  Initial state := parts.virtq.view state.queue = ⟨[], [], [], true⟩ ∧
    parts.io.view state.engine = ⟨0, 0, false⟩ ∧ state.isIoEngineThrottled = false ∧
    state.calls = [] ∧ state.pc = .idle
  Step := DeviceStep parts disk

/-- The chains which the guest has made available, in order. -/
def offered (trace : List (DeviceLabel Fault)) : List DescriptorChain :=
  trace.flatMap fun
    | .offer chains => chains
    | _ => []

end Handlers

end Block
end HermOS
