import HermOS.Block.Completion
import HermOS.Trace.FirstReads

/-!
# The trace of a run of the device

`process` records a request before it asks the engine, once for each attempt.  What
`collect_first_read_blocks.py` finds in the trace of a run are the blocks of the reads which the
guest has asked for, and all of them are on the disk.
-/

namespace HermOS
namespace Block

variable {Queue Engine Limiter Memory Fault EngineError : Type}
  {parts : Parts Queue Engine Limiter Memory Fault EngineError} {disk : Disk}
  {state before after : DeviceState Queue Engine Limiter Memory}
  {trace : List (DeviceLabel Fault)} {label : DeviceLabel Fault} {request : Request}
  {head : DescriptorChain} {now : Option (BitVec 128)}

/-- The call of `trace::record` which a step makes. -/
def DeviceLabel.call? (disk : Disk) : DeviceLabel Fault → Option Trace.Call
  | .visit _ now (.processed request _) => (request.operation disk now).map Prod.snd
  | _ => none

/-! ### Recording -/

theorem calls_answer {answer : EngineAnswer EngineError} :
    (state.answer parts answer).2.calls = state.calls := by
  rw [answer_framed]

theorem calls_process {descIdx : UInt16} :
    (state.process parts disk request descIdx now).2.calls =
      state.calls ++ ((request.operation disk now).map Prod.snd).toList := by
  unfold DeviceState.process
  cases request.operation disk now with
  | none =>
      simp only
      rw [processLocally_framed]
      simp
  | some asked =>
      obtain ⟨operation, call⟩ := asked
      simp only
      rw [calls_answer]
      simp

theorem calls_visit {visit : Visit Fault}
    (visited : before.visit parts disk head now = (visit, after)) :
    after.calls = before.calls ++ ((DeviceLabel.visit head now visit).call? disk).toList := by
  unfold DeviceState.visit at visited
  split at visited
  · cases visited
    simp [DeviceLabel.call?]
  · dsimp only at visited
    split at visited
    · cases visited
      simp [DeviceLabel.call?]
    · cases visited
      rw [calls_process]
      rfl

theorem calls_endProcessing {usedAny : Bool} :
    (state.endProcessing parts usedAny).calls = state.calls := by
  cases usedAny <;> rfl

theorem calls_settle {usedAny : Bool} {visit : Visit Fault} :
    (state.settle parts usedAny head visit).calls = state.calls := by
  cases visit with
  | rejected err => rfl
  | limited request => exact calls_endProcessing
  | processed request result =>
      cases result with
      | submitted | executed finished => rfl
      | throttled => exact calls_endProcessing

theorem calls_endCompleting {reaper : Reaper} :
    (state.endCompleting parts reaper).calls = state.calls := by
  cases reaper with
  | save drained => rfl
  | event =>
      simp only [DeviceState.endCompleting]
      split <;> rfl

theorem calls_step (step : DeviceStep parts disk before label after) :
    after.calls = before.calls ++ (label.call? disk).toList := by
  cases step with
  | offer | notify | scribble | complete | refill | invalidAvailIdx | reap =>
      exact (List.append_nil _).symm
  | queueEvent =>
      rw [show (DeviceLabel.queueEvent : DeviceLabel Fault).call? disk = none from rfl]
      unfold DeviceState.processQueueEvent
      simp only [Option.toList_none, List.append_nil]
      split
      · split
        · rfl
        · split <;> rfl
      · rfl
  | rateLimiterEvent =>
      unfold DeviceState.processRateLimiterEvent
      dsimp only
      split <;> exact (List.append_nil _).symm
  | completionEvent =>
      unfold DeviceState.processAsyncCompletionEvent
      dsimp only
      split
      · split <;> exact (List.append_nil _).symm
      · exact (List.append_nil _).symm
  | prepareSave =>
      unfold DeviceState.prepareSave
      dsimp only
      split <;> exact (List.append_nil _).symm
  | visit now at_pc pop visited =>
      have called := calls_visit visited
      exact calls_settle.trans called
  | exhausted => exact calls_endProcessing.trans (List.append_nil _).symm
  | reaped | unreadable => exact calls_endCompleting.trans (List.append_nil _).symm

/-- The calls of a run are those of its visits, in order. -/
theorem device_calls (run : (device parts disk).Run trace state) :
    state.calls = trace.filterMap (·.call? disk) := by
  obtain ⟨initial, ⟨-, -, -, none_yet, -⟩, path⟩ := run
  have start : initial.calls = ([] : List (DeviceLabel Fault)).filterMap (·.call? disk) := none_yet
  refine path.invariant_trace (fun past state => state.calls = past.filterMap (·.call? disk))
    (fun recorded step => ?_) start
  rw [calls_step step, recorded, List.filterMap_append]
  cases called : DeviceLabel.call? disk _ <;> simp [called]

/-! ### Reading the trace back -/

theorem visit_valid {visit : Visit Fault} {result : ProcessingResult}
    (visited : before.visit parts disk head now = (visit, after))
    (processed : visit = .processed request result) : request.Valid disk.nsectors := by
  obtain ⟨-, effect⟩ := visit_spec visited
  rw [processed] at effect
  obtain ⟨⟨mem, accepts⟩, -⟩ := effect
  exact accepts.valid

/-- A visited request is on the disk. -/
theorem device_valid {result : ProcessingResult} (run : (device parts disk).Run trace state)
    (visited : DeviceLabel.visit head now (.processed request result) ∈ trace) :
    request.Valid disk.nsectors := by
  obtain ⟨initial, -, path⟩ := run
  let Allowed (label : DeviceLabel Fault) := ∀ head now request result,
    label = .visit head now (.processed request result) → request.Valid disk.nsectors
  have allowed : ∀ label ∈ trace, Allowed label :=
    path.forall_label (fun _ => True) (fun _ _ => trivial) (fun _ step => ?_) trivial
  · exact allowed _ visited head now request result rfl
  intro head now request result same
  cases step with
  | visit now' at_pc pop visited =>
      cases same
      exact visit_valid visited rfl
  | _ => cases same

theorem Disk.nsectors_lt (disk : Disk) : disk.nsectors.toNat < 2 ^ 55 := by
  have bound := disk.diskSize.toNat_lt
  have shift : disk.nsectors.toNat = disk.diskSize.toNat / 512 := by
    simp [Disk.nsectors, sectorShift, UInt64.toNat_shiftRight, Nat.shiftRight_eq_div_pow]
  omega

structure ReadByte (disk : Disk) (trace : List (DeviceLabel Fault)) (blockSize block : ℤ)
    (byte : ℕ) : Prop where
  /-- Some read which the guest asked for covers the byte. -/
  visited : ∃ head now request result,
    DeviceLabel.visit head now (.processed request result) ∈ trace ∧
      request.type = .transferIn ∧ request.sector.toNat * 512 ≤ byte ∧
      byte < request.sector.toNat * 512 + request.dataLen.toNat
  /-- It is on the disk. -/
  on_disk : byte < disk.nsectors.toNat * 512
  block : block * blockSize ≤ byte ∧ byte < (block + 1) * blockSize

theorem operation_read {call : Trace.Call}
    (called : (request.operation disk now).map Prod.snd = some call)
    (read : call.op = "read".toList) :
    request.type = .transferIn ∧ call.offset = request.offset ∧ call.length = request.dataLen ∧
      call.driveId = disk.driveId := by
  cases type : request.type with
  | transferIn =>
      simp only [Request.operation, type, Option.map_some, Option.some.injEq] at called
      rw [← called]
      exact ⟨rfl, rfl, rfl, rfl⟩
  | transferOut | flush =>
      simp only [Request.operation, type, Option.map_some, Option.some.injEq] at called
      rw [← called] at read
      exact absurd read (by simp [Disk.call])
  | getDeviceID | unsupported op => simp [Request.operation, type] at called

theorem mem_calls {call : Trace.Call} (run : (device parts disk).Run trace state) :
    call ∈ state.calls ↔ ∃ head now request result,
      DeviceLabel.visit head now (.processed request result) ∈ trace ∧
        (request.operation disk now).map Prod.snd = some call := by
  rw [device_calls run, List.mem_filterMap]
  constructor
  · rintro ⟨label, member, called⟩
    cases label with
    | visit head now visit =>
        cases visit with
        | processed request result => exact ⟨head, now, request, result, member, called⟩
        | rejected | limited => cases called
    | _ => cases called
  · rintro ⟨head, now, request, result, member, called⟩
    exact ⟨_, member, called⟩

/-- The collector finds the blocks of the reads which the device has visited, if the trace is kept
for a lower image. -/
theorem mem_iterBlocks_run {blockSize block : ℤ} {driveId : Python.Text}
    (positive : 0 < blockSize) (config : Trace.BlockTrace)
    (run : (device parts disk).Run trace state) :
    (driveId, block) ∈ Trace.iterBlocks (Trace.traceFile config state.calls) blockSize ↔
      driveId = disk.driveId ∧ disk.driveId ∈ Trace.lowerDriveIds ∧
        (∀ filter ∈ config.driveFilter, filter = disk.driveId) ∧
        ∃ byte, ReadByte disk trace blockSize block byte := by
  rw [Trace.iterBlocks_traceFile, List.mem_eraseDups, Trace.mem_occurrences positive]
  constructor
  · rintro ⟨lower, call, member, reads, rfl, byte, inside, in_block⟩
    obtain ⟨member, admitted⟩ := Trace.mem_recorded.mp member
    obtain ⟨head, now, request, result, visited, called⟩ := (mem_calls run).mp member
    obtain ⟨type, offset, length, drive⟩ := operation_read called reads.1
    have valid := device_valid run visited
    obtain ⟨start, fits⟩ := valid.offset (.inl type) disk.nsectors_lt
    rw [offset, length, start] at inside
    rw [drive] at lower ⊢
    refine ⟨rfl, lower, fun filter kept => (admitted filter kept).trans drive,
      byte.toNat, ⟨head, now, request, result, visited, type, ?_⟩, ?_, ?_⟩
    · omega
    · omega
    · rw [Int.toNat_of_nonneg (by omega)]
      exact in_block
  · rintro ⟨rfl, lower, admitted, byte, read⟩
    obtain ⟨head, now, request, result, visited, type, inside⟩ := read.visited
    have valid := device_valid run visited
    obtain ⟨start, fits⟩ := valid.offset (.inl type) disk.nsectors_lt
    have called : (request.operation disk now).map Prod.snd = some
        (disk.call "read".toList plain_read request.offset request.dataLen now) := by
      simp [Request.operation, type]
    refine ⟨lower, _, Trace.mem_recorded.mpr ⟨(mem_calls run).mpr
      ⟨head, now, request, result, visited, called⟩, admitted⟩, ⟨rfl, ?_⟩, rfl, byte, ?_,
      read.block⟩
    · change 0 < request.dataLen
      rw [UInt32.lt_iff_toNat_lt]
      change 0 < request.dataLen.toNat
      omega
    · change (request.offset.toNat : ℤ) ≤ byte ∧
        (byte : ℤ) < request.offset.toNat + request.dataLen.toNat
      omega

/-- The first block of the sample is found, as the guest has read its first sector. -/
theorem mem_iterBlocks_sample :
    ("rootfs".toList, (0 : ℤ)) ∈
        Trace.iterBlocks (Trace.traceFile ⟨none⟩ sampleTaken.calls) 4096 ↔
      "rootfs".toList = "rootfs".toList ∧ "rootfs".toList ∈ Trace.lowerDriveIds ∧
        (∀ filter ∈ (none : Option Python.Text), filter = "rootfs".toList) ∧
        ∃ byte, ReadByte sampleDisk sampleLabels 4096 0 byte :=
  mem_iterBlocks_run (by decide) ⟨none⟩ sample_run

end Block
end HermOS
