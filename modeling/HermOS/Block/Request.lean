import HermOS.Library.FallibleFold
import Mathlib.Data.Nat.Digits.Defs
import Mathlib.Data.UInt
import Mathlib.Tactic.Common

/-!
# Requests of the virtio block device

`Request::parse` and `PendingRequest::finish`.  The guest writes the descriptors and the memory, so
both are arbitrary here.  Descriptor chains and the guest memory come from outside the device; of a
chain only what `next_descriptor` and `has_next` show is kept.
-/

namespace HermOS
namespace Block

open FallibleFold

def sectorShift : UInt64 := 9

def sectorSize : UInt32 := (1 : UInt32) <<< 9

def virtioBlkIdBytes : UInt32 := 20

/-! ### Guest memory and descriptors -/

/-- The accesses to guest memory, with the errors of `vm_memory`. -/
structure GuestMemory (Memory Fault : Type) where
  /-- `read_obj`, of so many bytes. -/
  readObj : Memory → UInt64 → ℕ → Except Fault (List UInt8)
  /-- `write_slice` and `write_obj`; a failed write may have written a part. -/
  writeSlice : Memory → List UInt8 → UInt64 → Except Fault Unit × Memory

structure Descriptor where
  index : UInt16
  addr : UInt64
  len : UInt32
  writeOnly : Bool
  deriving DecidableEq

/-- `DescriptorChain`, as far as it can be followed. -/
structure DescriptorChain where
  desc : Descriptor
  /-- What `next_descriptor` finds, one after the other. -/
  rest : List Descriptor
  /-- The last of them has the flag for another one, which cannot be read. -/
  dangling : Bool
  deriving DecidableEq

def DescriptorChain.hasNext (chain : DescriptorChain) : Bool :=
  !chain.rest.isEmpty || chain.dangling

def DescriptorChain.nextDescriptor (chain : DescriptorChain) : Option DescriptorChain :=
  match chain.rest with
  | [] => none
  | desc :: rest => some { chain with desc, rest }

/-- Number of bytes which the device may write to a chain. -/
def DescriptorChain.writable (chain : DescriptorChain) : ℕ :=
  (((chain.desc :: chain.rest).filter (·.writeOnly)).map fun desc => desc.len.toNat).sum

/-! ### Parsing -/

inductive RequestType
  | transferIn
  | transferOut
  | flush
  | getDeviceID
  | unsupported (op : UInt32)
  deriving DecidableEq

/-- `From<u32>`. -/
def RequestType.from (value : UInt32) : RequestType :=
  if value = 0 then .transferIn
  else if value = 1 then .transferOut
  else if value = 4 then .flush
  else if value = 8 then .getDeviceID
  else .unsupported value

inductive VirtioBlockError (Fault : Type)
  | descriptorChainTooShort
  | descriptorLengthTooSmall
  | guestMemory (fault : Fault)
  | invalidDataLength
  | invalidOffset
  | unexpectedReadOnlyDescriptor
  | unexpectedWriteOnlyDescriptor
  deriving DecidableEq

structure RequestHeader where
  requestType : UInt32
  reserved : UInt32
  sector : UInt64
  deriving DecidableEq

/-- The number which little-endian bytes stand for. -/
def leNat (bytes : List UInt8) : ℕ :=
  Nat.ofDigits 256 (bytes.map UInt8.toNat)

/-- The header in the memory of a little-endian machine. -/
def RequestHeader.ofBytes (bytes : List UInt8) : RequestHeader where
  requestType := UInt32.ofNat (leNat (bytes.take 4))
  reserved := UInt32.ofNat (leNat ((bytes.drop 4).take 4))
  sector := UInt64.ofNat (leNat ((bytes.drop 8).take 8))

structure Request where
  type : RequestType
  dataLen : UInt32
  statusAddr : UInt64
  sector : UInt64
  dataAddr : UInt64
  deriving DecidableEq

variable {Memory Fault : Type}

def RequestHeader.readFrom (guest : GuestMemory Memory Fault) (mem : Memory) (addr : UInt64) :
    Except (VirtioBlockError Fault) RequestHeader :=
  match guest.readObj mem addr 16 with
  | .ok bytes => .ok (.ofBytes bytes)
  | .error fault => .error (.guestMemory fault)

/-- Return an error unless a condition holds. -/
def demand (condition : Prop) [Decidable condition] (error : VirtioBlockError Fault) :
    Except (VirtioBlockError Fault) Unit :=
  if condition then .ok () else .error error

/-- The checks on the direction of the data descriptor. -/
def RequestType.checkDirection (type : RequestType) (dataDesc : Descriptor) :
    Except (VirtioBlockError Fault) Unit := do
  demand (¬ (dataDesc.writeOnly ∧ type = .transferOut)) .unexpectedWriteOnlyDescriptor
  demand (¬ (¬ dataDesc.writeOnly ∧ type = .transferIn)) .unexpectedReadOnlyDescriptor
  demand (¬ (¬ dataDesc.writeOnly ∧ type = .getDeviceID)) .unexpectedReadOnlyDescriptor

/-- Data address, data length and status descriptor of a chain. -/
def RequestType.splitChain (type : RequestType) (availDesc : DescriptorChain) :
    Except (VirtioBlockError Fault) (UInt64 × UInt32 × Descriptor) :=
  match availDesc.nextDescriptor with
  | none => .error .descriptorChainTooShort
  | some desc =>
      if !desc.hasNext then do
        demand (type = .flush) .descriptorChainTooShort
        return (0, 0, desc.desc)
      else
        match desc.nextDescriptor with
        | none => .error .descriptorChainTooShort
        | some statusDesc => do
            type.checkDirection desc.desc
            return (desc.desc.addr, desc.desc.len, statusDesc.desc)

def checkedAdd (left right : UInt64) : Option UInt64 :=
  if left.toNat + right.toNat < 2 ^ 64 then some (left + right) else none

/-- The sector after the last one of a transfer. -/
def topSector (sector : UInt64) (dataLen : UInt32) : Option UInt64 :=
  checkedAdd sector (dataLen.toUInt64 >>> sectorShift)

/-- The checks on data length and sector. -/
def RequestType.checkValidity (type : RequestType) (sector : UInt64) (dataLen : UInt32)
    (numDiskSectors : UInt64) : Except (VirtioBlockError Fault) Unit :=
  match type with
  | .transferIn | .transferOut => do
      demand (dataLen % sectorSize = 0) .invalidDataLength
      match topSector sector dataLen with
      | none => .error .invalidOffset
      | some top => demand (¬ top > numDiskSectors) .invalidOffset
  | .getDeviceID => demand (¬ dataLen < virtioBlkIdBytes) .invalidDataLength
  | .flush | .unsupported _ => .ok ()

def Request.parse (guest : GuestMemory Memory Fault) (availDesc : DescriptorChain) (mem : Memory)
    (numDiskSectors : UInt64) : Except (VirtioBlockError Fault) Request := do
  demand (¬ availDesc.desc.writeOnly) .unexpectedWriteOnlyDescriptor
  let header ← RequestHeader.readFrom guest mem availDesc.desc.addr
  let type := RequestType.from header.requestType
  let (dataAddr, dataLen, statusDesc) ← type.splitChain availDesc
  type.checkValidity header.sector dataLen numDiskSectors
  demand statusDesc.writeOnly .unexpectedReadOnlyDescriptor
  demand (¬ statusDesc.len < 1) .descriptorLengthTooSmall
  return ⟨type, dataLen, statusDesc.addr, header.sector, dataAddr⟩

/-! ### Finishing -/

inductive IoErr (Fault EngineError : Type)
  | getId (fault : Fault)
  | partialTransfer (completed expected : UInt32)
  | fileEngine (error : EngineError)

inductive Status (Fault EngineError : Type)
  | ok (numBytesToMem : UInt32)
  | ioErr (numBytesToMem : UInt32) (err : IoErr Fault EngineError)
  | unsupported (op : UInt32)

structure PendingRequest where
  type : RequestType
  dataLen : UInt32
  statusAddr : UInt64
  descIdx : UInt16
  deriving DecidableEq

structure FinishedRequest where
  numBytesToMem : UInt32
  descIdx : UInt16
  deriving DecidableEq

variable {EngineError : Type}

def Status.fromData (dataLen transferredDataLen : UInt32) (dataToMem : Bool) :
    Status Fault EngineError :=
  let numBytesToMem := if dataToMem then transferredDataLen else 0
  if transferredDataLen = dataLen then .ok numBytesToMem
  else .ioErr numBytesToMem (.partialTransfer transferredDataLen dataLen)

/-- Number of data bytes and status byte: `VIRTIO_BLK_S_OK`, `VIRTIO_BLK_S_IOERR` and
`VIRTIO_BLK_S_UNSUPP`. -/
def Status.report : Status Fault EngineError → UInt32 × UInt8
  | .ok numBytesToMem => (numBytesToMem, 0)
  | .ioErr numBytesToMem _ => (numBytesToMem, 1)
  | .unsupported _ => (0, 2)

/-- `write_status_and_finish`; the addition is that of a release build. -/
def PendingRequest.writeStatusAndFinish (guest : GuestMemory Memory Fault)
    (pending : PendingRequest) (status : Status Fault EngineError) (mem : Memory) :
    FinishedRequest × Memory :=
  match guest.writeSlice mem [status.report.2] pending.statusAddr with
  | (.ok (), mem) => (⟨status.report.1 + 1, pending.descIdx⟩, mem)
  | (.error _, mem) => (⟨0, pending.descIdx⟩, mem)

/-- The status with which `finish` ends a request. -/
def PendingRequest.status (pending : PendingRequest)
    (res : Except (IoErr Fault EngineError) UInt32) :
    Status Fault EngineError :=
  match res, pending.type with
  | .ok transferred, .transferIn => .fromData pending.dataLen transferred true
  | .ok transferred, .transferOut => .fromData pending.dataLen transferred false
  | .ok _, .flush => .ok 0
  | .ok transferred, .getDeviceID => .fromData pending.dataLen transferred true
  | _, .unsupported op => .unsupported op
  | .error err, _ => .ioErr 0 err

def PendingRequest.finish (guest : GuestMemory Memory Fault) (pending : PendingRequest)
    (mem : Memory) (res : Except (IoErr Fault EngineError) UInt32) : FinishedRequest × Memory :=
  pending.writeStatusAndFinish guest (pending.status res) mem

def Request.toPendingRequest (request : Request) (descIdx : UInt16) : PendingRequest where
  type := request.type
  dataLen := request.dataLen
  statusAddr := request.statusAddr
  descIdx := descIdx

/-- `offset`. -/
def Request.offset (request : Request) : UInt64 :=
  request.sector <<< sectorShift

/-! ### What is accepted -/

/-- The data descriptor can be used for the type. -/
def RequestType.Directed (type : RequestType) (dataDesc : Descriptor) : Prop :=
  (type = .transferOut → dataDesc.writeOnly = false) ∧
    (type = .transferIn ∨ type = .getDeviceID → dataDesc.writeOnly = true)

/-- Where a chain has the data and the status of a request. -/
inductive Request.Layout (availDesc : DescriptorChain) (request : Request) (status : Descriptor) :
    Prop
  /-- A flush without data. -/
  | flush (chain : availDesc.rest = [status]) (ends : availDesc.dangling = false)
      (type : request.type = .flush) (dataAddr : request.dataAddr = 0)
      (dataLen : request.dataLen = 0)
  /-- The descriptors after the status are not looked at. -/
  | data (data : Descriptor) (rest : List Descriptor)
      (chain : availDesc.rest = data :: status :: rest) (directed : request.type.Directed data)
      (dataAddr : request.dataAddr = data.addr) (dataLen : request.dataLen = data.len)

/-- The data of a request has a length which its type allows, and a transfer is on the disk. -/
structure Request.Valid (request : Request) (numDiskSectors : UInt64) : Prop where
  sectors : request.type = .transferIn ∨ request.type = .transferOut →
    512 ∣ request.dataLen.toNat ∧
      request.sector.toNat * 512 + request.dataLen.toNat ≤ numDiskSectors.toNat * 512
  id : request.type = .getDeviceID → 20 ≤ request.dataLen.toNat

/-- A chain which stands for a request. -/
structure Request.Accepts (guest : GuestMemory Memory Fault) (availDesc : DescriptorChain)
    (mem : Memory) (numDiskSectors : UInt64) (request : Request) : Prop where
  readable : availDesc.desc.writeOnly = false
  header : ∃ header, RequestHeader.readFrom guest mem availDesc.desc.addr = .ok header ∧
    request.type = RequestType.from header.requestType ∧ request.sector = header.sector
  status : ∃ status, request.Layout availDesc status ∧ status.writeOnly = true ∧
    1 ≤ status.len.toNat ∧ request.statusAddr = status.addr
  valid : request.Valid numDiskSectors

@[simp]
theorem demand_eq_ok_iff {condition : Prop} [Decidable condition]
    {error : VirtioBlockError Fault} {result : Unit} :
    demand condition error = .ok result ↔ condition := by
  unfold demand
  split <;> simp_all

theorem checkDirection_eq_ok_iff {type : RequestType} {dataDesc : Descriptor} :
    (type.checkDirection dataDesc : Except (VirtioBlockError Fault) Unit) = .ok () ↔
      type.Directed dataDesc := by
  simp only [RequestType.checkDirection, RequestType.Directed, bind_eq_ok_iff, demand_eq_ok_iff]
  cases type <;> cases dataDesc.writeOnly <;> simp

theorem splitChain_eq_ok_iff {type : RequestType} {availDesc : DescriptorChain}
    {dataAddr : UInt64} {dataLen : UInt32} {status : Descriptor} {statusAddr sector : UInt64} :
    (type.splitChain availDesc : Except (VirtioBlockError Fault) _) =
        .ok (dataAddr, dataLen, status) ↔
      Request.Layout availDesc ⟨type, dataLen, statusAddr, sector, dataAddr⟩ status := by
  obtain ⟨desc, rest, dangling⟩ := availDesc
  unfold RequestType.splitChain DescriptorChain.nextDescriptor DescriptorChain.hasNext
  constructor
  · intro split
    match rest with
    | [] => cases split
    | [data] =>
        cases dangling with
        | true => cases split
        | false =>
            obtain ⟨_, flush, whole⟩ := bind_eq_ok_iff.mp split
            obtain ⟨rfl, rfl, rfl⟩ : (0, 0, data) = (dataAddr, dataLen, status) :=
              Except.ok.inj whole
            exact .flush rfl rfl (demand_eq_ok_iff.mp flush) rfl rfl
    | data :: next :: rest =>
        obtain ⟨_, direction, whole⟩ := bind_eq_ok_iff.mp split
        cases Except.ok.inj whole
        exact .data data rest rfl (checkDirection_eq_ok_iff.mp direction) rfl rfl
  · intro layout
    cases layout with
    | flush chain ends flush dataAddr dataLen =>
        cases chain
        cases ends
        cases flush
        cases dataAddr
        cases dataLen
        rfl
    | data data rest chain directed dataAddr dataLen =>
        cases chain
        cases dataAddr
        cases dataLen
        exact bind_eq_ok_iff.mpr ⟨(), checkDirection_eq_ok_iff.mpr directed, rfl⟩

theorem checkedAdd_eq_some_iff {left right sum : UInt64} :
    checkedAdd left right = some sum ↔ sum.toNat = left.toNat + right.toNat := by
  unfold checkedAdd
  have bound := sum.toNat_lt
  constructor
  · intro added
    split at added
    case isFalse => cases added
    case isTrue fits =>
      obtain rfl := Option.some.inj added
      rw [UInt64.toNat_add, Nat.mod_eq_of_lt fits]
  · intro exact_sum
    rw [if_pos (by omega), Option.some.injEq, ← UInt64.toNat_inj, UInt64.toNat_add,
      Nat.mod_eq_of_lt (by omega), exact_sum]

theorem toNat_sectors (dataLen : UInt32) :
    (dataLen.toUInt64 >>> sectorShift).toNat = dataLen.toNat / 512 := by
  simp [sectorShift, UInt64.toNat_shiftRight, Nat.shiftRight_eq_div_pow]

/-- A transfer of whole sectors which passes both checks on its last sector is on the disk. -/
theorem topSector_iff {sector numDiskSectors : UInt64} {dataLen : UInt32}
    (whole : 512 ∣ dataLen.toNat) :
    (∃ top, topSector sector dataLen = some top ∧ ¬ top > numDiskSectors) ↔
      sector.toNat * 512 + dataLen.toNat ≤ numDiskSectors.toNat * 512 := by
  obtain ⟨count, whole⟩ := whole
  have bound := numDiskSectors.toNat_lt
  simp only [topSector, checkedAdd_eq_some_iff, toNat_sectors, gt_iff_lt,
    UInt64.lt_iff_toNat_lt, whole, Nat.mul_div_cancel_left count (by decide : 0 < 512)]
  constructor
  · rintro ⟨top, sum, inside⟩
    omega
  · intro inside
    refine ⟨UInt64.ofNat (sector.toNat + count), ?_⟩
    rw [UInt64.toNat_ofNat_of_lt' (by change _ < 2 ^ 64; omega)]
    omega

theorem sectorSize_dvd (dataLen : UInt32) :
    dataLen % sectorSize = 0 ↔ 512 ∣ dataLen.toNat := by
  rw [← UInt32.toNat_inj, UInt32.toNat_mod, Nat.dvd_iff_mod_eq_zero]
  rfl

theorem checkTransfer_eq_ok_iff {type : RequestType} {sector numDiskSectors : UInt64}
    {dataLen : UInt32} (transfer : type = .transferIn ∨ type = .transferOut) :
    (type.checkValidity sector dataLen numDiskSectors : Except (VirtioBlockError Fault) Unit) =
        .ok () ↔
      512 ∣ dataLen.toNat ∧
        ∃ top, topSector sector dataLen = some top ∧ ¬ top > numDiskSectors := by
  have body : (type.checkValidity sector dataLen numDiskSectors :
      Except (VirtioBlockError Fault) Unit) =
      RequestType.transferIn.checkValidity sector dataLen numDiskSectors := by
    rcases transfer with rfl | rfl <;> rfl
  rw [body, ← sectorSize_dvd]
  simp only [RequestType.checkValidity, bind_eq_ok_iff, demand_eq_ok_iff]
  cases topSector sector dataLen with
  | none => simp
  | some top => simp [and_comm]

theorem checkValidity_eq_ok_iff {request : Request} {numDiskSectors : UInt64} :
    (request.type.checkValidity request.sector request.dataLen numDiskSectors :
        Except (VirtioBlockError Fault) Unit) = .ok () ↔ request.Valid numDiskSectors := by
  by_cases transfer : request.type = .transferIn ∨ request.type = .transferOut
  · have other : request.type ≠ .getDeviceID := by
      rintro getId
      simp [getId] at transfer
    rw [checkTransfer_eq_ok_iff transfer]
    constructor
    · intro checked
      refine ⟨fun _ => ⟨checked.1, (topSector_iff checked.1).mp checked.2⟩, fun getId => ?_⟩
      exact absurd getId other
    · intro valid
      obtain ⟨whole, inside⟩ := valid.sectors transfer
      exact ⟨whole, (topSector_iff whole).mpr inside⟩
  · have size : ¬ request.dataLen < virtioBlkIdBytes ↔ 20 ≤ request.dataLen.toNat := by
      rw [UInt32.lt_iff_toNat_lt, not_lt]
      rfl
    constructor
    · intro checked
      refine ⟨fun moves => absurd moves transfer, fun getId => ?_⟩
      rw [← size]
      intro short
      simp [getId, RequestType.checkValidity, short] at checked
    · intro valid
      cases type : request.type with
      | transferIn | transferOut => simp [type] at transfer
      | flush | unsupported => rfl
      | getDeviceID => simp [RequestType.checkValidity, size.mpr (valid.id type)]

variable {guest : GuestMemory Memory Fault} {availDesc : DescriptorChain} {mem : Memory}
  {numDiskSectors : UInt64} {request : Request}

theorem statusLen_pos {len : UInt32} : ¬ len < 1 ↔ 1 ≤ len.toNat := by
  rw [UInt32.lt_iff_toNat_lt, not_lt]
  rfl

theorem parse_eq_ok_iff : Request.parse guest availDesc mem numDiskSectors = .ok request ↔
    request.Accepts guest availDesc mem numDiskSectors := by
  unfold Request.parse
  constructor
  · intro parsed
    obtain ⟨_, readable, parsed⟩ := bind_ok parsed
    obtain ⟨header, read, parsed⟩ := bind_ok parsed
    obtain ⟨⟨dataAddr, dataLen, status⟩, split, parsed⟩ := bind_ok parsed
    obtain ⟨_, valid, parsed⟩ := bind_ok parsed
    obtain ⟨_, writable, parsed⟩ := bind_ok parsed
    obtain ⟨_, long_enough, parsed⟩ := bind_ok parsed
    cases Except.ok.inj parsed
    exact {
      readable := by simpa using readable
      header := ⟨header, read, rfl, rfl⟩
      status := ⟨status, splitChain_eq_ok_iff.mp split, demand_eq_ok_iff.mp writable,
        statusLen_pos.mp (demand_eq_ok_iff.mp long_enough), rfl⟩
      valid := checkValidity_eq_ok_iff.mp valid }
  · intro accepts
    obtain ⟨type, dataLen, statusAddr, sector, dataAddr⟩ := request
    obtain ⟨header, read, rfl, rfl⟩ := accepts.header
    obtain ⟨status, layout, writable, long_enough, rfl⟩ := accepts.status
    refine bind_eq_ok_iff.mpr ⟨(), by simpa using accepts.readable, ?_⟩
    refine bind_eq_ok_iff.mpr ⟨header, read, ?_⟩
    refine bind_eq_ok_iff.mpr ⟨(dataAddr, dataLen, status), splitChain_eq_ok_iff.mpr layout, ?_⟩
    refine bind_eq_ok_iff.mpr ⟨(), checkValidity_eq_ok_iff.mpr accepts.valid, ?_⟩
    refine bind_eq_ok_iff.mpr ⟨(), demand_eq_ok_iff.mpr writable, ?_⟩
    exact bind_eq_ok_iff.mpr ⟨(), demand_eq_ok_iff.mpr (statusLen_pos.mpr long_enough), rfl⟩

/-! ### What a request reports -/

/-- The bytes of data and status which a pending request may report fit into its chain. -/
structure PendingRequest.Fits (pending : PendingRequest) (availDesc : DescriptorChain) : Prop where
  descIdx : pending.descIdx = availDesc.desc.index
  status : 1 ≤ availDesc.writable
  data : pending.type = .transferIn ∨ pending.type = .getDeviceID →
    pending.dataLen.toNat + 1 ≤ availDesc.writable
  sectors : pending.type = .transferIn → 512 ∣ pending.dataLen.toNat

theorem writable_cons (desc next : Descriptor) (rest : List Descriptor) (dangling : Bool) :
    DescriptorChain.writable ⟨desc, next :: rest, dangling⟩ =
      (if desc.writeOnly then desc.len.toNat else 0) +
        DescriptorChain.writable ⟨next, rest, dangling⟩ := by
  simp only [DescriptorChain.writable, List.filter_cons]
  split <;> split <;> simp

theorem le_writable {desc : Descriptor} (rest : List Descriptor) (dangling : Bool)
    (writable : desc.writeOnly = true) :
    desc.len.toNat ≤ DescriptorChain.writable ⟨desc, rest, dangling⟩ := by
  simp [DescriptorChain.writable, writable]

theorem Request.Layout.writable {status : Descriptor} (layout : request.Layout availDesc status)
    (readable : availDesc.desc.writeOnly = false) (writable : status.writeOnly = true) :
    status.len.toNat ≤ availDesc.writable ∧
      (request.type = .transferIn ∨ request.type = .getDeviceID →
        request.dataLen.toNat + status.len.toNat ≤ availDesc.writable) := by
  obtain ⟨desc, rest, dangling⟩ := availDesc
  cases layout with
  | flush chain ends type =>
      cases chain
      have last := le_writable [] dangling writable
      rw [writable_cons]
      refine ⟨by omega, fun data => ?_⟩
      simp [type] at data
  | data data rest chain directed dataAddr dataLen =>
      cases chain
      have last := le_writable rest dangling writable
      rw [writable_cons, writable_cons, dataLen]
      refine ⟨by omega, fun writes => ?_⟩
      rw [if_pos (directed.2 writes)]
      omega

theorem Request.Accepts.fits (accepts : request.Accepts guest availDesc mem numDiskSectors) :
    (request.toPendingRequest availDesc.desc.index).Fits availDesc := by
  obtain ⟨status, layout, writable, long_enough, -⟩ := accepts.status
  obtain ⟨fits, data_fits⟩ := layout.writable accepts.readable writable
  exact {
    descIdx := rfl
    status := long_enough.trans fits
    data := fun data => (Nat.add_le_add_left long_enough _).trans (data_fits data)
    sectors := fun transfer => (accepts.valid.sectors (.inl transfer)).1 }

/-- The data of an accepted transfer is on the disk, and its byte offset has not wrapped. -/
theorem Request.Valid.offset (valid : request.Valid numDiskSectors)
    (transfer : request.type = .transferIn ∨ request.type = .transferOut)
    (small : numDiskSectors.toNat < 2 ^ 55) :
    request.offset.toNat = request.sector.toNat * 512 ∧
      request.offset.toNat + request.dataLen.toNat ≤ numDiskSectors.toNat * 512 := by
  obtain ⟨-, inside⟩ := valid.sectors transfer
  have offset : request.offset.toNat = request.sector.toNat * 512 := by
    rw [Request.offset, UInt64.toNat_shiftLeft, Nat.shiftLeft_eq, Nat.mod_eq_of_lt]
    · rfl
    · change request.sector.toNat * 512 < 2 ^ 64
      omega
  exact ⟨offset, by omega⟩

/-- `parse` takes the chains which stand for a request, and no others; the data of a transfer which
it takes is on a disk of a backing file, and the byte offset of the transfer has not wrapped. -/
theorem parse_accepts (guest : GuestMemory Memory Fault) (availDesc : DescriptorChain)
    (mem : Memory)
    (diskSize : UInt64) (request : Request) :
    (Request.parse guest availDesc mem (diskSize >>> sectorShift) = .ok request ↔
      request.Accepts guest availDesc mem (diskSize >>> sectorShift)) ∧
    (Request.parse guest availDesc mem (diskSize >>> sectorShift) = .ok request →
      request.type = .transferIn ∨ request.type = .transferOut →
      request.offset.toNat = request.sector.toNat * 512 ∧ 512 ∣ request.dataLen.toNat ∧
        request.offset.toNat + request.dataLen.toNat ≤ diskSize.toNat) := by
  refine ⟨parse_eq_ok_iff, fun parsed transfer => ?_⟩
  have accepts := parse_eq_ok_iff.mp parsed
  have sectors : (diskSize >>> sectorShift).toNat = diskSize.toNat / 512 := by
    simp [sectorShift, UInt64.toNat_shiftRight, Nat.shiftRight_eq_div_pow]
  have bound := diskSize.toNat_lt
  obtain ⟨start, inside⟩ := accepts.valid.offset transfer (by omega)
  exact ⟨start, (accepts.valid.sectors transfer).1, by omega⟩

variable {pending : PendingRequest} {res : Except (IoErr Fault EngineError) UInt32}

/-- A result which a request of this type can have. -/
def PendingRequest.Counts (pending : PendingRequest)
    (res : Except (IoErr Fault EngineError) UInt32) : Prop :=
  ∀ count, res = .ok count → count ≤ pending.dataLen ∧
    (pending.type = .getDeviceID → count = virtioBlkIdBytes)

@[simp]
theorem finish_descIdx : (pending.finish guest mem res).1.descIdx = pending.descIdx := by
  unfold PendingRequest.finish PendingRequest.writeStatusAndFinish
  split <;> rfl

theorem fromData_report {dataLen transferredDataLen : UInt32} {dataToMem : Bool} :
    (Status.fromData dataLen transferredDataLen dataToMem : Status Fault EngineError).report.1 =
      if dataToMem then transferredDataLen else 0 := by
  unfold Status.fromData
  by_cases whole : transferredDataLen = dataLen <;> simp [whole, Status.report]

/-- The data bytes leave room for the status byte, in the chain and in the word. -/
theorem report_fits (fits : pending.Fits availDesc) (counts : pending.Counts res) :
    (pending.status res).report.1.toNat + 1 ≤ availDesc.writable ∧
      (pending.status res).report.1.toNat + 1 < 2 ^ 32 := by
  have none_written : ∀ status : Status Fault EngineError, status.report.1 = 0 →
      status.report.1.toNat + 1 ≤ availDesc.writable ∧ status.report.1.toNat + 1 < 2 ^ 32 := by
    intro status zero
    rw [zero]
    exact ⟨fits.status, by decide⟩
  unfold PendingRequest.status
  cases type : pending.type with
  | transferIn =>
      cases res with
      | error err => exact none_written _ rfl
      | ok count =>
          have room := fits.data (.inl type)
          have le := UInt32.le_iff_toNat_le.mp (counts count rfl).1
          have whole := fits.sectors type
          have bound := pending.dataLen.toNat_lt
          rw [fromData_report, if_pos rfl]
          omega
  | getDeviceID =>
      cases res with
      | error err => exact none_written _ rfl
      | ok count =>
          have room := fits.data (.inr type)
          obtain ⟨le, size⟩ := counts count rfl
          have le := UInt32.le_iff_toNat_le.mp le
          rw [fromData_report, if_pos rfl]
          refine ⟨by omega, ?_⟩
          rw [size type]
          decide
  | transferOut =>
      cases res with
      | error err => exact none_written _ rfl
      | ok count => exact none_written _ fromData_report
  | flush | unsupported op => cases res <;> exact none_written _ rfl

/-- A request reports no more bytes than the device may write to its chain. -/
theorem finish_le_writable (fits : pending.Fits availDesc) (counts : pending.Counts res) :
    (pending.finish guest mem res).1.numBytesToMem.toNat ≤ availDesc.writable := by
  obtain ⟨room, word⟩ := report_fits fits counts
  unfold PendingRequest.finish PendingRequest.writeStatusAndFinish
  split
  · rw [UInt32.toNat_add, Nat.mod_eq_of_lt (by exact word)]
    exact room
  · exact Nat.zero_le _

end Block
end HermOS
