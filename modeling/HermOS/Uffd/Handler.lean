import HermOS.Library.PowerMask
import Mathlib.Data.List.AList
import Mathlib.Data.UInt

/-!
# The userfaultfd page handlers

`usize` and `u64` are both 64-bit words, and `+` and `-` wrap as in the release build which the
scripts use.  A panic ends the process and is modelled by `none`.  The kernel is represented by
its answers to `UFFDIO_COPY`.
-/

namespace HermOS
namespace Uffd

/-- Page contents and response bodies. -/
abbrev Bytes := List UInt8

/-- The mapping of one guest memory region to host addresses and backend offsets. -/
structure GuestRegionUffdMapping where
  /-- First host address of the region. -/
  baseHostVirtAddr : UInt64
  size : UInt64
  /-- Backend offset of the region contents. -/
  offset : UInt64
  pageSize : UInt64
  deriving DecidableEq

def GuestRegionUffdMapping.contains (region : GuestRegionUffdMapping)
    (faultPageAddr : UInt64) : Bool :=
  faultPageAddr ≥ region.baseHostVirtAddr &&
    faultPageAddr < region.baseHostVirtAddr + region.size

/-- `UffdHandler`; its constructors only accept a power-of-two page size. -/
structure UffdHandler where
  /-- Regions in the order Firecracker sent them. -/
  memRegions : List GuestRegionUffdMapping
  /-- Page size of the first region, used for all of them. -/
  pageSize : UInt64
  /-- `assert!(page_size.is_power_of_two())`. -/
  powerOfTwo : pageSize.toNat.isPowerOfTwo

namespace UffdHandler

/-- `from_unix_stream_remote`, after the mappings have been deserialised. -/
def fromUnixStreamRemote (mappings : List GuestRegionUffdMapping) : Option UffdHandler :=
  match mappings with
  | [] => none
  | firstMapping :: _ =>
      if power : firstMapping.pageSize.toNat.isPowerOfTwo then
        some ⟨mappings, firstMapping.pageSize, power⟩
      else
        none

/-- The first region which contains an address. -/
def regionOf (handler : UffdHandler) (dst : UInt64) : Option GuestRegionUffdMapping :=
  handler.memRegions.find? fun region => region.contains dst

/-- `file_offset_for_addr`: the page of an address and its offset in the backend. -/
def fileOffsetForAddr (handler : UffdHandler) (addr : UInt64) : Option (UInt64 × UInt64) :=
  let dst := clearBelow addr handler.pageSize
  (handler.regionOf dst).map fun region =>
    (dst, region.offset + (dst - region.baseHostVirtAddr))

end UffdHandler

/-- The kernel's answer to a `UFFDIO_COPY`, as the `userfaultfd` crate reports it. -/
inductive CopyAnswer
  | ok (bytes : UInt64)
  | partiallyCopied (bytes : UInt64)
  | copyFailed (errno : Int)
  /-- Any other error. -/
  | otherError
  deriving DecidableEq

def EAGAIN : UInt64 := 11

def EEXIST : Int := 17

/-- The result of `copy_from_ptr`, or `none` where it panics. -/
def copyFromPtr : CopyAnswer → Option Bool
  | .ok bytes => if bytes > 0 then some true else none
  | .partiallyCopied bytes => if bytes = 0 ∨ bytes = 0 - EAGAIN then some false else none
  | .copyFailed errno => if errno = EEXIST then some true else none
  | .otherError => none

/-! ## Serving from a local buffer -/

/-- The bytes which `UFFDIO_COPY` reads at a source address. -/
def readMemory (memory : UInt64 → UInt8) (src len : UInt64) : Bytes :=
  (List.range len.toNat).map fun index => memory (src + UInt64.ofNat index)

/-- `populate_from_file`: the destination and the bytes of the copy. -/
def populateFromFile (memory : UInt64 → UInt8) (backingBuffer : UInt64)
    (region : GuestRegionUffdMapping) (dst len : UInt64) : UInt64 × Bytes :=
  let offset := dst - region.baseHostVirtAddr
  let src := backingBuffer + region.offset + offset
  (dst, readMemory memory src len)

/-- `serve_pf`: the destination and the bytes of the copy. -/
def UffdHandler.servePf (handler : UffdHandler) (memory : UInt64 → UInt8)
    (backingBuffer addr len : UInt64) : Option (UInt64 × Bytes) :=
  let dst := clearBelow addr handler.pageSize
  (handler.regionOf dst).map fun region => populateFromFile memory backingBuffer region dst len

/-! ## Serving from a remote blob -/

def fetchChunkSize : UInt64 := 4 * 1024

theorem fetchChunkSize_powerOfTwo : fetchChunkSize.toNat.isPowerOfTwo := ⟨12, rfl⟩

/-- The state which the faults of one remote handler share. -/
structure RemoteState where
  /-- Fetched chunks by chunk base. -/
  cache : AList fun _ : UInt64 => Bytes
  /-- Arguments of the `fetch_range` calls, oldest first. -/
  fetched : List (UInt64 × UInt64)
  /-- Fault address, destination and data of the `copy_from_slice` calls, oldest first. -/
  copies : List (UInt64 × UInt64 × Bytes)

/-- The state before the first fault. -/
def RemoteState.new : RemoteState := ⟨∅, [], []⟩

/-- The end of the backing blob as `serve_remote_pf` computes it. -/
def UffdHandler.remoteSize (handler : UffdHandler) : Option UInt64 :=
  (handler.memRegions.map fun region => region.offset + region.size).max?

/-- Insert a missing chunk; `fetch_range` errors panic. -/
def RemoteState.loadChunk (state : RemoteState) (fetchRange : UInt64 → UInt64 → Option Bytes)
    (chunkBase chunkLen : UInt64) : RemoteState × Option Bytes :=
  match state.cache.lookup chunkBase with
  | some chunk => (state, some chunk)
  | none =>
      let asked := { state with fetched := state.fetched ++ [(chunkBase, chunkLen)] }
      match fetchRange chunkBase chunkLen with
      | some data => ({ asked with cache := asked.cache.insert chunkBase data }, some data)
      | none => (asked, none)

/-- `&chunk[start..stop]`. -/
def slice (chunk : Bytes) (start stop : UInt64) : Option Bytes :=
  if start ≤ stop ∧ stop.toNat ≤ chunk.length then
    some ((chunk.drop start.toNat).take (stop.toNat - start.toNat))
  else
    none

/-- `serve_remote_pf`, or `none` where it panics. -/
def UffdHandler.serveRemotePf (handler : UffdHandler)
    (fetchRange : UInt64 → UInt64 → Option Bytes) (state : RemoteState) (addr : UInt64)
    (answer : CopyAnswer) : RemoteState × Option Bool :=
  match handler.fileOffsetForAddr addr, handler.remoteSize with
  | some (dst, fileOffset), some remoteSize =>
      let chunkBase := clearBelow fileOffset fetchChunkSize
      let chunkLen := min (remoteSize - chunkBase) fetchChunkSize
      let pageOffset := fileOffset - chunkBase
      match state.loadChunk fetchRange chunkBase chunkLen with
      | (loaded, some chunk) =>
          match slice chunk pageOffset (pageOffset + handler.pageSize) with
          | some data =>
              ({ loaded with copies := loaded.copies ++ [(addr, dst, data)] }, copyFromPtr answer)
          | none => (loaded, none)
      | (loaded, none) => (loaded, none)
  | _, _ => (state, none)

/-- Serve faults, each with the kernel's answer to its copy, until one panics. -/
def UffdHandler.serveFaults (handler : UffdHandler)
    (fetchRange : UInt64 → UInt64 → Option Bytes) :
    RemoteState → List (UInt64 × CopyAnswer) → RemoteState
  | state, [] => state
  | state, (addr, answer) :: faults =>
      match handler.serveRemotePf fetchRange state addr answer with
      | (served, some _) => handler.serveFaults fetchRange served faults
      | (served, none) => served

end Uffd
end HermOS
