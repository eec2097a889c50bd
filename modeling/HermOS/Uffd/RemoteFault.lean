import HermOS.Uffd.Handler
import Mathlib.Data.List.Nodup

/-!
# Remote faults copy what a local buffer would

The chunk cache holds slices of the blob, so a page cut out of a cached chunk is the page of the
blob at its file offset.  The local path reads the same bytes by pointer arithmetic.
-/

namespace HermOS
namespace Uffd

/-- A range client of the blob: every fetched range consists of the blob's own bytes. -/
structure BlobClient (blob : Bytes) where
  /-- `HttpRangeClient::fetch_range`, with errors as `none`. -/
  fetchRange : UInt64 → UInt64 → Option Bytes
  own_bytes : ∀ {offset len data}, fetchRange offset len = some data →
    offset.toNat + len.toNat ≤ blob.length ∧ data = (blob.drop offset.toNat).take len.toNat

/-- A server which cuts its ranges out of the blob and refuses those which leave it. -/
def BlobClient.cutting (blob : Bytes) : BlobClient blob where
  fetchRange offset len :=
    if offset.toNat + len.toNat ≤ blob.length then
      some ((blob.drop offset.toNat).take len.toNat)
    else
      none
  own_bytes {offset len data} fetched := by
    by_cases inside : offset.toNat + len.toNat ≤ blob.length
    · rw [if_pos inside] at fetched
      exact ⟨inside, (Option.some.inj fetched).symm⟩
    · rw [if_neg inside] at fetched
      cases fetched

/-- A local buffer at the address holds the blob. -/
def Backs (memory : UInt64 → UInt8) (backingBuffer : UInt64) (blob : Bytes) : Prop :=
  ∀ (index : ℕ) (inside : index < blob.length),
    memory (backingBuffer + UInt64.ofNat index) = blob.get ⟨index, inside⟩

/-- The copy of a fault is the page of the blob at the file offset of the faulting page. -/
structure CopiesBlob (handler : UffdHandler) (blob : Bytes) (addr dst : UInt64) (data : Bytes) :
    Prop where
  /-- The destination is the fault address rounded down to the page size. -/
  rounded : dst.toNat = addr.toNat / handler.pageSize.toNat * handler.pageSize.toNat
  /-- The data is the page at the offset which the first region containing it gives. -/
  page : ∃ region, handler.regionOf dst = some region ∧
    let fileOffset := region.offset + (dst - region.baseHostVirtAddr)
    fileOffset.toNat + handler.pageSize.toNat ≤ blob.length ∧
    data = (blob.drop fileOffset.toNat).take handler.pageSize.toNat ∧
    (region.offset.toNat + (dst.toNat - region.baseHostVirtAddr.toNat) < 2 ^ 64 →
      fileOffset.toNat = region.offset.toNat + (dst.toNat - region.baseHostVirtAddr.toNat))
  /-- `serve_pf` makes the same copy from a local buffer which holds the blob. -/
  local_copy : ∀ memory backingBuffer, Backs memory backingBuffer blob →
    handler.servePf memory backingBuffer addr handler.pageSize = some (dst, data)

/-! ## Slices of the blob -/

/-- The cached chunks are slices of the blob. -/
def CacheOf (blob : Bytes) (cache : AList fun _ : UInt64 => Bytes) : Prop :=
  ∀ base chunk, cache.lookup base = some chunk →
    base.toNat + chunk.length ≤ blob.length ∧
      chunk = (blob.drop base.toNat).take chunk.length

theorem cacheOf_insert {blob : Bytes} {cache : AList fun _ : UInt64 => Bytes}
    (sound : CacheOf blob cache) {base : UInt64} {chunk : Bytes}
    (inside : base.toNat + chunk.length ≤ blob.length)
    (same : chunk = (blob.drop base.toNat).take chunk.length) :
    CacheOf blob (cache.insert base chunk) := by
  intro base' chunk' found
  by_cases equal : base' = base
  · subst equal
    rw [AList.lookup_insert] at found
    obtain rfl := Option.some.inj found
    exact ⟨inside, same⟩
  · rw [AList.lookup_insert_ne equal] at found
    exact sound base' chunk' found

/-- A page cut out of a slice of the blob is a page of the blob. -/
theorem slice_page {blob chunk data : Bytes} {base pageOffset pageSize : UInt64}
    (inside : base.toNat + chunk.length ≤ blob.length)
    (same : chunk = (blob.drop base.toNat).take chunk.length)
    (cut : slice chunk pageOffset (pageOffset + pageSize) = some data) :
    base.toNat + pageOffset.toNat + pageSize.toNat ≤ blob.length ∧
      data = (blob.drop (base.toNat + pageOffset.toNat)).take pageSize.toNat := by
  unfold slice at cut
  split at cut
  case isFalse => cases cut
  case isTrue bounds =>
    obtain ⟨ordered, fits⟩ := bounds
    -- an ordered slice has not wrapped
    have stop_eq : (pageOffset + pageSize).toNat = pageOffset.toNat + pageSize.toNat := by
      rw [UInt64.le_iff_toNat_le, UInt64.toNat_add] at ordered
      rw [UInt64.toNat_add]
      have := pageOffset.toNat_lt
      have := pageSize.toNat_lt
      omega
    rw [stop_eq] at fits
    refine ⟨by omega, ?_⟩
    obtain rfl := Option.some.inj cut
    rw [stop_eq, Nat.add_sub_cancel_left]
    conv_lhs => rw [same]
    rw [List.drop_take, List.take_take, List.drop_drop, Nat.min_eq_left (by omega)]

/-- Reading a local buffer at a file offset gives the bytes of the blob. -/
theorem readMemory_backs {memory : UInt64 → UInt8} {backingBuffer fileOffset len : UInt64}
    {blob : Bytes} (backs : Backs memory backingBuffer blob)
    (inside : fileOffset.toNat + len.toNat ≤ blob.length) :
    readMemory memory (backingBuffer + fileOffset) len =
      (blob.drop fileOffset.toNat).take len.toNat := by
  apply List.ext_getElem
  · simp [readMemory]
    omega
  · intro index left _
    have bound : index < len.toNat := by simpa [readMemory] using left
    have address : backingBuffer + fileOffset + UInt64.ofNat index =
        backingBuffer + UInt64.ofNat (fileOffset.toNat + index) := by
      rw [UInt64.ofNat_add, UInt64.ofNat_toNat, UInt64.add_assoc]
    simp only [readMemory, List.getElem_map, List.getElem_range, List.getElem_take,
      List.getElem_drop, address]
    exact backs (fileOffset.toNat + index) (by omega)

/-! ## One fault -/

/-- What holds of the shared state after any fault. -/
structure Sound (handler : UffdHandler) (blob : Bytes) (state : RemoteState) : Prop where
  copies : ∀ addr dst data, (addr, dst, data) ∈ state.copies →
    CopiesBlob handler blob addr dst data
  fetched_once : (state.fetched.map Prod.fst).Nodup

/-- What holds of the shared state after a fault which did not panic. -/
structure Live (handler : UffdHandler) (blob : Bytes) (state : RemoteState) : Prop
    extends Sound handler blob state where
  cache : CacheOf blob state.cache
  fetched_cached : ∀ base ∈ state.fetched.map Prod.fst, base ∈ state.cache

theorem live_new (handler : UffdHandler) (blob : Bytes) : Live handler blob .new where
  copies := by simp [RemoteState.new]
  fetched_once := by simp [RemoteState.new]
  cache := by simp [CacheOf, RemoteState.new]
  fetched_cached := by simp [RemoteState.new]

/-- Loading a chunk fetches it only when it is missing. -/
theorem loadChunk_live {handler : UffdHandler} {blob : Bytes} (client : BlobClient blob)
    {state loaded : RemoteState} {chunkBase chunkLen : UInt64} {chunk : Option Bytes}
    (live : Live handler blob state)
    (load : state.loadChunk client.fetchRange chunkBase chunkLen = (loaded, chunk)) :
    Sound handler blob loaded ∧ ∀ bytes, chunk = some bytes → Live handler blob loaded ∧
      chunkBase.toNat + bytes.length ≤ blob.length ∧
        bytes = (blob.drop chunkBase.toNat).take bytes.length := by
  unfold RemoteState.loadChunk at load
  cases cached : state.cache.lookup chunkBase with
  | some stored =>
      simp only [cached, Prod.mk.injEq] at load
      obtain ⟨rfl, rfl⟩ := load
      refine ⟨live.toSound, ?_⟩
      rintro bytes ⟨⟩
      exact ⟨live, live.cache chunkBase _ cached⟩
  | none =>
      have missing : chunkBase ∉ state.cache := AList.lookup_eq_none.mp cached
      have once : ((state.fetched ++ [(chunkBase, chunkLen)]).map Prod.fst).Nodup := by
        rw [List.map_append, List.map_singleton, List.nodup_append]
        refine ⟨live.fetched_once, List.nodup_singleton _, ?_⟩
        rintro base member other only rfl
        rw [List.mem_singleton.mp only] at member
        exact missing (live.fetched_cached chunkBase member)
      cases answered : client.fetchRange chunkBase chunkLen with
      | none =>
          simp only [cached, answered, Prod.mk.injEq] at load
          obtain ⟨rfl, rfl⟩ := load
          exact ⟨⟨live.copies, once⟩, nofun⟩
      | some data =>
          simp only [cached, answered, Prod.mk.injEq] at load
          obtain ⟨rfl, rfl⟩ := load
          obtain ⟨inside, own⟩ := client.own_bytes answered
          have length_eq : data.length = chunkLen.toNat := by
            rw [own, List.length_take, List.length_drop]
            omega
          have same : data = (blob.drop chunkBase.toNat).take data.length := by
            rw [length_eq]
            exact own
          refine ⟨⟨live.copies, once⟩, ?_⟩
          rintro bytes ⟨⟩
          refine ⟨⟨⟨live.copies, once⟩, cacheOf_insert live.cache (by omega) same, ?_⟩,
            by omega, same⟩
          intro base member
          simp only [List.map_append, List.map_singleton, List.mem_append,
            List.mem_singleton] at member
          rcases member with old | rfl
          · exact (AList.mem_insert _).mpr (.inr (live.fetched_cached base old))
          · exact (AList.mem_insert _).mpr (.inl rfl)

/-- The page of a fault, cut out of the chunk which contains its file offset. -/
theorem copiesBlob_of_slice {handler : UffdHandler} {blob chunk data : Bytes}
    {addr dst fileOffset : UInt64} (found : handler.fileOffsetForAddr addr = some (dst, fileOffset))
    (inside : (clearBelow fileOffset fetchChunkSize).toNat + chunk.length ≤ blob.length)
    (same : chunk = (blob.drop (clearBelow fileOffset fetchChunkSize).toNat).take chunk.length)
    (cut : slice chunk (fileOffset - clearBelow fileOffset fetchChunkSize)
      (fileOffset - clearBelow fileOffset fetchChunkSize + handler.pageSize) = some data) :
    CopiesBlob handler blob addr dst data := by
  obtain ⟨page_inside, page⟩ := slice_page inside same cut
  rw [clearBelow_add_sub fetchChunkSize_powerOfTwo] at page_inside page
  simp only [UffdHandler.fileOffsetForAddr, Option.map_eq_some_iff, Prod.mk.injEq] at found
  obtain ⟨region, region_eq, rfl, rfl⟩ := found
  have contained := List.find?_some region_eq
  simp only [GuestRegionUffdMapping.contains, Bool.and_eq_true, decide_eq_true_eq] at contained
  have above : region.baseHostVirtAddr ≤ clearBelow addr handler.pageSize := contained.1
  refine ⟨clearBelow_toNat handler.powerOfTwo, ⟨region, region_eq, page_inside, page, ?_⟩, ?_⟩
  · intro fits
    rw [UInt64.toNat_add, UInt64.toNat_sub_of_le _ _ above]
    exact Nat.mod_eq_of_lt fits
  · intro memory backingBuffer backs
    rw [UffdHandler.servePf, region_eq, Option.map_some, populateFromFile, UInt64.add_assoc,
      readMemory_backs backs page_inside, page]

theorem serveRemotePf_live {handler : UffdHandler} {blob : Bytes} (client : BlobClient blob)
    {state served : RemoteState} {addr : UInt64} {answer : CopyAnswer} {result : Option Bool}
    (live : Live handler blob state)
    (serve : handler.serveRemotePf client.fetchRange state addr answer = (served, result)) :
    Sound handler blob served ∧ (result ≠ none → Live handler blob served) := by
  unfold UffdHandler.serveRemotePf at serve
  split at serve
  case h_2 =>
    obtain ⟨rfl, rfl⟩ := Prod.mk.inj serve
    exact ⟨live.toSound, fun panics => (panics rfl).elim⟩
  case h_1 dst fileOffset remoteSize found _ =>
    dsimp only at serve
    split at serve
    case h_2 loaded load =>
      obtain ⟨rfl, rfl⟩ := Prod.mk.inj serve
      exact ⟨(loadChunk_live client live load).1, fun panics => (panics rfl).elim⟩
    case h_1 loaded chunk load =>
      obtain ⟨sound, loads⟩ := loadChunk_live client live load
      obtain ⟨live', inside, same⟩ := loads chunk rfl
      split at serve
      case h_2 =>
        obtain ⟨rfl, rfl⟩ := Prod.mk.inj serve
        exact ⟨sound, fun panics => (panics rfl).elim⟩
      case h_1 data cut =>
        obtain ⟨rfl, rfl⟩ := Prod.mk.inj serve
        have copies : ∀ addr' dst' data', (addr', dst', data') ∈
            loaded.copies ++ [(addr, dst, data)] → CopiesBlob handler blob addr' dst' data' := by
          intro addr' dst' data' member
          simp only [List.mem_append, List.mem_singleton, Prod.mk.injEq] at member
          rcases member with old | ⟨rfl, rfl, rfl⟩
          · exact live'.copies addr' dst' data' old
          · exact copiesBlob_of_slice found inside same cut
        exact ⟨⟨copies, live'.fetched_once⟩,
          fun _ => ⟨⟨copies, live'.fetched_once⟩, live'.cache, live'.fetched_cached⟩⟩

/-! ## Runs of faults -/

/-- Every copy of a run is the blob's page and no chunk base is fetched twice. -/
theorem serveFaults_copies_blob (handler : UffdHandler) {blob : Bytes} (client : BlobClient blob)
    (faults : List (UInt64 × CopyAnswer)) :
    Sound handler blob (handler.serveFaults client.fetchRange .new faults) := by
  have run : ∀ state, Live handler blob state →
      Sound handler blob (handler.serveFaults client.fetchRange state faults) := by
    induction faults with
    | nil => exact fun state live => live.toSound
    | cons fault faults ih =>
        intro state live
        obtain ⟨addr, answer⟩ := fault
        unfold UffdHandler.serveFaults
        split
        case h_1 served result serve =>
          exact ih served ((serveRemotePf_live client live serve).2 (by simp))
        case h_2 served serve => exact (serveRemotePf_live client live serve).1
  exact run .new (live_new handler blob)

/-- Two regions of two pages each, the second of which comes first in the backend. -/
def swappedRegions : UffdHandler where
  memRegions := [⟨0x7000, 8, 8, 4⟩, ⟨0x9000, 8, 0, 4⟩]
  pageSize := 4
  powerOfTwo := ⟨2, rfl⟩

def swappedBlob : Bytes :=
  [10, 11, 12, 13, 20, 21, 22, 23, 30, 31, 32, 33, 40, 41, 42, 43]

/-- A page, a page of the other region, and the first page again once the kernel has refused it. -/
def swappedFaults : List (UInt64 × CopyAnswer) :=
  [(0x7006, .partiallyCopied 0), (0x9001, .ok 4), (0x7006, .ok 4)]

theorem serveFaults_copies_blob_repeated :
    let served := swappedRegions.serveFaults (BlobClient.cutting swappedBlob).fetchRange .new
      swappedFaults
    served.copies = [(0x7006, 0x7004, [40, 41, 42, 43]), (0x9001, 0x9000, [10, 11, 12, 13]),
      (0x7006, 0x7004, [40, 41, 42, 43])] ∧
      served.fetched = [(0, 16)] ∧ Sound swappedRegions swappedBlob served :=
  ⟨by decide, by decide,
    serveFaults_copies_blob swappedRegions (.cutting swappedBlob) swappedFaults⟩

end Uffd
end HermOS
