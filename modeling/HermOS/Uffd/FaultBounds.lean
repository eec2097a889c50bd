import HermOS.Uffd.Handler

/-!
# Bounds of a remote fault

A fault is served from the chunk of 4 KiB which contains its file offset.  The chunk is cut short at
the end of the backing blob, and a cached chunk has the length which was requested for its base.  A
page inside the blob lies in one chunk exactly if pages are no longer than chunks.
-/

namespace HermOS
namespace Uffd

/-- The base address, size and offset of a region are multiples of a page size. -/
def GuestRegionUffdMapping.Aligned (region : GuestRegionUffdMapping) (pageSize : UInt64) : Prop :=
  pageSize.toNat ∣ region.baseHostVirtAddr.toNat ∧ pageSize.toNat ∣ region.size.toNat ∧
    pageSize.toNat ∣ region.offset.toNat

/-- The length which is requested for a chunk base. -/
def chunkLenAt (remoteSize chunkBase : UInt64) : UInt64 :=
  min (remoteSize - chunkBase) fetchChunkSize

/-- Serving a fault subtracts without underflow, requests a nonempty chunk and slices inside the
chunk it loads. -/
def UffdHandler.ServesWithin (handler : UffdHandler)
    (fetchRange : UInt64 → UInt64 → Option Bytes) (state : RemoteState) (addr : UInt64) : Prop :=
  ∃ dst fileOffset remoteSize chunk, handler.fileOffsetForAddr addr = some (dst, fileOffset) ∧
    handler.remoteSize = some remoteSize ∧
    let chunkBase := clearBelow fileOffset fetchChunkSize
    chunkBase ≤ remoteSize ∧ 0 < chunkLenAt remoteSize chunkBase ∧
      (state.loadChunk fetchRange chunkBase (chunkLenAt remoteSize chunkBase)).2 = some chunk ∧
      (fileOffset - chunkBase).toNat + handler.pageSize.toNat ≤ chunk.length

/-- The file offset of an address lies below the backend end of some region. -/
def UffdHandler.InBackend (handler : UffdHandler) (addr : UInt64) : Prop :=
  ∃ dst fileOffset, handler.fileOffsetForAddr addr = some (dst, fileOffset) ∧
    ∃ region ∈ handler.memRegions, fileOffset < region.offset + region.size

/-- The server answers every range with as many bytes as requested. -/
def Exact (fetchRange : UInt64 → UInt64 → Option Bytes) : Prop :=
  ∀ offset len, ∃ data, fetchRange offset len = some data ∧ data.length = len.toNat

/-! ### Cached chunks -/

/-- Cached chunks have the length which was requested for their base. -/
def ChunksOf (remoteSize : UInt64) (cache : AList fun _ : UInt64 => Bytes) : Prop :=
  ∀ base chunk, cache.lookup base = some chunk → chunk.length = (chunkLenAt remoteSize base).toNat

theorem loadChunk_chunksOf {fetchRange : UInt64 → UInt64 → Option Bytes} (exact : Exact fetchRange)
    {remoteSize : UInt64} {state : RemoteState} (chunks : ChunksOf remoteSize state.cache)
    (chunkBase : UInt64) :
    ChunksOf remoteSize
        (state.loadChunk fetchRange chunkBase (chunkLenAt remoteSize chunkBase)).1.cache ∧
      ∃ chunk, (state.loadChunk fetchRange chunkBase (chunkLenAt remoteSize chunkBase)).2 =
          some chunk ∧ chunk.length = (chunkLenAt remoteSize chunkBase).toNat := by
  unfold RemoteState.loadChunk
  cases cached : state.cache.lookup chunkBase with
  | some stored => exact ⟨chunks, stored, rfl, chunks chunkBase stored cached⟩
  | none =>
      obtain ⟨data, answered, length⟩ := exact chunkBase (chunkLenAt remoteSize chunkBase)
      simp only [answered]
      refine ⟨fun base chunk found => ?_, data, rfl, length⟩
      by_cases same : base = chunkBase
      · subst same
        rw [AList.lookup_insert] at found
        rw [← Option.some.inj found]
        exact length
      · rw [AList.lookup_insert_ne same] at found
        exact chunks base chunk found

theorem serveRemotePf_chunksOf {handler : UffdHandler}
    {fetchRange : UInt64 → UInt64 → Option Bytes} (exact : Exact fetchRange) {remoteSize : UInt64}
    (size : handler.remoteSize = some remoteSize) {state : RemoteState}
    (chunks : ChunksOf remoteSize state.cache) (addr : UInt64) (answer : CopyAnswer) :
    ChunksOf remoteSize (handler.serveRemotePf fetchRange state addr answer).1.cache := by
  unfold UffdHandler.serveRemotePf
  split
  next dst fileOffset size' found same =>
    obtain rfl : size' = remoteSize := Option.some.inj (same.symm.trans size)
    obtain ⟨kept, chunk, loaded, _⟩ :=
      loadChunk_chunksOf exact chunks (clearBelow fileOffset fetchChunkSize)
    unfold chunkLenAt at kept loaded
    dsimp only
    split
    next after stored load =>
      have cache_eq := congrArg (fun result => result.1.cache) load
      dsimp only at cache_eq
      split <;> exact cache_eq ▸ kept
    next after load => exact (congrArg (fun result => result.1.cache) load) ▸ kept
  next => exact chunks

/-- The cache which any earlier faults leave. -/
theorem serveFaults_chunksOf {handler : UffdHandler}
    {fetchRange : UInt64 → UInt64 → Option Bytes} (exact : Exact fetchRange) {remoteSize : UInt64}
    (size : handler.remoteSize = some remoteSize) (faults : List (UInt64 × CopyAnswer))
    {state : RemoteState} (chunks : ChunksOf remoteSize state.cache) :
    ChunksOf remoteSize (handler.serveFaults fetchRange state faults).cache := by
  induction faults generalizing state with
  | nil => exact chunks
  | cons fault faults ih =>
      obtain ⟨addr, answer⟩ := fault
      have served := serveRemotePf_chunksOf exact size chunks addr answer
      rw [UffdHandler.serveFaults]
      split
      next after result serve => exact ih (by rw [serve] at served; exact served)
      next after serve => rwa [serve] at served

/-! ### Alignment -/

theorem memRegions_of_accepted {mappings : List GuestRegionUffdMapping} {handler : UffdHandler}
    (accepted : UffdHandler.fromUnixStreamRemote mappings = some handler) :
    handler.memRegions = mappings := by
  unfold UffdHandler.fromUnixStreamRemote at accepted
  split at accepted
  next => cases accepted
  next =>
    split at accepted
    next => rw [← Option.some.inj accepted]
    next => cases accepted

section Alignment

variable {pageSize : UInt64}

theorem dvd_word (power : pageSize.toNat.isPowerOfTwo) : pageSize.toNat ∣ 2 ^ 64 := by
  obtain ⟨exponent, size_eq⟩ := power
  have bound := pageSize.toNat_lt
  rw [size_eq] at bound ⊢
  exact Nat.pow_dvd_pow 2 (Nat.le_of_lt ((Nat.pow_lt_pow_iff_right (by decide)).mp bound))

theorem dvd_add {left right : UInt64} (power : pageSize.toNat.isPowerOfTwo)
    (left_dvd : pageSize.toNat ∣ left.toNat) (right_dvd : pageSize.toNat ∣ right.toNat) :
    pageSize.toNat ∣ (left + right).toNat := by
  rw [UInt64.toNat_add]
  exact (Nat.dvd_mod_iff (dvd_word power)).mpr (Nat.dvd_add left_dvd right_dvd)

theorem dvd_clearBelow {word : UInt64} (power : pageSize.toNat.isPowerOfTwo) :
    pageSize.toNat ∣ (clearBelow word pageSize).toNat := by
  rw [clearBelow_toNat power]
  exact Nat.dvd_mul_left _ _

/-- An aligned region which contains an address contains its page. -/
theorem contains_clearBelow {region : GuestRegionUffdMapping} {addr : UInt64}
    (power : pageSize.toNat.isPowerOfTwo) (aligned : region.Aligned pageSize)
    (inside : region.contains addr = true) : region.contains (clearBelow addr pageSize) = true := by
  simp only [GuestRegionUffdMapping.contains, Bool.and_eq_true, decide_eq_true_eq] at inside ⊢
  have below : clearBelow addr pageSize ≤ addr := clearBelow_le power
  refine ⟨?_, ?_⟩
  · have above : region.baseHostVirtAddr ≤ addr := inside.1
    rw [ge_iff_le, UInt64.le_iff_toNat_le, clearBelow_toNat power]
    rw [UInt64.le_iff_toNat_le] at above
    obtain ⟨count, base_eq⟩ := aligned.1
    rw [base_eq, Nat.mul_comm]
    refine Nat.mul_le_mul_right _ ?_
    rw [Nat.le_div_iff_mul_le (Nat.pos_of_isPowerOfTwo power), Nat.mul_comm, ← base_eq]
    exact above
  · exact UInt64.lt_of_le_of_lt below inside.2

end Alignment

/-- The file offset of a page inside an aligned region is a multiple of the page size. -/
theorem fileOffsetForAddr_aligned {handler : UffdHandler}
    (aligned : ∀ region ∈ handler.memRegions, region.Aligned handler.pageSize)
    {addr dst fileOffset : UInt64}
    (found : handler.fileOffsetForAddr addr = some (dst, fileOffset)) :
    handler.pageSize.toNat ∣ fileOffset.toNat := by
  simp only [UffdHandler.fileOffsetForAddr, Option.map_eq_some_iff, Prod.mk.injEq] at found
  obtain ⟨region, region_eq, rfl, rfl⟩ := found
  obtain ⟨base_dvd, _, offset_dvd⟩ := aligned region (List.mem_of_find?_eq_some region_eq)
  have contained := List.find?_some region_eq
  simp only [GuestRegionUffdMapping.contains, Bool.and_eq_true, decide_eq_true_eq] at contained
  have above : region.baseHostVirtAddr ≤ clearBelow addr handler.pageSize := contained.1
  refine dvd_add handler.powerOfTwo offset_dvd ?_
  rw [UInt64.toNat_sub_of_le _ _ above]
  exact Nat.dvd_sub (dvd_clearBelow handler.powerOfTwo) base_dvd

/-- A fault inside an aligned region has a file offset. -/
theorem exists_fileOffsetForAddr {handler : UffdHandler}
    (aligned : ∀ region ∈ handler.memRegions, region.Aligned handler.pageSize) {addr : UInt64}
    (inside : ∃ region ∈ handler.memRegions, region.contains addr = true) :
    ∃ dst fileOffset, handler.fileOffsetForAddr addr = some (dst, fileOffset) := by
  obtain ⟨region, member, contained⟩ := inside
  have page := contains_clearBelow handler.powerOfTwo (aligned region member) contained
  have some_region : (handler.regionOf (clearBelow addr handler.pageSize)).isSome = true :=
    List.find?_isSome.mpr ⟨region, member, page⟩
  obtain ⟨first, first_eq⟩ := Option.isSome_iff_exists.mp some_region
  exact ⟨_, _, Option.map_eq_some_iff.mpr ⟨first, first_eq, rfl⟩⟩

/-! ### The end of the blob -/

instance lawfulOrderMaxUInt64 : Std.LawfulOrderMax UInt64 :=
  Std.LawfulOrderMax.of_max_le_iff
    (fun left right bound => by
      show (if left ≤ right then right else left) ≤ bound ↔ _
      grind)
    (fun left right => by
      show (if left ≤ right then right else left) = left ∨
        (if left ≤ right then right else left) = right
      grind)

theorem remoteSize_spec {handler : UffdHandler} {remoteSize : UInt64}
    (size : handler.remoteSize = some remoteSize) :
    (∃ region ∈ handler.memRegions, remoteSize = region.offset + region.size) ∧
      ∀ region ∈ handler.memRegions, region.offset + region.size ≤ remoteSize := by
  obtain ⟨member, largest⟩ := List.max?_eq_some_iff.mp size
  obtain ⟨region, inside, end_eq⟩ := List.mem_map.mp member
  exact ⟨⟨region, inside, end_eq.symm⟩,
    fun other inside => largest _ (List.mem_map_of_mem inside)⟩

theorem remoteSize_aligned {handler : UffdHandler}
    (aligned : ∀ region ∈ handler.memRegions, region.Aligned handler.pageSize)
    {remoteSize : UInt64} (size : handler.remoteSize = some remoteSize) :
    handler.pageSize.toNat ∣ remoteSize.toNat := by
  obtain ⟨⟨region, inside, rfl⟩, _⟩ := remoteSize_spec size
  obtain ⟨_, size_dvd, offset_dvd⟩ := aligned region inside
  exact dvd_add handler.powerOfTwo offset_dvd size_dvd

/-- A file offset below some region's backend end is below the end of the blob. -/
theorem inBackend_iff {handler : UffdHandler} {addr dst fileOffset remoteSize : UInt64}
    (found : handler.fileOffsetForAddr addr = some (dst, fileOffset))
    (size : handler.remoteSize = some remoteSize) :
    handler.InBackend addr ↔ fileOffset < remoteSize := by
  obtain ⟨⟨largest, inside, end_eq⟩, bound⟩ := remoteSize_spec size
  constructor
  · rintro ⟨dst', fileOffset', found', region, member, below⟩
    obtain ⟨rfl, rfl⟩ := Prod.mk.inj (Option.some.inj (found.symm.trans found'))
    exact UInt64.lt_of_lt_of_le below (bound region member)
  · intro below
    exact ⟨dst, fileOffset, found, largest, inside, end_eq ▸ below⟩

/-- Where regions are ranges of 64-bit words, every fault inside a region is in the backend. -/
theorem inBackend_of_inside {handler : UffdHandler}
    (aligned : ∀ region ∈ handler.memRegions, region.Aligned handler.pageSize)
    (fits : ∀ region ∈ handler.memRegions,
      region.baseHostVirtAddr.toNat + region.size.toNat < 2 ^ 64 ∧
        region.offset.toNat + region.size.toNat < 2 ^ 64)
    {addr : UInt64} {region : GuestRegionUffdMapping} (member : region ∈ handler.memRegions)
    (above : region.baseHostVirtAddr.toNat ≤ addr.toNat)
    (below : addr.toNat < region.baseHostVirtAddr.toNat + region.size.toNat) :
    handler.InBackend addr := by
  have contained : region.contains addr = true := by
    simp only [GuestRegionUffdMapping.contains, Bool.and_eq_true, decide_eq_true_eq, ge_iff_le,
      UInt64.le_iff_toNat_le, UInt64.lt_iff_toNat_lt, UInt64.toNat_add]
    have := (fits region member).1
    omega
  obtain ⟨dst, fileOffset, found⟩ := exists_fileOffsetForAddr aligned ⟨region, member, contained⟩
  refine ⟨dst, fileOffset, found, ?_⟩
  simp only [UffdHandler.fileOffsetForAddr, Option.map_eq_some_iff, Prod.mk.injEq] at found
  obtain ⟨first, first_eq, rfl, rfl⟩ := found
  have first_contained := List.find?_some first_eq
  simp only [GuestRegionUffdMapping.contains, Bool.and_eq_true, decide_eq_true_eq]
    at first_contained
  obtain ⟨first_above, first_below⟩ := first_contained
  have room := fits first (List.mem_of_find?_eq_some first_eq)
  refine ⟨first, List.mem_of_find?_eq_some first_eq, ?_⟩
  rw [ge_iff_le, UInt64.le_iff_toNat_le] at first_above
  rw [UInt64.lt_iff_toNat_lt, UInt64.toNat_add] at first_below ⊢
  rw [UInt64.toNat_add, UInt64.toNat_sub_of_le _ _ (UInt64.le_iff_toNat_le.mpr first_above)]
  omega

/-! ### The chunk of a page -/

section Chunk

variable {pageSize fileOffset remoteSize : UInt64}

theorem clearBelow_chunk (word : UInt64) :
    (clearBelow word fetchChunkSize).toNat = word.toNat / 4096 * 4096 :=
  clearBelow_toNat fetchChunkSize_powerOfTwo

/-- A page of at most a chunk lies in one chunk. -/
theorem page_in_chunk (power : pageSize.toNat.isPowerOfTwo) (short : pageSize.toNat ≤ 4096)
    (aligned : pageSize.toNat ∣ fileOffset.toNat) :
    fileOffset.toNat % 4096 + pageSize.toNat ≤ 4096 := by
  obtain ⟨exponent, size_eq⟩ := power
  have small : exponent ≤ 12 := by
    rw [size_eq] at short
    exact (Nat.pow_le_pow_iff_right (by decide)).mp (short.trans_eq (by rfl : 4096 = 2 ^ 12))
  have divides : pageSize.toNat ∣ 4096 := by
    rw [size_eq]
    exact Nat.pow_dvd_pow 2 small
  exact add_le_of_dvd ((Nat.dvd_mod_iff divides).mpr aligned) divides (Nat.mod_lt _ (by decide))

end Chunk

/-- What serving a fault needs, in terms of its file offset. -/
theorem servesWithin_iff {handler : UffdHandler}
    (aligned : ∀ region ∈ handler.memRegions, region.Aligned handler.pageSize)
    {fetchRange : UInt64 → UInt64 → Option Bytes} (exact : Exact fetchRange) {state : RemoteState}
    {remoteSize : UInt64} (size : handler.remoteSize = some remoteSize)
    (chunks : ChunksOf remoteSize state.cache) {addr dst fileOffset : UInt64}
    (found : handler.fileOffsetForAddr addr = some (dst, fileOffset)) :
    handler.ServesWithin fetchRange state addr ↔
      handler.pageSize.toNat ≤ 4096 ∧ fileOffset < remoteSize := by
  obtain ⟨_, chunk, loaded, chunk_length⟩ :=
    loadChunk_chunksOf exact chunks (clearBelow fileOffset fetchChunkSize)
  have base_eq := clearBelow_chunk fileOffset
  have base_le : clearBelow fileOffset fetchChunkSize ≤ fileOffset :=
    clearBelow_le fetchChunkSize_powerOfTwo
  have page_offset : (fileOffset - clearBelow fileOffset fetchChunkSize).toNat =
      fileOffset.toNat % 4096 := by
    rw [UInt64.toNat_sub_of_le _ _ base_le, base_eq]
    omega
  have chunk_size : fetchChunkSize.toNat = 4096 := rfl
  have length_of : clearBelow fileOffset fetchChunkSize ≤ remoteSize →
      (chunkLenAt remoteSize (clearBelow fileOffset fetchChunkSize)).toNat =
        min (remoteSize.toNat - fileOffset.toNat / 4096 * 4096) 4096 := by
    intro below
    rw [chunkLenAt, UInt64.toNat_min, UInt64.toNat_sub_of_le _ _ below, base_eq, chunk_size]
  constructor
  · rintro ⟨dst', fileOffset', size', chunk', found', same, below, _, loaded', fits⟩
    obtain ⟨rfl, rfl⟩ := Prod.mk.inj (Option.some.inj (found.symm.trans found'))
    obtain rfl := Option.some.inj (size.symm.trans same)
    obtain rfl := Option.some.inj (loaded.symm.trans loaded')
    rw [page_offset, chunk_length, length_of below] at fits
    rw [UInt64.lt_iff_toNat_lt]
    have := Nat.pos_of_isPowerOfTwo handler.powerOfTwo
    omega
  · rintro ⟨short, inside⟩
    have page_aligned := fileOffsetForAddr_aligned aligned found
    have room := add_le_of_dvd page_aligned (remoteSize_aligned aligned size)
      (UInt64.lt_iff_toNat_lt.mp inside)
    have one_chunk := page_in_chunk handler.powerOfTwo short page_aligned
    have below : clearBelow fileOffset fetchChunkSize ≤ remoteSize :=
      UInt64.le_of_lt (UInt64.lt_of_le_of_lt base_le inside)
    refine ⟨dst, fileOffset, remoteSize, chunk, found, size, below, ?_, loaded, ?_⟩
    · rw [UInt64.lt_iff_toNat_lt, length_of below, UInt64.toNat_zero]
      rw [UInt64.lt_iff_toNat_lt] at inside
      omega
    · rw [page_offset, chunk_length, length_of below]
      omega

theorem remoteSize_of_accepted {mappings : List GuestRegionUffdMapping} {handler : UffdHandler}
    (accepted : UffdHandler.fromUnixStreamRemote mappings = some handler) :
    ∃ remoteSize, handler.remoteSize = some remoteSize := by
  have regions := memRegions_of_accepted accepted
  cases mappings with
  | nil => cases accepted
  | cons region others =>
      refine Option.isSome_iff_exists.mp ?_
      rw [UffdHandler.remoteSize, regions]
      exact List.isSome_max?_of_mem (List.mem_map_of_mem List.mem_cons_self)

/-- A fault is served without a panic exactly if pages are no longer than chunks and its file offset
is in the backend. -/
theorem serveRemotePf_within {mappings : List GuestRegionUffdMapping} {handler : UffdHandler}
    (accepted : UffdHandler.fromUnixStreamRemote mappings = some handler)
    (aligned : ∀ region ∈ mappings, region.Aligned handler.pageSize)
    {fetchRange : UInt64 → UInt64 → Option Bytes} (exact : Exact fetchRange)
    (faults : List (UInt64 × CopyAnswer)) (addr : UInt64) :
    handler.ServesWithin fetchRange (handler.serveFaults fetchRange .new faults) addr ↔
      handler.pageSize.toNat ≤ 4096 ∧ handler.InBackend addr := by
  obtain ⟨remoteSize, size⟩ := remoteSize_of_accepted accepted
  obtain rfl : handler.memRegions = mappings := memRegions_of_accepted accepted
  have fresh : ChunksOf remoteSize RemoteState.new.cache := by simp [ChunksOf, RemoteState.new]
  have chunks := serveFaults_chunksOf exact size faults fresh
  cases located : handler.fileOffsetForAddr addr with
  | none =>
      -- outside every region, `file_offset_for_addr` itself panics
      have lost : ∀ {dst fileOffset}, handler.fileOffsetForAddr addr ≠ some (dst, fileOffset) := by
        simp [located]
      constructor
      · rintro ⟨_, _, _, _, found, _⟩
        exact absurd found lost
      · rintro ⟨_, _, _, found, _⟩
        exact absurd found lost
  | some found =>
    rw [servesWithin_iff aligned exact size chunks located, inBackend_iff located size]

/-! ### Huge pages -/

/-- One region of one page. -/
def pageRegion (pageSize : UInt64) : GuestRegionUffdMapping :=
  ⟨pageSize, pageSize, 0, pageSize⟩

def pageHandler (exponent : ℕ) (small : exponent < 64) : UffdHandler :=
  ⟨[pageRegion (UInt64.ofNat (2 ^ exponent))], UInt64.ofNat (2 ^ exponent), exponent, by
    rw [UInt64.toNat_ofNat']
    exact Nat.mod_eq_of_lt (Nat.pow_lt_pow_right (by decide) small)⟩

def zeroBlob (_ len : UInt64) : Option Bytes :=
  some (List.replicate len.toNat 0)

theorem exact_zeroBlob : Exact zeroBlob := fun _ len =>
  ⟨List.replicate len.toNat 0, rfl, List.length_replicate⟩

theorem serveRemotePf_within_smallPages :
    (pageHandler 12 (by decide)).ServesWithin zeroBlob
        ((pageHandler 12 (by decide)).serveFaults zeroBlob .new []) 0x1abc ↔
      (pageHandler 12 (by decide)).pageSize.toNat ≤ 4096 ∧
        (pageHandler 12 (by decide)).InBackend 0x1abc := by
  have accepted : UffdHandler.fromUnixStreamRemote [pageRegion 4096] =
      some (pageHandler 12 (by decide)) := rfl
  refine serveRemotePf_within accepted ?_ exact_zeroBlob [] 0x1abc
  intro region inside
  rw [List.mem_singleton.mp inside]
  exact ⟨⟨1, rfl⟩, ⟨1, rfl⟩, ⟨0, rfl⟩⟩

/-- The region, of one huge page, is accepted and aligned and contains the fault, and the slice of
the page is not within the chunk of 4 KiB. -/
theorem not_servesWithin_hugePages :
    UffdHandler.fromUnixStreamRemote [pageRegion 0x200000] = some (pageHandler 21 (by decide)) ∧
      (pageRegion 0x200000).Aligned 0x200000 ∧
      (pageRegion 0x200000).contains 0x200000 = true ∧
      ¬ (pageHandler 21 (by decide)).ServesWithin zeroBlob .new 0x200000 := by
  refine ⟨rfl, ⟨⟨1, rfl⟩, ⟨1, rfl⟩, ⟨0, rfl⟩⟩, by decide, ?_⟩
  rintro ⟨dst, fileOffset, remoteSize, chunk, found, size, _, _, loaded, fits⟩
  cases found
  cases size
  have length := congrArg List.length (Option.some.inj loaded)
  rw [List.length_replicate] at length
  rw [← length] at fits
  exact absurd fits (by decide)

end Uffd
end HermOS
