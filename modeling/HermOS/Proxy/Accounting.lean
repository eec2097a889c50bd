import HermOS.Proxy.RangeStore
import Mathlib.Algebra.Order.Field.Rat
import Mathlib.Tactic.FieldSimp
import Mathlib.Tactic.Linarith
import Mathlib.Tactic.Positivity

/-!
# Accounting of the range store

The counter laws are an invariant of the store which each lock section preserves.  The success and
the failure section need to know that their key is in `inflight` and not in `cache`; this is read
off the control states, where a thread owns a key from its admission to its completion section.
-/

namespace HermOS
namespace Proxy

variable {Thread Error : Type}

namespace RangeStore

/-- The three ways through the admission section. -/
theorem enter_cases {store after : RangeStore Error} {key : Key} {admission : Admission}
    (admitted : store.enter key = (after, admission)) :
    (∃ data, store.cache.lookup key = some data ∧ admission = .hit data ∧
      after = { store with
        clientRequests := store.clientRequests + 1
        cacheHits := store.cacheHits + 1
        bytesServed := store.bytesServed + data.length }) ∨
    (store.cache.lookup key = none ∧ store.inflight.lookup key = none ∧
      admission = .owner store.allocated ∧
      after = { store with
        clientRequests := store.clientRequests + 1
        fetchStates := Function.update store.fetchStates store.allocated {}
        allocated := store.allocated + 1
        inflight := store.inflight.insert key store.allocated
        remoteRequests := store.remoteRequests + 1 }) ∨
    (∃ ref, store.cache.lookup key = none ∧ store.inflight.lookup key = some ref ∧
      admission = .waiter ref ∧
      after = { store with
        clientRequests := store.clientRequests + 1
        inflightHits := store.inflightHits + 1 }) := by
  unfold enter at admitted
  cases cached : store.cache.lookup key with
  | some data =>
      simp only [cached, Prod.mk.injEq] at admitted
      exact .inl ⟨data, rfl, admitted.2.symm, admitted.1.symm⟩
  | none =>
      cases joined : store.inflight.lookup key with
      | none =>
          simp only [cached, joined, Prod.mk.injEq] at admitted
          exact .inr (.inl ⟨rfl, rfl, admitted.2.symm, admitted.1.symm⟩)
      | some ref =>
          simp only [cached, joined, Prod.mk.injEq] at admitted
          exact .inr (.inr ⟨ref, rfl, rfl, admitted.2.symm, admitted.1.symm⟩)

/-! ## Counter laws -/

def cachedLength (store : RangeStore Error) : ℕ :=
  (store.cache.entries.map fun entry => entry.2.length).sum

/-- The counter laws which every lock section preserves. -/
structure Counted (store : RangeStore Error) : Prop where
  requests : store.clientRequests =
    store.cacheHits + store.inflightHits + store.remoteRequests
  remote : store.remoteRequests =
    store.cache.entries.length + store.inflight.entries.length + store.remoteErrors
  cached : store.cacheBytes = store.cachedLength
  fetched : store.bytesFromRemote = store.cachedLength
  served : store.bytesFromRemote ≤ store.bytesServed

theorem counted_init (remoteUrl : String) : (init remoteUrl : RangeStore Error).Counted := by
  constructor <;> rfl

theorem cachedLength_complete {store : RangeStore Error} {key : Key}
    (missing : key ∉ store.cache) (ref : ℕ) (data : Bytes) (fetchNs : ℕ) :
    (store.complete key ref data fetchNs).cachedLength = store.cachedLength + data.length := by
  simp only [cachedLength, complete, AList.entries_insert_of_notMem missing, List.map_cons,
    List.sum_cons]
  exact Nat.add_comm _ _

/-- Popping a present key shortens `inflight` by one entry. -/
theorem inflight_erase_length {store : RangeStore Error} {key : Key}
    (present : key ∈ store.inflight) :
    (store.inflight.erase key).entries.length + 1 = store.inflight.entries.length := by
  have member : key ∈ store.inflight.keys := AList.mem_keys.mp present
  have keys_length : ∀ entries : AList fun _ : Key => ℕ,
      entries.keys.length = entries.entries.length := fun entries => by
    simp [AList.keys, List.keys]
  rw [← keys_length, ← keys_length, AList.keys_erase]
  exact @List.length_erase_add_one _ instBEqOfDecidableEq _ key _ member

theorem counted_enter {store after : RangeStore Error} {key : Key} {admission : Admission}
    (counted : store.Counted) (admitted : store.enter key = (after, admission)) :
    after.Counted := by
  obtain ⟨requests, remote, cached, fetched, served⟩ := counted
  rcases enter_cases admitted with
    ⟨data, _, _, rfl⟩ | ⟨_, unowned, _, rfl⟩ | ⟨ref, _, _, _, rfl⟩
  · refine ⟨?_, remote, cached, fetched, served.trans (Nat.le_add_right _ _)⟩
    show store.clientRequests + 1 =
      store.cacheHits + 1 + store.inflightHits + store.remoteRequests
    omega
  · refine ⟨?_, ?_, cached, fetched, served⟩
    · show store.clientRequests + 1 =
        store.cacheHits + store.inflightHits + (store.remoteRequests + 1)
      omega
    · have absent : key ∉ store.inflight := AList.lookup_eq_none.mp unowned
      simp only [AList.entries_insert_of_notMem absent, List.length_cons]
      omega
  · refine ⟨?_, remote, cached, fetched, served⟩
    show store.clientRequests + 1 =
      store.cacheHits + (store.inflightHits + 1) + store.remoteRequests
    omega

theorem counted_complete {store : RangeStore Error} {key : Key} (counted : store.Counted)
    (owned : key ∈ store.inflight) (missing : key ∉ store.cache)
    (ref : ℕ) (data : Bytes) (fetchNs : ℕ) :
    (store.complete key ref data fetchNs).Counted := by
  obtain ⟨requests, remote, cached, fetched, served⟩ := counted
  have popped := inflight_erase_length owned
  refine ⟨requests, ?_, ?_, ?_, Nat.add_le_add_right served _⟩
  · simp only [complete, AList.entries_insert_of_notMem missing, List.length_cons]
    omega
  · rw [cachedLength_complete missing, ← cached]
    rfl
  · rw [cachedLength_complete missing, ← fetched]
    rfl

theorem counted_abandon {store : RangeStore Error} {key : Key} (counted : store.Counted)
    (owned : key ∈ store.inflight) (ref : ℕ) (error : Error) :
    (store.abandon key ref error).Counted := by
  obtain ⟨requests, remote, cached, fetched, served⟩ := counted
  have popped := inflight_erase_length owned
  refine ⟨requests, ?_, cached, fetched, served⟩
  simp only [abandon]
  omega

theorem counted_serveWaiter {store : RangeStore Error} (counted : store.Counted) (data : Bytes) :
    (store.serveWaiter data).Counted :=
  ⟨counted.requests, counted.remote, counted.cached, counted.fetched,
    counted.served.trans (Nat.le_add_right _ _)⟩

theorem remoteRequests_le {store : RangeStore Error} (counted : store.Counted) :
    store.remoteRequests ≤ store.clientRequests := by
  have := counted.requests
  omega

end RangeStore

/-- A saving ratio lies in the unit interval when its part does not exceed its total. -/
theorem saving_mem_unit {part total : ℕ} (bounded : part ≤ total) :
    0 ≤ (if total ≠ 0 then 1 - (part : ℚ) / total else 0) ∧
      (if total ≠ 0 then 1 - (part : ℚ) / total else 0) ≤ 1 := by
  by_cases empty : total = 0
  · simp [empty]
  · have positive : (0 : ℚ) < total := by exact_mod_cast Nat.pos_of_ne_zero empty
    have ratio_le : (part : ℚ) / total ≤ 1 := by
      rw [div_le_one positive]
      exact_mod_cast bounded
    have ratio_nonneg : 0 ≤ (part : ℚ) / total := by positivity
    simp only [ne_eq, empty, not_false_eq_true, if_true]
    constructor <;> linarith

/-! ## Ownership of keys -/

/-- The thread is between its admission as owner of the key and its completion section. -/
def Control.Owns : Control Error → Key → ℕ → Prop
  | .inside call _ (.fetching ref'), key, ref => call.key = key ∧ ref' = ref
  | .inside call _ (.fetched ref' _ _), key, ref => call.key = key ∧ ref' = ref
  | _, _, _ => False

theorem owns_fetching {control : Control Error} {call : Call} {admission : Admission} {ref : ℕ}
    (inside : control = .inside call admission (.fetching ref)) : control.Owns call.key ref := by
  subst inside
  exact ⟨rfl, rfl⟩

theorem owns_fetched {control : Control Error} {call : Call} {admission : Admission} {ref : ℕ}
    {result : Except Error Bytes} {fetchNs : ℕ}
    (inside : control = .inside call admission (.fetched ref result fetchNs)) :
    control.Owns call.key ref := by
  subst inside
  exact ⟨rfl, rfl⟩

/-- Every key of `inflight` has one owner, and no cached key is being fetched. -/
structure Owned (state : State Thread Error) : Prop where
  inflight_iff : ∀ key ref, state.store.inflight.lookup key = some ref ↔
    ∃ thread, (state.control thread).Owns key ref
  unique : ∀ thread other key ref ref', (state.control thread).Owns key ref →
    (state.control other).Owns key ref' → thread = other
  disjoint : ∀ key, key ∈ state.store.inflight → key ∉ state.store.cache

theorem owned_init (remoteUrl : String) :
    Owned (⟨.init remoteUrl, fun _ => .idle⟩ : State Thread Error) := by
  constructor <;> simp [RangeStore.init, Control.Owns]

/-- Ownership only reads the two maps and the owners. -/
theorem Owned.congr {before after : State Thread Error} (owned : Owned before)
    (cache : after.store.cache = before.store.cache)
    (inflight : after.store.inflight = before.store.inflight)
    (owns : ∀ thread key ref,
      (after.control thread).Owns key ref ↔ (before.control thread).Owns key ref) :
    Owned after where
  inflight_iff key ref := by
    simp only [inflight, owns, owned.inflight_iff]
  unique thread other key ref ref' first second :=
    owned.unique thread other key ref ref' ((owns _ _ _).mp first) ((owns _ _ _).mp second)
  disjoint key member := by
    rw [inflight] at member
    rw [cache]
    exact owned.disjoint key member

/-- The maps as an owner finds them at its completion section. -/
theorem Owned.maps {state : State Thread Error} (owned : Owned state) {thread : Thread}
    {key : Key} {ref : ℕ} (owns : (state.control thread).Owns key ref) :
    key ∈ state.store.inflight ∧ key ∉ state.store.cache := by
  have found := (owned.inflight_iff key ref).mpr ⟨thread, owns⟩
  have member : key ∈ state.store.inflight := AList.lookup_isSome.mp (by simp [found])
  exact ⟨member, owned.disjoint key member⟩

section Steps

variable [DecidableEq Thread]

@[simp]
theorem move_store (state : State Thread Error) (store : RangeStore Error) (thread : Thread)
    (control : Control Error) : (state.move store thread control).store = store := rfl

@[simp]
theorem move_control_self (state : State Thread Error) (store : RangeStore Error)
    (thread : Thread) (control : Control Error) :
    (state.move store thread control).control thread = control := by
  simp [State.move]

@[simp]
theorem move_control_of_ne (state : State Thread Error) (store : RangeStore Error)
    {thread other : Thread} (control : Control Error) (different : other ≠ thread) :
    (state.move store thread control).control other = state.control other := by
  simp [State.move, different]

/-- A move which keeps the acting thread's ownership keeps everybody's. -/
theorem owns_move {state : State Thread Error} {store : RangeStore Error} {thread : Thread}
    {control : Control Error}
    (same : ∀ key ref, control.Owns key ref ↔ (state.control thread).Owns key ref)
    (other : Thread) (key : Key) (ref : ℕ) :
    ((state.move store thread control).control other).Owns key ref ↔
      (state.control other).Owns key ref := by
  by_cases acting : other = thread
  · subst other
    simpa using same key ref
  · simp [acting]

/-- Admitting an owner of a key in neither map. -/
theorem owned_acquire {state : State Thread Error} (owned : Owned state) {thread : Thread}
    {control : Control Error} {store : RangeStore Error} {key : Key} {ref : ℕ}
    (unheld : ∀ key ref, ¬ (state.control thread).Owns key ref)
    (owns : ∀ key' ref', control.Owns key' ref' ↔ key = key' ∧ ref = ref')
    (missing : key ∉ state.store.cache) (unowned : key ∉ state.store.inflight)
    (cache : store.cache = state.store.cache)
    (inflight : store.inflight = state.store.inflight.insert key ref) :
    Owned (state.move store thread control) := by
  have nobody : ∀ other ref, ¬ (state.control other).Owns key ref := fun other ref held =>
    unowned (owned.maps held).1
  refine ⟨fun key' ref' => ?_, fun first second key' ref₁ ref₂ owns₁ owns₂ => ?_,
    fun key' member => ?_⟩
  · rw [move_store, inflight]
    by_cases same : key' = key
    · subst key'
      simp only [AList.lookup_insert, Option.some.injEq]
      constructor
      · rintro rfl
        exact ⟨thread, by simp [owns]⟩
      · rintro ⟨other, held⟩
        by_cases acting : other = thread
        · subst other
          simpa [owns] using held
        · rw [move_control_of_ne _ _ _ acting] at held
          exact (nobody other ref' held).elim
    · rw [AList.lookup_insert_ne same, owned.inflight_iff]
      refine exists_congr fun other => ?_
      by_cases acting : other = thread
      · subst other
        simp [owns, unheld, Ne.symm same]
      · rw [move_control_of_ne _ _ _ acting]
  · by_cases acting₁ : first = thread <;> by_cases acting₂ : second = thread
    · rw [acting₁, acting₂]
    · subst first
      rw [move_control_self, owns] at owns₁
      rw [move_control_of_ne _ _ _ acting₂, ← owns₁.1] at owns₂
      exact (nobody second ref₂ owns₂).elim
    · subst second
      rw [move_control_self, owns] at owns₂
      rw [move_control_of_ne _ _ _ acting₁, ← owns₂.1] at owns₁
      exact (nobody first ref₁ owns₁).elim
    · rw [move_control_of_ne _ _ _ acting₁] at owns₁
      rw [move_control_of_ne _ _ _ acting₂] at owns₂
      exact owned.unique first second key' ref₁ ref₂ owns₁ owns₂
  · rw [move_store, cache]
    rw [move_store, inflight, AList.mem_insert] at member
    rcases member with rfl | old
    · exact missing
    · exact owned.disjoint key' old

/-- A completion section gives the key up; only its own key may enter the cache. -/
theorem owned_release {state : State Thread Error} (owned : Owned state) {thread : Thread}
    {control : Control Error} {store : RangeStore Error} {key : Key} {ref : ℕ}
    (held : (state.control thread).Owns key ref)
    (only : ∀ key' ref', (state.control thread).Owns key' ref' → key' = key)
    (released : ∀ key ref, ¬ control.Owns key ref)
    (cache : ∀ key', key' ∈ store.cache → key' ∈ state.store.cache ∨ key' = key)
    (inflight : store.inflight = state.store.inflight.erase key) :
    Owned (state.move store thread control) := by
  refine ⟨fun key' ref' => ?_, fun first second key' ref₁ ref₂ owns₁ owns₂ => ?_,
    fun key' member stored => ?_⟩
  · rw [move_store, inflight]
    by_cases same : key' = key
    · subst key'
      simp only [AList.lookup_erase, false_iff, reduceCtorEq]
      rintro ⟨other, owns⟩
      by_cases acting : other = thread
      · subst other
        rw [move_control_self] at owns
        exact released _ _ owns
      · rw [move_control_of_ne _ _ _ acting] at owns
        exact acting (owned.unique other thread key ref' ref owns held)
    · rw [AList.lookup_erase_ne same, owned.inflight_iff]
      refine exists_congr fun other => ?_
      by_cases acting : other = thread
      · subst other
        rw [move_control_self]
        exact ⟨fun owns => (same (only _ _ owns)).elim, fun owns => (released _ _ owns).elim⟩
      · rw [move_control_of_ne _ _ _ acting]
  · by_cases acting₁ : first = thread
    · subst first
      rw [move_control_self] at owns₁
      exact (released _ _ owns₁).elim
    · by_cases acting₂ : second = thread
      · subst second
        rw [move_control_self] at owns₂
        exact (released _ _ owns₂).elim
      · rw [move_control_of_ne _ _ _ acting₁] at owns₁
        rw [move_control_of_ne _ _ _ acting₂] at owns₂
        exact owned.unique first second key' ref₁ ref₂ owns₁ owns₂
  · rw [move_store, inflight, AList.mem_erase] at member
    rcases cache key' stored with old | rfl
    · exact owned.disjoint key' member.2 old
    · exact member.1 rfl

/-- The inductive invariant behind the accounting laws. -/
structure Accounted (state : State Thread Error) : Prop where
  owned : Owned state
  counted : state.store.Counted

theorem accounted_step {before after : State Thread Error} {label : Label Thread Error}
    (accounted : Accounted before) (step : Step before label after) : Accounted after := by
  obtain ⟨owned, counted⟩ := accounted
  cases step with
  | @enter thread call store admission idle numbered ordered admitted =>
      refine ⟨?_, RangeStore.counted_enter counted admitted⟩
      rcases RangeStore.enter_cases admitted with
        ⟨data, _, rfl, rfl⟩ | ⟨missing, unowned, rfl, rfl⟩ | ⟨ref, _, _, rfl, rfl⟩
      · exact owned.congr rfl rfl (owns_move (by simp [idle, Control.Owns, Admission.phase]))
      · exact owned_acquire owned (by simp [idle, Control.Owns])
          (by simp [Control.Owns, Admission.phase]) (AList.lookup_eq_none.mp missing)
          (AList.lookup_eq_none.mp unowned) rfl rfl
      · exact owned.congr rfl rfl (owns_move (by simp [idle, Control.Owns, Admission.phase]))
  | @complete thread call admission ref data fetchNs inside =>
      have held := owns_fetched inside
      obtain ⟨present, missing⟩ := owned.maps held
      refine ⟨?_, RangeStore.counted_complete counted present missing ref data fetchNs⟩
      refine owned_release owned held ?_ (by simp [Control.Owns]) ?_ rfl
      · intro key' ref' owns
        simp only [inside, Control.Owns] at owns
        exact owns.1.symm
      · intro key' stored
        exact ((AList.mem_insert _).mp stored).symm
  | @abandon thread call admission ref error fetchNs inside =>
      have held := owns_fetched inside
      refine ⟨?_, RangeStore.counted_abandon counted (owned.maps held).1 ref error⟩
      refine owned_release owned held ?_ (by simp [Control.Owns]) (fun _ => .inl) rfl
      intro key' ref' owns
      simp only [inside, Control.Owns] at owns
      exact owns.1.symm
  | serve inside _ =>
      exact ⟨owned.congr rfl rfl (owns_move (by simp [inside, Control.Owns])),
        RangeStore.counted_serveWaiter counted _⟩
  | signal inside =>
      exact ⟨owned.congr rfl rfl (owns_move (by simp [inside, Control.Owns])),
        ⟨counted.requests, counted.remote, counted.cached, counted.fetched, counted.served⟩⟩
  | fetchData inside _ | fetchError inside | wake inside _ | readError inside _
  | readNoError inside _ | readNoData inside _ | readData inside _ | returnData inside _
  | leave inside =>
      exact ⟨owned.congr rfl rfl (owns_move (by simp [inside, Control.Owns])), counted⟩

theorem accounted_reachable {state : State Thread Error}
    (reachable : (rangeStoreSystem Thread Error).Reachable state) : Accounted state :=
  reachable.invariant Accounted
    (by
      rintro _ ⟨remoteUrl, rfl⟩
      exact ⟨owned_init remoteUrl, RangeStore.counted_init remoteUrl⟩)
    accounted_step

/-- Nothing leaves the cache. -/
theorem cache_step {before after : State Thread Error} {label : Label Thread Error} {key : Key}
    (step : Step before label after) (stored : key ∈ before.store.cache) :
    key ∈ after.store.cache := by
  cases step with
  | enter idle numbered ordered admitted =>
      rcases RangeStore.enter_cases admitted with
        ⟨_, _, _, rfl⟩ | ⟨_, _, _, rfl⟩ | ⟨_, _, _, _, rfl⟩ <;> exact stored
  | complete inside => exact (AList.mem_insert _).mpr (.inr stored)
  | _ => exact stored

/-- A label which starts or ends a fetch of the key. -/
def Label.Fetches : Label Thread Error → Key → Prop
  | .enter _ call (.owner _), key => call.key = key
  | .fetchEnd _ call _ _, key => call.key = key
  | _, _ => False

/-- No step fetches a cached key. -/
theorem not_fetches_of_cached {before after : State Thread Error} {label : Label Thread Error}
    {key : Key} (accounted : Accounted before) (stored : key ∈ before.store.cache)
    (step : Step before label after) : ¬ label.Fetches key := by
  have unowned : ∀ thread ref, ¬ (before.control thread).Owns key ref := fun thread ref held =>
    (accounted.owned.maps held).2 stored
  cases step with
  | enter idle numbered ordered admitted =>
      rcases RangeStore.enter_cases admitted with
        ⟨_, _, rfl, _⟩ | ⟨missing, _, rfl, _⟩ | ⟨_, _, _, rfl, _⟩
      · exact id
      · rintro rfl
        exact AList.lookup_eq_none.mp missing stored
      · exact id
  | fetchData inside _ | fetchError inside =>
      rintro rfl
      exact unowned _ _ (owns_fetching inside)
  | _ => exact id

/-- After a success section its key is never fetched again. -/
theorem not_fetches_after_complete {front back : List (Label Thread Error)}
    {state : State Thread Error} {thread : Thread} {call : Call} {ref : ℕ}
    (run : (rangeStoreSystem Thread Error).Run (front ++ .complete thread call ref :: back) state) :
    ∀ label ∈ back, ¬ label.Fetches call.key := by
  obtain ⟨middle, first, rest⟩ := run.split
  cases rest with
  | @cons _ next _ _ _ step rest =>
      have accounted : Accounted next :=
        accounted_step (accounted_reachable first.reachable) step
      have stored : call.key ∈ next.store.cache := by
        cases step with
        | complete inside => exact (AList.mem_insert _).mpr (.inl rfl)
      exact rest.forall_label (fun state => Accounted state ∧ call.key ∈ state.store.cache)
        (fun inv step => ⟨accounted_step inv.1 step, cache_step step inv.2⟩)
        (fun inv step => not_fetches_of_cached inv.1 inv.2 step) ⟨accounted, stored⟩

/-- The accounting laws of `get_range` at the end of a run. -/
structure AccountingLaws (trace : List (Label Thread Error)) (state : State Thread Error) :
    Prop where
  /-- A key is in `inflight` exactly while one thread owns it. -/
  inflight_iff : ∀ key, key ∈ state.store.inflight ↔
    ∃! thread, ∃ ref, (state.control thread).Owns key ref
  disjoint : ∀ key, ¬ (key ∈ state.store.cache ∧ key ∈ state.store.inflight)
  /-- Every request is a hit, a join or a fetch. -/
  requests : state.store.clientRequests =
    state.store.cacheHits + state.store.inflightHits + state.store.remoteRequests
  /-- Every fetch is cached, running or failed. -/
  remote : state.store.remoteRequests =
    state.store.cache.entries.length + state.store.inflight.entries.length +
      state.store.remoteErrors
  /-- A key whose fetch succeeded is never fetched again. -/
  fetched_once : ∀ front thread call ref back, trace = front ++ .complete thread call ref :: back →
    ∀ label ∈ back, ¬ label.Fetches call.key
  /-- `cache_bytes` is the total length of the cached values. -/
  cache_bytes : state.store.cacheBytes = state.store.cachedLength
  /-- `bytes_from_remote` is the total length of the cached values. -/
  bytes_from_remote : state.store.bytesFromRemote = state.store.cachedLength
  /-- Fetched bytes have been served. -/
  bytes_served : state.store.bytesFromRemote ≤ state.store.bytesServed
  /-- Fetches have been requested. -/
  remote_requests : state.store.remoteRequests ≤ state.store.clientRequests
  bandwidth_saving : 0 ≤ state.store.stats.bandwidthSaving ∧ state.store.stats.bandwidthSaving ≤ 1
  dedup_ratio : 0 ≤ state.store.stats.dedupRatio ∧ state.store.stats.dedupRatio ≤ 1

/-- Every interleaving of `get_range` calls obeys the accounting laws. -/
theorem getRange_accounting {trace : List (Label Thread Error)} {state : State Thread Error}
    (run : (rangeStoreSystem Thread Error).Run trace state) : AccountingLaws trace state := by
  obtain ⟨owned, counted⟩ := accounted_reachable run.reachable
  have remote_le := RangeStore.remoteRequests_le counted
  refine ⟨fun key => ⟨fun member => ?_, ?_⟩, fun key both => owned.disjoint key both.2 both.1,
    counted.requests, counted.remote, ?_, counted.cached, counted.fetched, counted.served,
    remote_le, saving_mem_unit counted.served, saving_mem_unit remote_le⟩
  · obtain ⟨ref, found⟩ := Option.isSome_iff_exists.mp (AList.lookup_isSome.mpr member)
    obtain ⟨thread, held⟩ := (owned.inflight_iff key ref).mp found
    refine ⟨thread, ⟨ref, held⟩, ?_⟩
    rintro other ⟨ref', held'⟩
    exact owned.unique other thread key ref' ref held' held
  · rintro ⟨thread, ⟨ref, held⟩, _⟩
    exact (owned.maps held).1
  · rintro front thread call ref back rfl
    exact not_fetches_after_complete run

/-- Thread `false` owns the range `0-1`, thread `true` joins it, the fetch succeeds. -/
def sharedFetch : List (Label Bool String) :=
  [.enter false ⟨1, 0, 1⟩ (.owner 0), .enter true ⟨2, 0, 1⟩ (.waiter 0),
    .fetchEnd false ⟨1, 0, 1⟩ 0 (.ok [7, 9]), .complete false ⟨1, 0, 1⟩ 0]

theorem sharedFetch_run : ∃ state, (rangeStoreSystem Bool String).Run sharedFetch state ∧
    state.store.stats.bytesFromRemote = 2 ∧ state.store.stats.inflightHits = 1 := by
  refine ⟨_, ⟨_, ⟨"http://upstream/memory", rfl⟩,
    .cons (.enter rfl rfl (by decide) rfl) (.cons (.enter rfl rfl (by decide) rfl)
      (.cons (@Step.fetchData _ _ _ _ _ _ _ _ _ 5 rfl rfl) (.cons (.complete rfl) (.nil _))))⟩,
    rfl, rfl⟩

theorem getRange_accounting_sharedFetch :
    ∃ state, (rangeStoreSystem Bool String).Run sharedFetch state ∧
      AccountingLaws sharedFetch state := by
  obtain ⟨state, run, _⟩ := sharedFetch_run
  exact ⟨state, run, getRange_accounting run⟩

end Steps
end Proxy
end HermOS
