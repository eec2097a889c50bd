import HermOS.Library.TransitionSystem
import Mathlib.Data.List.AList
import Mathlib.Data.Rat.Defs

/-!
# The range store of the dedup proxy

`get_range` runs three kinds of callers through separate lock sections: a hit finishes inside its
admission section, an owner fetches outside the lock and completes in a success or a failure
section, a waiter blocks on the event of the `FetchState` it found in `inflight`.  The sections are
functions on `RangeStore`; `Step` interleaves them over arbitrarily many threads, with the unlocked
reads of a waiter as steps of their own.
-/

namespace HermOS
namespace Proxy

/-- A Python `bytes` object. -/
abbrev Bytes := List UInt8

/-- A cache key `(start, end - start + 1)`. -/
abbrev Key := ℤ × ℤ

/-- The key of the closed range from `start` to `stop`. -/
def rangeKey (start stop : ℤ) : Key := (start, stop - start + 1)

/-- The object through which an owner hands the end of its fetch to the waiters. -/
structure FetchState (Error : Type) where
  event : Bool := false
  data : Option Bytes := none
  error : Option Error := none

/-- `RangeStore`, with the `FetchState` objects it has allocated numbered in allocation order. -/
structure RangeStore (Error : Type) where
  /-- Upstream blob, reported by `stats`. -/
  remoteUrl : String
  cache : AList fun _ : Key => Bytes
  /-- Ranges being fetched, with the number of their `FetchState`. -/
  inflight : AList fun _ : Key => ℕ
  fetchStates : ℕ → FetchState Error
  allocated : ℕ
  /-- Calls admitted. -/
  clientRequests : ℕ
  /-- Owners admitted. -/
  remoteRequests : ℕ
  /-- Hits admitted. -/
  cacheHits : ℕ
  /-- Waiters admitted. -/
  inflightHits : ℕ
  bytesServed : ℕ
  bytesFromRemote : ℕ
  cacheBytes : ℕ
  remoteFetchNsTotal : ℕ
  remoteFetchNsMax : ℕ
  remoteErrors : ℕ

/-- How the admission section disposes of a call. -/
inductive Admission
  | hit (data : Bytes)
  /-- The caller fetches the range into a new `FetchState`. -/
  | owner (ref : ℕ)
  /-- The caller waits for the owner of an existing `FetchState`. -/
  | waiter (ref : ℕ)
  deriving DecidableEq

namespace RangeStore

variable {Error : Type}

def init (remoteUrl : String) : RangeStore Error where
  remoteUrl := remoteUrl
  cache := ∅
  inflight := ∅
  fetchStates := fun _ => {}
  allocated := 0
  clientRequests := 0
  remoteRequests := 0
  cacheHits := 0
  inflightHits := 0
  bytesServed := 0
  bytesFromRemote := 0
  cacheBytes := 0
  remoteFetchNsTotal := 0
  remoteFetchNsMax := 0
  remoteErrors := 0

/-- The admission section of `get_range`. -/
def enter (store : RangeStore Error) (key : Key) : RangeStore Error × Admission :=
  match store.cache.lookup key with
  | some data =>
      ({ store with
          clientRequests := store.clientRequests + 1
          cacheHits := store.cacheHits + 1
          bytesServed := store.bytesServed + data.length }, .hit data)
  | none =>
      match store.inflight.lookup key with
      | none =>
          ({ store with
              clientRequests := store.clientRequests + 1
              fetchStates := Function.update store.fetchStates store.allocated {}
              allocated := store.allocated + 1
              inflight := store.inflight.insert key store.allocated
              remoteRequests := store.remoteRequests + 1 }, .owner store.allocated)
      | some ref =>
          ({ store with
              clientRequests := store.clientRequests + 1
              inflightHits := store.inflightHits + 1 }, .waiter ref)

/-- The success section of an owner. -/
def complete (store : RangeStore Error) (key : Key) (ref : ℕ) (data : Bytes) (fetchNs : ℕ) :
    RangeStore Error :=
  { store with
    cache := store.cache.insert key data
    cacheBytes := store.cacheBytes + data.length
    bytesFromRemote := store.bytesFromRemote + data.length
    bytesServed := store.bytesServed + data.length
    remoteFetchNsTotal := store.remoteFetchNsTotal + fetchNs
    remoteFetchNsMax := max store.remoteFetchNsMax fetchNs
    fetchStates := Function.update store.fetchStates ref
      { store.fetchStates ref with data := some data }
    inflight := store.inflight.erase key }

/-- The failure section of an owner. -/
def abandon (store : RangeStore Error) (key : Key) (ref : ℕ) (error : Error) : RangeStore Error :=
  { store with
    remoteErrors := store.remoteErrors + 1
    fetchStates := Function.update store.fetchStates ref
      { store.fetchStates ref with error := some error }
    inflight := store.inflight.erase key }

def setEvent (store : RangeStore Error) (ref : ℕ) : RangeStore Error :=
  { store with
    fetchStates := Function.update store.fetchStates ref
      { store.fetchStates ref with event := true } }

/-- The wake-up section of a waiter. -/
def serveWaiter (store : RangeStore Error) (data : Bytes) : RangeStore Error :=
  { store with bytesServed := store.bytesServed + data.length }

/-- The dictionary which `stats` returns, with its ratios as exact rationals. -/
structure Stats where
  bandwidthSaving : ℚ
  bytesFromRemote : ℕ
  bytesServed : ℕ
  cacheBytes : ℕ
  cacheEntries : ℕ
  cacheHits : ℕ
  clientRequests : ℕ
  dedupRatio : ℚ
  inflight : ℕ
  inflightHits : ℕ
  remoteErrors : ℕ
  remoteFetchAvgMs : ℚ
  remoteFetchMaxMs : ℚ
  remoteRequests : ℕ
  remoteUrl : String

def stats (store : RangeStore Error) : Stats where
  bandwidthSaving :=
    if store.bytesServed ≠ 0 then 1 - (store.bytesFromRemote : ℚ) / store.bytesServed else 0
  bytesFromRemote := store.bytesFromRemote
  bytesServed := store.bytesServed
  cacheBytes := store.cacheBytes
  cacheEntries := store.cache.entries.length
  cacheHits := store.cacheHits
  clientRequests := store.clientRequests
  dedupRatio :=
    if store.clientRequests ≠ 0 then 1 - (store.remoteRequests : ℚ) / store.clientRequests else 0
  inflight := store.inflight.entries.length
  inflightHits := store.inflightHits
  remoteErrors := store.remoteErrors
  remoteFetchAvgMs :=
    if store.remoteRequests ≠ 0 then
      (store.remoteFetchNsTotal : ℚ) / store.remoteRequests / 1000000
    else 0
  remoteFetchMaxMs := (store.remoteFetchNsMax : ℚ) / 1000000
  remoteRequests := store.remoteRequests
  remoteUrl := store.remoteUrl

end RangeStore

/-- One call of `get_range`, numbered by the value its admission gives `client_requests`. -/
structure Call where
  /-- Value of `client_requests` after the admission. -/
  number : ℕ
  start : ℤ
  stop : ℤ
  deriving DecidableEq

def Call.key (call : Call) : Key := rangeKey call.start call.stop

/-- How a call of `get_range` ends. -/
inductive Outcome (Error : Type)
  | returned (data : Bytes)
  /-- It raises the exception of a fetch. -/
  | raised (error : Error)
  /-- It raises `RuntimeError("range fetch completed without data")`. -/
  | withoutData

/-- An owner ends its own call as its fetch ended. -/
def Outcome.ofFetch {Error : Type} : Except Error Bytes → Outcome Error
  | .ok data => .returned data
  | .error error => .raised error

/-- Program points of `get_range` outside its lock sections. -/
inductive Phase (Error : Type)
  | fetching (ref : ℕ)
  /-- An owner between `fetch_remote` and its completion section. -/
  | fetched (ref : ℕ) (result : Except Error Bytes) (fetchNs : ℕ)
  /-- An owner between its completion section and `event.set()`. -/
  | completed (ref : ℕ) (result : Except Error Bytes)
  | waiting (ref : ℕ)
  /-- A waiter before it reads `state.error`. -/
  | awake (ref : ℕ)
  /-- A waiter which found no error, before it tests `state.data`. -/
  | withoutError (ref : ℕ)
  /-- A waiter which found data, before its wake-up section. -/
  | withData (ref : ℕ)
  /-- A waiter after its wake-up section, before it reads the data it returns. -/
  | served (ref : ℕ)
  | leaving (outcome : Outcome Error)

/-- Control state of one client thread. -/
inductive Control (Error : Type)
  | idle
  /-- Inside a call which its admission section has disposed of. -/
  | inside (call : Call) (admission : Admission) (phase : Phase Error)

/-- The program point at which the admission section leaves a call. -/
def Admission.phase {Error : Type} : Admission → Phase Error
  | .hit data => .leaving (.returned data)
  | .owner ref => .fetching ref
  | .waiter ref => .waiting ref

/-- The store and all client threads. -/
structure State (Thread Error : Type) where
  store : RangeStore Error
  control : Thread → Control Error

/-- Observable events of a run. -/
inductive Label (Thread Error : Type)
  | enter (thread : Thread) (call : Call) (admission : Admission)
  | fetchEnd (thread : Thread) (call : Call) (ref : ℕ) (result : Except Error Bytes)
  /-- A success section. -/
  | complete (thread : Thread) (call : Call) (ref : ℕ)
  /-- A failure section. -/
  | abandon (thread : Thread) (call : Call) (ref : ℕ)
  | signal (thread : Thread) (ref : ℕ)
  | wait (thread : Thread)
  | leave (thread : Thread) (call : Call) (admission : Admission) (outcome : Outcome Error)

section Machine

variable {Thread Error : Type} [DecidableEq Thread]

/-- Replace the store and one thread's control state. -/
def State.move (state : State Thread Error) (store : RangeStore Error) (thread : Thread)
    (control : Control Error) : State Thread Error :=
  { store, control := Function.update state.control thread control }

/-- One lock section, unlocked read or unlocked write of one thread. -/
inductive Step : State Thread Error → Label Thread Error → State Thread Error → Prop
  | enter {state : State Thread Error} {thread : Thread} {call : Call}
      {store : RangeStore Error} {admission : Admission}
      (idle : state.control thread = .idle)
      (numbered : call.number = state.store.clientRequests + 1)
      (ordered : call.start ≤ call.stop)
      (admitted : state.store.enter call.key = (store, admission)) :
      Step state (.enter thread call admission)
        (state.move store thread (.inside call admission admission.phase))
  | fetchData {state : State Thread Error} {thread : Thread} {call : Call}
      {admission : Admission} {ref : ℕ} {data : Bytes} {fetchNs : ℕ}
      (inside : state.control thread = .inside call admission (.fetching ref))
      (requested : (data.length : ℤ) = call.key.2) :
      Step state (.fetchEnd thread call ref (.ok data))
        (state.move state.store thread
          (.inside call admission (.fetched ref (.ok data) fetchNs)))
  | fetchError {state : State Thread Error} {thread : Thread} {call : Call}
      {admission : Admission} {ref : ℕ} {error : Error} {fetchNs : ℕ}
      (inside : state.control thread = .inside call admission (.fetching ref)) :
      Step state (.fetchEnd thread call ref (.error error))
        (state.move state.store thread
          (.inside call admission (.fetched ref (.error error) fetchNs)))
  | complete {state : State Thread Error} {thread : Thread} {call : Call}
      {admission : Admission} {ref : ℕ} {data : Bytes} {fetchNs : ℕ}
      (inside : state.control thread = .inside call admission (.fetched ref (.ok data) fetchNs)) :
      Step state (.complete thread call ref)
        (state.move (state.store.complete call.key ref data fetchNs) thread
          (.inside call admission (.completed ref (.ok data))))
  | abandon {state : State Thread Error} {thread : Thread} {call : Call}
      {admission : Admission} {ref : ℕ} {error : Error} {fetchNs : ℕ}
      (inside : state.control thread =
        .inside call admission (.fetched ref (.error error) fetchNs)) :
      Step state (.abandon thread call ref)
        (state.move (state.store.abandon call.key ref error) thread
          (.inside call admission (.completed ref (.error error))))
  | signal {state : State Thread Error} {thread : Thread} {call : Call}
      {admission : Admission} {ref : ℕ} {result : Except Error Bytes}
      (inside : state.control thread = .inside call admission (.completed ref result)) :
      Step state (.signal thread ref)
        (state.move (state.store.setEvent ref) thread
          (.inside call admission (.leaving (.ofFetch result))))
  | wake {state : State Thread Error} {thread : Thread} {call : Call}
      {admission : Admission} {ref : ℕ}
      (inside : state.control thread = .inside call admission (.waiting ref))
      (set : (state.store.fetchStates ref).event = true) :
      Step state (.wait thread)
        (state.move state.store thread (.inside call admission (.awake ref)))
  | readError {state : State Thread Error} {thread : Thread} {call : Call}
      {admission : Admission} {ref : ℕ} {error : Error}
      (inside : state.control thread = .inside call admission (.awake ref))
      (found : (state.store.fetchStates ref).error = some error) :
      Step state (.wait thread)
        (state.move state.store thread (.inside call admission (.leaving (.raised error))))
  | readNoError {state : State Thread Error} {thread : Thread} {call : Call}
      {admission : Admission} {ref : ℕ}
      (inside : state.control thread = .inside call admission (.awake ref))
      (absent : (state.store.fetchStates ref).error = none) :
      Step state (.wait thread)
        (state.move state.store thread (.inside call admission (.withoutError ref)))
  | readNoData {state : State Thread Error} {thread : Thread} {call : Call}
      {admission : Admission} {ref : ℕ}
      (inside : state.control thread = .inside call admission (.withoutError ref))
      (absent : (state.store.fetchStates ref).data = none) :
      Step state (.wait thread)
        (state.move state.store thread (.inside call admission (.leaving .withoutData)))
  | readData {state : State Thread Error} {thread : Thread} {call : Call}
      {admission : Admission} {ref : ℕ} {data : Bytes}
      (inside : state.control thread = .inside call admission (.withoutError ref))
      (found : (state.store.fetchStates ref).data = some data) :
      Step state (.wait thread)
        (state.move state.store thread (.inside call admission (.withData ref)))
  | serve {state : State Thread Error} {thread : Thread} {call : Call}
      {admission : Admission} {ref : ℕ} {data : Bytes}
      (inside : state.control thread = .inside call admission (.withData ref))
      (found : (state.store.fetchStates ref).data = some data) :
      Step state (.wait thread)
        (state.move (state.store.serveWaiter data) thread (.inside call admission (.served ref)))
  | returnData {state : State Thread Error} {thread : Thread} {call : Call}
      {admission : Admission} {ref : ℕ} {data : Bytes}
      (inside : state.control thread = .inside call admission (.served ref))
      (found : (state.store.fetchStates ref).data = some data) :
      Step state (.wait thread)
        (state.move state.store thread (.inside call admission (.leaving (.returned data))))
  | leave {state : State Thread Error} {thread : Thread} {call : Call}
      {admission : Admission} {outcome : Outcome Error}
      (inside : state.control thread = .inside call admission (.leaving outcome)) :
      Step state (.leave thread call admission outcome) (state.move state.store thread .idle)

def rangeStoreSystem (Thread Error : Type) [DecidableEq Thread] :
    TransitionSystem (State Thread Error) (Label Thread Error) where
  Initial state := ∃ remoteUrl, state = ⟨.init remoteUrl, fun _ => .idle⟩
  Step := Step

end Machine

end Proxy
end HermOS
