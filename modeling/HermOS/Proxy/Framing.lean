import HermOS.Proxy.RangeExchange
import HermOS.Proxy.RangeStore

/-!
# A keep-alive connection between the range client and the proxy

The client and a handler of the proxy share two byte channels.  A reader sees any prefix of the
bytes which its peer has written, and waits when they do not suffice; a result which it draws from
such a prefix must stand whatever follows.  One call of `fetch_range` is four steps.
-/

namespace HermOS
namespace Proxy

open Http Python Reading
open Uffd (HttpUrl rangeEnd)

/-! ### The two parties -/

structure Fetch where
  offset : UInt64
  len : UInt64
  deriving DecidableEq

/-- The bytes of a call, first and last. -/
def Fetch.range (fetch : Fetch) : ℤ × ℤ :=
  (fetch.offset.toNat, fetch.offset.toNat + fetch.len.toNat - 1)

/-- At least one byte, and none beyond the last offset. -/
def Fetch.Valid (fetch : Fetch) : Prop :=
  1 ≤ fetch.len.toNat ∧ fetch.offset.toNat + fetch.len.toNat ≤ 2 ^ 64

instance decidableValid (fetch : Fetch) : Decidable fetch.Valid :=
  inferInstanceAs (Decidable (_ ∧ _))

/-- Where the client is in `fetch_range`. -/
inductive ClientPhase
  | between
  /-- It has written its request and reads the response. -/
  | reading (fetch : Fetch)
  /-- It drops the connection on an error, and tries again with another one. -/
  | dropped (fetch : Fetch)
  deriving DecidableEq

/-- Where the handler is in `handle`. -/
inductive HandlerPhase
  | reading
  | fetching (start stop : ℤ) (close : Bool)
  | returned
  deriving DecidableEq

structure Connection where
  /-- Calls still to be made. -/
  calls : List Fetch
  client : ClientPhase
  handler : HandlerPhase
  /-- Bytes on their way to the handler. -/
  requests : Bytes
  /-- Bytes on their way to the client. -/
  responses : Bytes

inductive Event
  | call (fetch : Fetch)
  /-- The handler reads a request and calls `get_range`. -/
  | ask (start stop : ℤ)
  /-- The handler reads a request and answers it without the store. -/
  | answered
  /-- The handler returns without an answer. -/
  | hungUp
  /-- `get_range` returns or raises, and the handler writes a response. -/
  | got (start stop : ℤ) (outcome : Except Text Bytes)
  | returned (result : Except Uffd.IoError Bytes)

/-- The handler behind an answer. -/
def HandlerPhase.after (goesOn : Bool) : HandlerPhase :=
  if goesOn then .reading else .returned

/-- The client behind `fetch_range_once`. -/
def ClientPhase.after (fetch : Fetch) : Except Uffd.IoError Bytes → ClientPhase
  | .ok _ => .between
  | .error _ => .dropped fetch

variable {intError : Text → Text} {url : HttpUrl}

inductive Connection.Step (intError : Text → Text) (url : HttpUrl) :
    Connection → Event → Connection → Prop
  | call {fetch calls handler requests responses} :
      Connection.Step intError url ⟨fetch :: calls, .between, handler, requests, responses⟩
        (.call fetch)
        ⟨calls, .reading fetch, handler, requests ++ url.request fetch.offset fetch.len, responses⟩
  | ask {calls client requests responses seen later request rest stats start stop close}
      (arrived : requests = seen ++ later)
      (read : readRequest ⟨seen, .pending⟩ = some (.ok (some request), rest))
      (asks : answer intError stats request = .fetch start stop close) :
      Connection.Step intError url ⟨calls, client, .reading, requests, responses⟩
        (.ask start stop)
        ⟨calls, client, .fetching start stop close, rest.bytes ++ later, responses⟩
  | answered {calls client requests responses seen later request rest stats bytes goesOn}
      (arrived : requests = seen ++ later)
      (read : readRequest ⟨seen, .pending⟩ = some (.ok (some request), rest))
      (replies : answer intError stats request = .reply bytes goesOn) :
      Connection.Step intError url ⟨calls, client, .reading, requests, responses⟩
        .answered
        ⟨calls, client, .after goesOn, rest.bytes ++ later, responses ++ bytes⟩
  | hungUp {calls client requests responses seen later result rest}
      (arrived : requests = seen ++ later)
      (read : readRequest ⟨seen, .pending⟩ = some (result, rest))
      (unanswered : ∀ request, result ≠ .ok (some request)) :
      Connection.Step intError url ⟨calls, client, .reading, requests, responses⟩
        .hungUp
        ⟨calls, client, .returned, rest.bytes ++ later, responses⟩
  | got {calls client requests responses start stop close outcome bytes goesOn}
      (replies : answerRange start stop close outcome = .reply bytes goesOn) :
      Connection.Step intError url
        ⟨calls, client, .fetching start stop close, requests, responses⟩
        (.got start stop outcome)
        ⟨calls, client, .after goesOn, requests, responses ++ bytes⟩
  | returned {calls fetch handler requests responses seen later result rest}
      (arrived : responses = seen ++ later)
      (read : Uffd.readResponse fetch.len ⟨seen, .pending⟩ = some (result, rest)) :
      Connection.Step intError url ⟨calls, .reading fetch, handler, requests, responses⟩
        (.returned result)
        ⟨calls, .after fetch result, handler, requests, rest.bytes ++ later⟩

/-- The runs of a connection on which some calls are made. -/
def connectionSystem (intError : Text → Text) (url : HttpUrl) (calls : List Fetch) :
    TransitionSystem Connection Event where
  Initial state := state = ⟨calls, .between, .reading, [], []⟩
  Step := Connection.Step intError url

/-- `get_range` returns as many bytes as it is asked for. -/
def Event.Served : Event → Prop
  | .got start stop outcome => ∃ data, outcome = .ok data ∧ (data.length : ℤ) = stop - start + 1
  | _ => True

/-- The runs in which `get_range` succeeds. -/
def servedSystem (intError : Text → Text) (url : HttpUrl) (calls : List Fetch) :
    TransitionSystem Connection Event :=
  (connectionSystem intError url calls).restrict fun _ event => event.Served

/-! ### What a run shows -/

/-- The range of a request which the handler has read. -/
def Event.asked? : Event → Option (ℤ × ℤ)
  | .ask start stop => some (start, stop)
  | _ => none

/-- A range with the bytes which the store gave for it. -/
def Event.given? : Event → Option ((ℤ × ℤ) × Bytes)
  | .got start stop (.ok data) => some ((start, stop), data)
  | _ => none

/-- The result of a call. -/
def Event.returned? : Event → Option (Except Uffd.IoError Bytes)
  | .returned result => some result
  | _ => none

/-- No call is left or going on. -/
def Connection.Finished (state : Connection) : Prop :=
  state.calls = [] ∧ state.client = .between

/-- The framing of a run on which `calls` are made. -/
structure Framing (intError : Text → Text) (url : HttpUrl) (calls : List Fetch)
    (trace : List Event) (state : Connection) : Prop where
  /-- The handler reads the ranges of the calls, in their order. -/
  parsed : trace.filterMap Event.asked? <+: calls.map Fetch.range
  /-- The store gives bytes for the ranges which the handler reads. -/
  fetched : (trace.filterMap Event.given?).map Prod.fst <+: trace.filterMap Event.asked?
  /-- The calls return the bytes which the store gave, and none fails. -/
  returned : trace.filterMap Event.returned? <+:
    (trace.filterMap Event.given?).map fun given => .ok given.2
  /-- At the end every call has been served. -/
  complete : state.Finished →
    (trace.filterMap Event.given?).map Prod.fst = calls.map Fetch.range ∧
      trace.filterMap Event.returned? =
        (trace.filterMap Event.given?).map fun given => .ok given.2
  /-- A run does not stop before the end. -/
  progress : state.Finished ∨ (servedSystem intError url calls).Enabled state
  /-- Every call ends after four steps. -/
  bounded : trace.length ≤ 4 * calls.length

/-! ### The stages of a call -/

/-- The events of a call and the data which it returns. -/
def exchange (fetch : Fetch) (data : Bytes) : List Event :=
  [.call fetch, .ask fetch.range.1 fetch.range.2, .got fetch.range.1 fetch.range.2 (.ok data),
    .returned (.ok data)]

/-- What has happened of the call which is going on, and the calls from it on. -/
inductive Stage (url : HttpUrl) : List Event → List Fetch → Connection → Prop
  | between {calls} : Stage url [] calls ⟨calls, .between, .reading, [], []⟩
  | called {fetch calls} : Stage url ((exchange fetch []).take 1) (fetch :: calls)
      ⟨calls, .reading fetch, .reading, url.request fetch.offset fetch.len, []⟩
  | asked {fetch calls} : Stage url ((exchange fetch []).take 2) (fetch :: calls)
      ⟨calls, .reading fetch, .fetching fetch.range.1 fetch.range.2 false, [], []⟩
  | got {fetch calls data} : data.length = fetch.len.toNat →
      Stage url ((exchange fetch data).take 3) (fetch :: calls)
        ⟨calls, .reading fetch, .reading, [], rangeResponse fetch.range.1 fetch.range.2 data false⟩

/-- A run is a sequence of whole calls, and the beginning of another one. -/
def Sequential (url : HttpUrl) (calls : List Fetch) (trace : List Event) (state : Connection) :
    Prop :=
  ∃ (past : List (Fetch × Bytes)) (begun : List Event) (rest : List Fetch),
    calls = past.map Prod.fst ++ rest ∧
      trace = past.flatMap (fun call => exchange call.1 call.2) ++ begun ∧
        Stage url begun rest state

section Steps

variable {intError : Text → Text} {url : HttpUrl} {fetch : Fetch} {calls : List Fetch}

theorem rangeEnd_toNat (valid : fetch.Valid) :
    (rangeEnd fetch.offset fetch.len).toNat = fetch.offset.toNat + fetch.len.toNat - 1 := by
  obtain ⟨positive, inside⟩ := valid
  have one : (1 : UInt64).toNat = 1 := rfl
  rw [rangeEnd, UInt64.toNat_sub, UInt64.toNat_add, one]
  omega

theorem range_snd (valid : fetch.Valid) :
    fetch.range.2 = ((rangeEnd fetch.offset fetch.len).toNat : ℤ) := by
  have positive := valid.1
  rw [rangeEnd_toNat valid, Fetch.range]
  omega

theorem readRequest_nil : readRequest ⟨[], .pending⟩ = none := by
  have waits : foldLines RequestError.connection (some lineLimit) requestLine () ⟨[], .pending⟩ =
      none := by
    rw [foldLines]
    rfl
  rw [readRequest, bind_none waits]

theorem stable_readResponse {len : UInt64} : Stable (Uffd.readResponse len) := by
  apply Stable.bind stable_readLine
  intro line
  apply Stable.bind (Stable.ofExcept _)
  intro status
  apply Stable.bind stable_foldLines
  intro contentLen
  split
  · exact Stable.raise
  · split
    · exact Stable.raise
    · apply Stable.bind stable_readUpTo
      intro data
      split
      · exact Stable.pure
      · exact Stable.raise

theorem readResponse_nil {len : UInt64} : Uffd.readResponse len ⟨[], .pending⟩ = none := by
  have waits : readLine Uffd.IoError.socket none ⟨[], .pending⟩ = none := rfl
  rw [Uffd.readResponse, bind_none waits]

/-- On an empty channel every reader waits. -/
theorem waits_nil {Error Value : Type} {program : Reading Error Value}
    (waits : program ⟨[], .pending⟩ = none) {seen later : List UInt8} {result rest}
    (empty : [] = seen ++ later) (ended : program ⟨seen, .pending⟩ = some (result, rest)) :
    False := by
  obtain ⟨rfl, rfl⟩ := List.append_eq_nil_iff.mp empty.symm
  rw [waits] at ended
  cases ended

/-- The request of a call, and nothing else, is what the handler can read. -/
theorem readRequest_called (presentable : Presentable url) {seen later : List UInt8} {result rest}
    (written : url.request fetch.offset fetch.len = seen ++ later)
    (ended : readRequest ⟨seen, .pending⟩ = some (result, rest)) :
    later = [] ∧ result = .ok (some (seenRequest url fetch.offset fetch.len)) ∧
      rest.bytes = [] := by
  apply stable_readRequest.arrived ended
  have whole : readRequest ⟨url.request fetch.offset fetch.len ++ [], .pending⟩ =
      some (.ok (some (seenRequest url fetch.offset fetch.len)), ⟨[], .pending⟩) :=
    readRequest_request presentable .pending
  rwa [List.append_nil, written] at whole

/-- The client reads the response to its call as the data in it, and nothing else. -/
theorem readResponse_got (valid : fetch.Valid) {data : Bytes}
    (length : data.length = fetch.len.toNat) {seen later : List UInt8} {result rest}
    (written : rangeResponse fetch.range.1 fetch.range.2 data false = seen ++ later)
    (ended : Uffd.readResponse fetch.len ⟨seen, .pending⟩ = some (result, rest)) :
    later = [] ∧ result = .ok data ∧ rest.bytes = [] := by
  apply stable_readResponse.arrived ended
  have whole : Uffd.readResponse fetch.len
      ⟨rangeResponse fetch.range.1 fetch.range.2 data false ++ [], .pending⟩ =
        some (.ok data, ⟨[], .pending⟩) := by
    rw [range_snd valid]
    exact readResponse_range length
  rwa [List.append_nil, written] at whole

/-- The handler asks the store for the range of a call. -/
theorem answer_called {stats : List UInt8} (other : url.path ≠ "/__stats".toList)
    (valid : fetch.Valid) : answer intError stats (seenRequest url fetch.offset fetch.len) =
      .fetch fetch.range.1 fetch.range.2 false := by
  have ordered : fetch.offset.toNat ≤ (rangeEnd fetch.offset fetch.len).toNat := by
    have positive := valid.1
    rw [rangeEnd_toNat valid]
    omega
  rw [answer_seenRequest intError stats other ordered, range_snd valid]
  rfl

/-- What a step does to the call which is going on. -/
theorem stage_step (presentable : Presentable url) (other : url.path ≠ "/__stats".toList)
    {begun : List Event} {rest : List Fetch} {before after : Connection} {event : Event}
    (stage : Stage url begun rest before) (valid : ∀ fetch ∈ rest, fetch.Valid)
    (step : Connection.Step intError url before event after) (served : event.Served) :
    Stage url (begun ++ [event]) rest after ∨
      ∃ fetch data calls, rest = fetch :: calls ∧ begun ++ [event] = exchange fetch data ∧
        Stage url [] calls after := by
  cases stage with
  | between =>
      cases step with
      | call => exact .inl .called
      | ask arrived read => exact (waits_nil readRequest_nil arrived read).elim
      | answered arrived read => exact (waits_nil readRequest_nil arrived read).elim
      | hungUp arrived read => exact (waits_nil readRequest_nil arrived read).elim
  | called =>
      have fetch_valid := valid _ List.mem_cons_self
      cases step with
      | ask arrived read asks =>
          obtain ⟨rfl, same, empty⟩ := readRequest_called presentable arrived read
          simp only [Except.ok.injEq, Option.some.injEq] at same
          rw [same, answer_called other fetch_valid] at asks
          cases asks
          rw [empty]
          exact .inl .asked
      | answered arrived read replies =>
          obtain ⟨-, same, -⟩ := readRequest_called presentable arrived read
          simp only [Except.ok.injEq, Option.some.injEq] at same
          rw [same, answer_called other fetch_valid] at replies
          cases replies
      | hungUp arrived read unanswered =>
          obtain ⟨-, same, -⟩ := readRequest_called presentable arrived read
          exact (unanswered _ same).elim
      | returned arrived read => exact (waits_nil readResponse_nil arrived read).elim
  | asked =>
      have fetch_valid := valid _ List.mem_cons_self
      cases step with
      | got replies =>
          obtain ⟨data, rfl, length⟩ := served
          cases replies
          refine .inl (.got ?_)
          have positive := fetch_valid.1
          simp only [Fetch.range] at length
          omega
      | returned arrived read => exact (waits_nil readResponse_nil arrived read).elim
  | got length =>
      have fetch_valid := valid _ List.mem_cons_self
      cases step with
      | ask arrived read => exact (waits_nil readRequest_nil arrived read).elim
      | answered arrived read => exact (waits_nil readRequest_nil arrived read).elim
      | hungUp arrived read => exact (waits_nil readRequest_nil arrived read).elim
      | returned arrived read =>
          obtain ⟨rfl, rfl, empty⟩ := readResponse_got fetch_valid length arrived read
          rw [empty]
          exact .inr ⟨_, _, _, rfl, rfl, .between⟩

variable {rest : List Fetch} {data : Bytes}

/-- The handler can read the request of a call. -/
theorem step_ask (presentable : Presentable url) (other : url.path ≠ "/__stats".toList)
    (valid : fetch.Valid) :
    Connection.Step intError url
      ⟨rest, .reading fetch, .reading, url.request fetch.offset fetch.len, []⟩
      (.ask fetch.range.1 fetch.range.2)
      ⟨rest, .reading fetch, .fetching fetch.range.1 fetch.range.2 false, [], []⟩ := by
  have arrived : url.request fetch.offset fetch.len =
      url.request fetch.offset fetch.len ++ [] := (List.append_nil _).symm
  have read : readRequest ⟨url.request fetch.offset fetch.len, .pending⟩ =
      some (.ok (some (seenRequest url fetch.offset fetch.len)), ⟨[], .pending⟩) := by
    rw [arrived]
    exact readRequest_request presentable .pending
  have asks : answer intError [] (seenRequest url fetch.offset fetch.len) =
      .fetch fetch.range.1 fetch.range.2 false := answer_called other valid
  exact .ask arrived read asks

/-- The handler writes the response to a call. -/
theorem step_got : Connection.Step intError url
    ⟨rest, .reading fetch, .fetching fetch.range.1 fetch.range.2 false, [], []⟩
    (.got fetch.range.1 fetch.range.2 (.ok data))
    ⟨rest, .reading fetch, .reading, [],
      rangeResponse fetch.range.1 fetch.range.2 data false⟩ := by
  have replies : answerRange fetch.range.1 fetch.range.2 false (.ok data) =
      .reply (rangeResponse fetch.range.1 fetch.range.2 data false) true := rfl
  exact .got replies

/-- The client can read the response to its call. -/
theorem step_returned (valid : fetch.Valid) (length : data.length = fetch.len.toNat) :
    Connection.Step intError url
      ⟨rest, .reading fetch, .reading, [], rangeResponse fetch.range.1 fetch.range.2 data false⟩
      (.returned (.ok data)) ⟨rest, .between, .reading, [], []⟩ := by
  have arrived : rangeResponse fetch.range.1 fetch.range.2 data false =
      rangeResponse fetch.range.1 fetch.range.2 data false ++ [] := (List.append_nil _).symm
  have read : Uffd.readResponse fetch.len
      ⟨rangeResponse fetch.range.1 fetch.range.2 data false, .pending⟩ =
        some (.ok data, ⟨[], .pending⟩) := by
    rw [arrived, range_snd valid]
    exact readResponse_range length
  exact .returned arrived read

theorem served_got (valid : fetch.Valid) (length : data.length = fetch.len.toNat) :
    (Event.got fetch.range.1 fetch.range.2 (.ok data)).Served := by
  have positive := valid.1
  refine ⟨data, rfl, ?_⟩
  simp only [Fetch.range]
  omega

/-- Until the end some party can go on. -/
theorem stage_progress (presentable : Presentable url) (other : url.path ≠ "/__stats".toList)
    {begun : List Event} {state : Connection} (stage : Stage url begun rest state)
    (valid : ∀ fetch ∈ rest, fetch.Valid) :
    state.Finished ∨ (servedSystem intError url calls).Enabled state := by
  cases stage with
  | between =>
      cases rest with
      | nil => exact .inl ⟨rfl, rfl⟩
      | cons fetch rest => exact .inr ⟨.call fetch, _, .call, trivial⟩
  | @called fetch rest =>
      exact .inr ⟨_, _, step_ask presentable other (valid _ List.mem_cons_self), trivial⟩
  | @asked fetch rest =>
      have length : (List.replicate fetch.len.toNat (0 : UInt8)).length = fetch.len.toNat :=
        List.length_replicate
      exact .inr ⟨_, _, step_got, served_got (valid _ List.mem_cons_self) length⟩
  | got length =>
      exact .inr ⟨_, _, step_returned (valid _ List.mem_cons_self) length, trivial⟩

theorem sequential_step (presentable : Presentable url) (other : url.path ≠ "/__stats".toList)
    (valid : ∀ fetch ∈ calls, fetch.Valid) {trace : List Event} {before after : Connection}
    {event : Event} (sequential : Sequential url calls trace before)
    (step : (servedSystem intError url calls).Step before event after) :
    Sequential url calls (trace ++ [event]) after := by
  obtain ⟨past, begun, rest, rfl, rfl, stage⟩ := sequential
  have rest_valid : ∀ fetch ∈ rest, fetch.Valid := fun fetch inside =>
    valid fetch (List.mem_append_right _ inside)
  rcases stage_step presentable other stage rest_valid step.1 step.2 with
    going | ⟨fetch, data, rest, rfl, whole, stage⟩
  · exact ⟨past, begun ++ [event], rest, rfl, List.append_assoc .., going⟩
  · refine ⟨past ++ [(fetch, data)], [], rest, ?_, ?_, stage⟩
    · simp
    · simp [← whole]

/-- What whole calls show. -/
theorem whole_calls (past : List (Fetch × Bytes)) :
    (past.flatMap fun call => exchange call.1 call.2).filterMap Event.asked? =
        past.map (fun call => call.1.range) ∧
      (past.flatMap fun call => exchange call.1 call.2).filterMap Event.given? =
        past.map (fun call => (call.1.range, call.2)) ∧
      (past.flatMap fun call => exchange call.1 call.2).filterMap Event.returned? =
        past.map (fun call => .ok call.2) ∧
      (past.flatMap fun call => exchange call.1 call.2).length = 4 * past.length := by
  induction past with
  | nil => exact ⟨rfl, rfl, rfl, rfl⟩
  | cons call past ih =>
      obtain ⟨asked, given, returned, length⟩ := ih
      simp only [List.flatMap_cons, List.filterMap_append, List.length_append, asked, given,
        returned, length]
      refine ⟨rfl, rfl, rfl, ?_⟩
      simp only [exchange, List.length_cons, List.length_nil]
      omega

/-- What the beginning of a call shows. -/
theorem begun_call {begun : List Event} {rest : List Fetch} {state : Connection}
    (stage : Stage url begun rest state) :
    begun.filterMap Event.asked? <+: rest.map Fetch.range ∧
      (begun.filterMap Event.given?).map Prod.fst <+: begun.filterMap Event.asked? ∧
        begun.filterMap Event.returned? = [] ∧ begun.length ≤ 4 * rest.length ∧
          (state.Finished → begun = [] ∧ rest = []) := by
  cases stage with
  | between =>
      exact ⟨List.nil_prefix, List.nil_prefix, rfl, Nat.zero_le _, fun done => ⟨rfl, done.1⟩⟩
  | @called fetch rest =>
      refine ⟨List.nil_prefix, List.nil_prefix, rfl, ?_, fun done => ClientPhase.noConfusion done.2⟩
      simp only [exchange, List.take_succ_cons, List.take_zero, List.length_cons, List.length_nil]
      omega
  | @asked fetch rest =>
      refine ⟨List.prefix_append [fetch.range] (rest.map Fetch.range), List.nil_prefix, rfl, ?_,
        fun done => ClientPhase.noConfusion done.2⟩
      simp only [exchange, List.take_succ_cons, List.take_zero, List.length_cons, List.length_nil]
      omega
  | @got fetch rest data =>
      refine ⟨List.prefix_append [fetch.range] (rest.map Fetch.range), List.prefix_rfl, rfl, ?_,
        fun done => ClientPhase.noConfusion done.2⟩
      simp only [exchange, List.take_succ_cons, List.take_zero, List.length_cons, List.length_nil]
      omega

end Steps

/-! ### The framing of a run -/

/-- Whatever bytes the store gives, every run makes the calls one by one, and each returns the bytes
which the store gave for its range. -/
theorem fetchRange_framed {intError : Text → Text} {url : HttpUrl} {calls : List Fetch}
    (presentable : Presentable url) (other : url.path ≠ "/__stats".toList)
    (valid : ∀ fetch ∈ calls, fetch.Valid) {trace : List Event} {state : Connection}
    (run : (servedSystem intError url calls).Run trace state) :
    Framing intError url calls trace state := by
  obtain ⟨initial, rfl, path⟩ := run
  have start : Sequential url calls [] ⟨calls, .between, .reading, [], []⟩ :=
    ⟨[], [], calls, rfl, rfl, .between⟩
  have sequential : Sequential url calls ([] ++ trace) state :=
    path.invariant_trace (Sequential url calls) (sequential_step presentable other valid) start
  obtain ⟨past, begun, rest, rfl, rfl, stage⟩ := sequential
  obtain ⟨asked, given, returned, length⟩ := whole_calls past
  obtain ⟨begun_asked, begun_given, begun_returned, begun_length, ends⟩ := begun_call stage
  refine ⟨?_, ?_, ?_, ?_, ?_, ?_⟩
  · rw [List.filterMap_append, asked, List.map_append, List.map_map]
    exact (List.prefix_append_right_inj _).mpr begun_asked
  · rw [List.filterMap_append, List.filterMap_append, asked, given, List.map_append, List.map_map]
    exact (List.prefix_append_right_inj _).mpr begun_given
  · rw [List.filterMap_append, List.filterMap_append, given, returned, begun_returned,
      List.map_append, List.map_map, List.append_nil]
    exact List.prefix_append ..
  · intro done
    obtain ⟨rfl, rfl⟩ := ends done
    rw [List.append_nil, List.append_nil, given, returned, List.map_map, List.map_map, List.map_map]
    exact ⟨rfl, rfl⟩
  · exact stage_progress presentable other stage fun fetch inside =>
      valid fetch (List.mem_append_right _ inside)
  · rw [List.length_append, length, List.length_append, List.length_map]
    omega

/-! ### Data which look like a response -/

def localUrl : HttpUrl :=
  ⟨"127.0.0.1".toList, 18080, "/memory".toList, "127.0.0.1:18080".toList⟩

theorem presentable_localUrl : Presentable localUrl :=
  ⟨by decide, by decide, by decide, by decide, by decide⟩

/-- Bytes of a page which begin like a response. -/
def responseLike : Bytes :=
  Codec.ascii "HTTP/1.1 404 Not Found\r\n\r\n".toList

def responseFetch : Fetch :=
  ⟨4096, 26⟩

theorem valid_responseFetch : responseFetch.Valid := by
  decide

theorem responseLike_run :
    (servedSystem id localUrl [responseFetch]).Run (exchange responseFetch responseLike)
      ⟨[], .between, .reading, [], []⟩ := by
  have length : responseLike.length = responseFetch.len.toNat := by decide
  refine ⟨_, rfl, .cons ⟨.call, trivial⟩ (.cons ⟨step_ask presentable_localUrl ?_ ?_, trivial⟩
    (.cons ⟨step_got, ?_⟩ (.cons ⟨step_returned ?_ length, trivial⟩ (.nil _))))⟩
  · decide
  · exact valid_responseFetch
  · exact served_got valid_responseFetch length
  · exact valid_responseFetch

theorem fetchRange_framed_responseLike :
    Framing id localUrl [responseFetch] (exchange responseFetch responseLike)
      ⟨[], .between, .reading, [], []⟩ :=
  fetchRange_framed presentable_localUrl (by decide)
    (fun _ inside => List.mem_singleton.mp inside ▸ valid_responseFetch) responseLike_run

end Proxy
end HermOS
