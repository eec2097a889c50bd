import HermOS.Proxy.Accounting
import HermOS.Proxy.RangeExchange
import HermOS.Proxy.UpstreamClient

/-!
# Client connections and their upstream clients

Each client connection has a handler thread, and each handler thread an `UpstreamRangeClient` of its
own.  An upstream response which is rejected leaves bytes in the connection of that client, but the
exception ends the handler, and nobody asks the client again.
-/

namespace HermOS
namespace Proxy
namespace Upstream

open Codec Http Python Reading

/-! ### The server -/

/-- The upstream, and the texts which the handlers take from elsewhere. -/
structure ServerConfig where
  url : HttpUrl
  /-- `int`'s complaint about a number. -/
  intError : Text → Text
  /-- The complaint about a request which is not ASCII. -/
  encodeError : Text → Text
  /-- The statistics as JSON. -/
  statsText : RangeStore FetchError → Bytes

/-- Program points of `handle`. -/
inductive Handler
  | reading
  /-- In `get_range` with the range of the request and the wish to close. -/
  | calling (start stop : ℤ) (close : Bool)
  | ended
  deriving DecidableEq

/-- The handlers, the store which they share, and their upstream clients. -/
structure ServerState (Connection : Type) where
  machine : State Connection FetchError
  inbox : Connection → ByteStream
  handler : Connection → Handler
  /-- `local.client`. -/
  client : Connection → Option UpstreamRangeClient
  fetches : Connection → List Fetch

/-- Where an answer leads; sending it may fail. -/
def afterAnswer (sent : Bool) : Answer → Handler
  | .reply _ goesOn => if sent && goesOn then .reading else .ended
  | .fetch start stop close => .calling start stop close

/-- The end of `get_range`, with an exception as its text. -/
def ServerConfig.outcome (config : ServerConfig) (start stop : ℤ) :
    Outcome FetchError → Except Text Bytes
  | .returned data => .ok data
  | .raised error => .error (error.message config.intError config.encodeError)
  | .withoutData =>
      .error ("range fetch completed without data: ".toList ++ (showInt start ++ '-' ::
        showInt stop))

/-- `handle` behind `read_request`. -/
def ServerConfig.afterRead (config : ServerConfig) (store : RangeStore FetchError) (sent : Bool) :
    Except RequestError (Option Request) → Handler
  | .ok (some request) =>
      afterAnswer sent (answer config.intError (config.statsText store) request)
  | _ => .ended

/-- `handle` behind `get_range`. -/
def ServerConfig.afterCall (config : ServerConfig) (start stop : ℤ) (close sent : Bool)
    (outcome : Outcome FetchError) : Handler :=
  afterAnswer sent (answerRange start stop close (config.outcome start stop outcome))

inductive ServerLabel (Connection : Type)
  | arrive (connection : Connection) (more : ByteStream)
  /-- `read_request`, and what follows up to `get_range`. -/
  | read (connection : Connection)
  | enter (connection : Connection)
  /-- `fetch_remote`, with what the network does in its exchanges. -/
  | fetch (connection : Connection) (first second : Attempt)
  /-- Another section of `get_range`. -/
  | inner (connection : Connection)
  /-- The end of `get_range`, and the response. -/
  | leave (connection : Connection)

section Server

variable {Connection : Type} [DecidableEq Connection]

/-- A section of `get_range` between its admission and its end, other than the fetch. -/
def Inner (connection : Connection) : Label Connection FetchError → Prop
  | .complete thread _ _ | .abandon thread _ _ | .signal thread _ | .wait thread =>
      thread = connection
  | _ => False

inductive ServerStep (config : ServerConfig) :
    ServerState Connection → ServerLabel Connection → ServerState Connection → Prop
  | arrive {state : ServerState Connection} {connection : Connection} {more : ByteStream} :
      ServerStep config state (.arrive connection more)
        { state with
          inbox := Function.update state.inbox connection
            ((state.inbox connection).receive more) }
  | read {state : ServerState Connection} {connection : Connection} {rest : ByteStream}
      {result : Except RequestError (Option Request)} {sent : Bool} :
      state.handler connection = .reading →
      readRequest (state.inbox connection) = some (result, rest) →
      ServerStep config state (.read connection)
        { state with
          inbox := Function.update state.inbox connection rest
          handler := Function.update state.handler connection
            (config.afterRead state.machine.store sent result) }
  | enter {state : ServerState Connection} {connection : Connection} {call : Call} {close : Bool}
      {admission : Admission} {after : State Connection FetchError} :
      state.handler connection = .calling call.start call.stop close →
      Step state.machine (.enter connection call admission) after →
      ServerStep config state (.enter connection) { state with machine := after }
  | fetch {state : ServerState Connection} {connection : Connection} {call : Call}
      {admission : Admission} {ref fetchNs : ℕ} {close : Bool} {first second : Attempt}
      {fetch : Fetch} {after : UpstreamRangeClient} :
      state.handler connection = .calling call.start call.stop close →
      state.machine.control connection = .inside call admission (.fetching ref) →
      fetchRemote config.url (state.client connection) first second call.start call.stop =
        some (fetch, after) →
      ServerStep config state (.fetch connection first second)
        { state with
          machine := state.machine.move state.machine.store connection
            (.inside call admission (.fetched ref fetch.result fetchNs))
          client := Function.update state.client connection (some after)
          fetches := Function.update state.fetches connection
            (state.fetches connection ++ [fetch]) }
  | inner {state : ServerState Connection} {connection : Connection}
      {label : Label Connection FetchError} {after : State Connection FetchError} :
      Inner connection label → Step state.machine label after →
      ServerStep config state (.inner connection) { state with machine := after }
  | leave {state : ServerState Connection} {connection : Connection} {call : Call}
      {admission : Admission} {outcome : Outcome FetchError} {close sent : Bool}
      {after : State Connection FetchError} :
      state.handler connection = .calling call.start call.stop close →
      Step state.machine (.leave connection call admission outcome) after →
      ServerStep config state (.leave connection)
        { state with
          machine := after
          handler := Function.update state.handler connection
            (config.afterCall call.start call.stop close sent outcome) }

/-- The server on a new store, with any number of client connections. -/
def serverSystem (config : ServerConfig) (Connection : Type) [DecidableEq Connection] :
    TransitionSystem (ServerState Connection) (ServerLabel Connection) where
  Initial state := ∃ remoteUrl, state =
    { machine := ⟨.init remoteUrl, fun _ => .idle⟩
      inbox := fun _ => ⟨[], .pending⟩
      handler := fun _ => .reading
      client := fun _ => none
      fetches := fun _ => [] }
  Step := ServerStep config

/-! ### The store of the server -/

section Store

variable {config : ServerConfig} {before after : ServerState Connection}
  {label : ServerLabel Connection}

/-- What the thread of the connection hands to `get_range` at the end of a fetch. -/
def fetchResult (connection : Connection) :
    Label Connection FetchError → Option (Except FetchError Bytes)
  | .fetchEnd thread _ _ result => if thread = connection then some result else none
  | _ => none

theorem fetchResult_inner {inner : Label Connection FetchError} {connection thread : Connection}
    (section_of : Inner thread inner) : fetchResult connection inner = none := by
  cases inner <;> first | rfl | exact section_of.elim

/-- On the store the server makes steps of the interleaved calls of `get_range`. -/
theorem store_step (step : ServerStep config before label after) : ∃ trace,
    (rangeStoreSystem Connection FetchError).Path before.machine trace after.machine ∧
      ∀ connection, (after.fetches connection).map (·.result) =
        (before.fetches connection).map (·.result) ++ trace.filterMap (fetchResult connection) := by
  cases step with
  | arrive => exact ⟨[], .nil _, by simp⟩
  | read => exact ⟨[], .nil _, by simp⟩
  | enter _ step => exact ⟨[_], .cons step (.nil _), by simp [fetchResult]⟩
  | @fetch thread call admission ref fetchNs close first second fetch client calling inside
      fetched =>
      have ended : Step before.machine (.fetchEnd thread call ref fetch.result)
          (before.machine.move before.machine.store thread
            (.inside call admission (.fetched ref fetch.result fetchNs))) := by
        cases result : fetch.result with
        | error error => exact .fetchError inside
        | ok data => exact .fetchData inside (fetchRange_length fetched result)
      refine ⟨[_], .cons ended (.nil _), fun connection => ?_⟩
      rcases eq_or_ne connection thread with rfl | ne
      · simp [fetchResult]
      · simp [fetchResult, ne, ne.symm]
  | inner section_of step =>
      exact ⟨[_], .cons step (.nil _), fun connection => by simp [fetchResult_inner section_of]⟩
  | leave _ step => exact ⟨[_], .cons step (.nil _), by simp [fetchResult]⟩

/-- Every run of the server is a run of the calls of `get_range`, in which the fetches of a thread
end as the calls of its upstream client did. -/
theorem server_refines_store {trace : List (ServerLabel Connection)}
    {state : ServerState Connection} (run : (serverSystem config Connection).Run trace state) :
    ∃ past, (rangeStoreSystem Connection FetchError).Run past state.machine ∧
      ∀ connection, past.filterMap (fetchResult connection) =
        (state.fetches connection).map (·.result) := by
  obtain ⟨initial, ⟨remoteUrl, rfl⟩, path⟩ := run
  refine path.invariant (fun state => ∃ past,
    (rangeStoreSystem Connection FetchError).Run past state.machine ∧
      ∀ connection, past.filterMap (fetchResult connection) =
        (state.fetches connection).map (·.result)) ?_
      ⟨[], ⟨_, ⟨remoteUrl, rfl⟩, .nil _⟩, fun _ => rfl⟩
  rintro before label after ⟨past, ⟨first, start, before_path⟩, results⟩ step
  obtain ⟨more, path, added⟩ := store_step step
  refine ⟨past ++ more, ⟨first, start, before_path.trans path⟩, fun connection => ?_⟩
  rw [List.filterMap_append, results, added]

end Store

/-! ### A rejected response ends the thread -/

section Threads

variable {config : ServerConfig} {before after : ServerState Connection}
  {label : ServerLabel Connection} {connection : Connection}

/-- The thread is on its way out of `get_range` with the exception of its own fetch, or with that of
another thread. -/
def Raising : Control FetchError → Prop
  | .inside _ _ (.fetched _ (.error _) _) | .inside _ _ (.completed _ (.error _))
  | .inside _ _ (.leaving (.raised _)) => True
  | _ => False

/-- The upstream client of the connection will not be asked again. -/
def Doomed (state : ServerState Connection) (connection : Connection) : Prop :=
  state.handler connection = .ended ∨ Raising (state.machine.control connection)

/-- The upstream client of the connection has read all that was sent to it. -/
def Fresh (state : ServerState Connection) (connection : Connection) : Prop :=
  ∀ client ∈ state.client connection, client.unread = []

theorem raising_move {machine : State Connection FetchError} {store : RangeStore FetchError}
    {thread : Connection} {control : Control FetchError}
    (own : thread = connection → Raising (machine.control thread) → Raising control)
    (raising : Raising (machine.control connection)) :
    Raising ((machine.move store thread control).control connection) := by
  by_cases same : connection = thread
  · subst same
    rw [move_control_self]
    exact own rfl raising
  · rwa [move_control_of_ne _ _ _ same]

theorem raising_calm {machine : State Connection FetchError} {store : RangeStore FetchError}
    {thread : Connection} {here control : Control FetchError}
    (at_point : machine.control thread = here) (calm : ¬ Raising here)
    (raising : Raising (machine.control connection)) :
    Raising ((machine.move store thread control).control connection) :=
  raising_move (fun _ own => absurd (at_point ▸ own) calm) raising

/-- A raising thread goes on raising up to the end of the call. -/
theorem raising_step {machine machine' : State Connection FetchError}
    {label : Label Connection FetchError} (step : Step machine label machine')
    (inside : ∀ call admission outcome, label ≠ .leave connection call admission outcome)
    (raising : Raising (machine.control connection)) : Raising (machine'.control connection) := by
  cases step with
  | enter idle => exact raising_calm idle id raising
  | fetchData at_point => exact raising_calm at_point id raising
  | fetchError => exact raising_move (fun _ _ => trivial) raising
  | complete at_point => exact raising_calm at_point id raising
  | abandon => exact raising_move (fun _ _ => trivial) raising
  | @signal thread call admission ref result at_point =>
      refine raising_move (fun _ own => ?_) raising
      rw [at_point] at own
      cases result with
      | ok data => exact own.elim
      | error error => trivial
  | wake at_point => exact raising_calm at_point id raising
  | readError => exact raising_move (fun _ _ => trivial) raising
  | readNoError at_point => exact raising_calm at_point id raising
  | readNoData at_point => exact raising_calm at_point id raising
  | readData at_point => exact raising_calm at_point id raising
  | serve at_point => exact raising_calm at_point id raising
  | returnData at_point => exact raising_calm at_point id raising
  | @leave thread call admission outcome =>
      refine raising_move (fun same _ => ?_) raising
      exact absurd (same ▸ rfl) (inside call admission outcome)

/-- A call which raises ends the handler. -/
theorem afterCall_raised {start stop : ℤ} {close sent : Bool} {error : FetchError} :
    config.afterCall start stop close sent (.raised error) = .ended := by
  simp [ServerConfig.afterCall, ServerConfig.outcome, answerRange, afterAnswer]

/-- The fetches of a connection are framed, and as long as its client may be asked again this client
has read all that was sent to it. -/
structure Sound (state : ServerState Connection) (connection : Connection) : Prop where
  framed : ∀ fetch ∈ state.fetches connection, fetch.Framed
  fresh : Doomed state connection ∨ Fresh state connection

/-- The lines of the heads of the responses are not too long for `readline`. -/
def ServerLabel.Brief : ServerLabel Connection → Prop
  | .fetch _ first second => first.response.Brief ∧ second.response.Brief
  | _ => True

omit [DecidableEq Connection] in
theorem fetch_sound {call : Call} {admission : Admission} {ref fetchNs : ℕ} {close : Bool}
    {first second : Attempt} {fetch : Fetch} {left : UpstreamRangeClient}
    (sound : Sound before connection)
    (calling : before.handler connection = .calling call.start call.stop close)
    (inside : before.machine.control connection = .inside call admission (.fetching ref))
    (fetched : fetchRemote config.url (before.client connection) first second call.start call.stop =
      some (fetch, left))
    (brief : first.response.Brief) (brief' : second.response.Brief) :
    fetch.Framed ∧
      (Raising (.inside call admission (.fetched ref fetch.result fetchNs)) ∨
        left.unread = []) := by
  have calm : ¬ Doomed before connection := by
    rintro (ended | raising)
    · rw [calling] at ended
      cases ended
    · rw [inside] at raising
      exact raising
  have fresh := sound.fresh.resolve_left calm
  have unread : ((before.client connection).getD (.new config.url)).unread = [] := by
    cases held : before.client connection with
    | none => rfl
    | some client => exact fresh client held
  obtain ⟨framed, empty⟩ := fetchRange_ownResponse unread brief brief' fetched
  refine ⟨framed, ?_⟩
  cases result : fetch.result with
  | error error => exact .inl trivial
  | ok data => exact .inr (empty data result)

/-- What one step preserves on every connection. -/
theorem sound_step (sound : ∀ connection, Sound before connection)
    (step : ServerStep config before label after) (brief : label.Brief) (connection : Connection) :
    Sound after connection := by
  obtain ⟨framed, fresh⟩ := sound connection
  cases step with
  | arrive => exact ⟨framed, fresh⟩
  | @read actor rest result sent reading =>
      refine ⟨framed, fresh.imp_left ?_⟩
      rintro (ended | raising)
      · have other : connection ≠ actor := by
          rintro rfl
          rw [reading] at ended
          cases ended
        exact .inl ((Function.update_of_ne other _ _).trans ended)
      · exact .inr raising
  | enter _ step =>
      refine ⟨framed, fresh.imp_left (Or.imp_right (raising_step step fun _ _ _ => ?_))⟩
      simp
  | @inner actor inner_label machine inner step =>
      refine ⟨framed, fresh.imp_left (Or.imp_right (raising_step step ?_))⟩
      rintro call admission outcome rfl
      exact inner
  | @fetch actor call admission ref fetchNs close first second fetch left calling inside fetched =>
      by_cases same : connection = actor
      · subst same
        obtain ⟨new_framed, raising | empty⟩ := @fetch_sound _ config before connection call
          admission ref fetchNs close first second fetch left (sound connection) calling inside
          fetched brief.1 brief.2
        all_goals
          refine ⟨?_, ?_⟩
          · intro other member
            simp only [Function.update_self, List.mem_append, List.mem_singleton] at member
            rcases member with member | rfl
            · exact framed other member
            · exact new_framed
        · refine .inl (.inr ?_)
          rwa [move_control_self]
        · right
          intro client held
          simp only [Function.update_self, Option.mem_some_iff] at held
          rwa [← held]
      · refine ⟨?_, ?_⟩
        · simpa only [Function.update_of_ne same] using framed
        · simpa only [Doomed, Fresh, Function.update_of_ne same,
            move_control_of_ne _ _ _ same] using fresh
  | @leave actor call admission outcome close sent machine calling step =>
      by_cases same : connection = actor
      · subst same
        refine ⟨framed, fresh.imp_left ?_⟩
        rintro (ended | raising)
        · rw [calling] at ended
          cases ended
        · cases step with
          | leave inside =>
              rw [inside] at raising
              cases outcome with
              | raised error => exact .inl ((Function.update_self _ _ _).trans afterCall_raised)
              | returned data => exact raising.elim
              | withoutData => exact raising.elim
      · refine ⟨framed, fresh.imp_left (Or.imp ?_ (raising_step step ?_))⟩
        · exact (Function.update_of_ne same _ _).trans
        · rintro call admission outcome ⟨⟩
          exact same rfl

/-- Every fetch of every connection returns the body of the response to its own request, and finds
nothing unread of an earlier one. -/
theorem fetches_framed {state : ServerState Connection}
    (reachable : ((serverSystem config Connection).restrict
      fun _ label => label.Brief).Reachable state) (connection : Connection) :
    ∀ fetch ∈ state.fetches connection, fetch.Framed := by
  have sound := reachable.invariant (fun state => ∀ connection, Sound state connection) ?_ ?_
  · exact (sound connection).framed
  · rintro _ ⟨remoteUrl, rfl⟩ connection
    exact ⟨by simp, .inr (by simp [Fresh])⟩
  · intro before label after sound step
    exact sound_step sound step.1 step.2

end Threads

end Server

/-! ### Runs with fetches of one byte -/

section Samples

/-- The upstream answers with the response, and keeps the connection. -/
def sampleAttempt (response : Response) : Attempt where
  refusal := none
  unsent := none
  response := response
  ending := .pending
  arrived := 0
  failure := []

/-- The fetch of the first byte. -/
def sampleFetch (response : Response) (result : Except FetchError Bytes) : Fetch :=
  ⟨0, 0, [⟨0, 0, [], sampleAttempt response, result⟩], result⟩

def sampleConfig : ServerConfig where
  url := ⟨['/'], ['h']⟩
  intError := id
  encodeError := id
  statsText := fun _ => []

variable {response : Response} {result : Except FetchError Bytes} {data : Bytes}
  {rest : ByteStream}

theorem fetchRemote_sample
    (read : readResponse [] 0 0 ⟨response.bytes, .pending⟩ = some (result, rest))
    (kept : ∀ message, result ≠ .error (.os message)) :
    fetchRemote sampleConfig.url none (sampleAttempt response) (sampleAttempt response) 0 0 =
      some (sampleFetch response result, ⟨sampleConfig.url, some rest⟩) := by
  have once : (UpstreamRangeClient.new sampleConfig.url).fetchRangeOnce (sampleAttempt response)
      0 0 = some (result, ⟨sampleConfig.url, some rest⟩) := by
    have text : Ascii (sampleConfig.url.request 0 0) := by decide
    change (if ¬ Ascii (sampleConfig.url.request 0 0) then
        some (.error (.unicode (sampleConfig.url.request 0 0)),
          UpstreamRangeClient.mk sampleConfig.url (some ⟨[], .pending⟩))
      else (readResponse [] 0 0 ⟨response.bytes, .pending⟩).map fun pair =>
        (pair.1, UpstreamRangeClient.mk sampleConfig.url (some pair.2))) = _
    rw [if_neg (not_not_intro text), read]
    rfl
  rw [fetchRemote, Option.getD_none, UpstreamRangeClient.fetchRange, once]
  cases result with
  | ok data => rfl
  | error error =>
      cases error with
      | os message => exact absurd rfl (kept message)
      | runtime | value | unicode => rfl

/-- The client of the proxy. -/
def sampleUrl : Uffd.HttpUrl :=
  ⟨['h'], 80, ['/'], ['h']⟩

theorem presentable_sampleUrl : Presentable sampleUrl where
  path_space := by decide
  path_line := by decide
  host_line := by decide
  path_short := by decide
  host_short := by decide

section Reached

variable {Connection : Type} [DecidableEq Connection] {connection : Connection}
  {Allowed : ServerLabel Connection → Prop} {before : ServerState Connection}
  {store : RangeStore FetchError} {ref : ℕ}

/-- No step has been made for the connection. -/
structure Untouched (state : ServerState Connection) (connection : Connection) : Prop where
  reading : state.handler connection = .reading
  idle : state.machine.control connection = .idle
  inbox : state.inbox connection = ⟨[], .pending⟩
  client : state.client connection = none
  fetches : state.fetches connection = []

/-- A client asks for the first byte, and its handler fetches it. -/
theorem sampleFetch_reached
    (reachable : ((serverSystem sampleConfig Connection).restrict
      fun _ label => Allowed label).Reachable before)
    (untouched : Untouched before connection)
    (owner : before.machine.store.enter (0, 1) = (store, .owner ref))
    (read : readResponse [] 0 0 ⟨response.bytes, .pending⟩ = some (result, rest))
    (kept : ∀ message, result ≠ .error (.os message))
    (others : ∀ label, (∀ actor first second, label ≠ .fetch actor first second) → Allowed label)
    (allowed : Allowed (.fetch connection (sampleAttempt response) (sampleAttempt response))) :
    ∃ state, ((serverSystem sampleConfig Connection).restrict
      fun _ label => Allowed label).Reachable state ∧
        state.machine.store = store ∧ state.fetches connection = [sampleFetch response result] ∧
          (∃ call, call.key = (0, 1) ∧ state.machine.control connection =
            .inside call (.owner ref) (.fetched ref result 0)) ∧
          ∀ other ≠ connection, state.fetches other = before.fetches other ∧
            (Untouched before other → Untouched state other) := by
  obtain ⟨reading, idle, empty, new, none_yet⟩ := untouched
  let sent : ByteStream := ⟨sampleUrl.request 0 1, .pending⟩
  let call : Call := ⟨before.machine.store.clientRequests + 1, 0, 0⟩
  have arrived := reachable.step ⟨@ServerStep.arrive Connection _ sampleConfig _ connection sent,
    others _ (by simp)⟩
  have request : readRequest (Function.update before.inbox connection
      ((before.inbox connection).receive sent) connection) =
        some (.ok (some (seenRequest sampleUrl 0 1)), ⟨[], .pending⟩) := by
    have whole := @readRequest_request sampleUrl 0 1 [] presentable_sampleUrl .pending
    rw [List.append_nil] at whole
    rw [Function.update_self, empty]
    exact whole
  have asked : ∀ store, sampleConfig.afterRead store true
      (.ok (some (seenRequest sampleUrl 0 1))) = .calling 0 0 false := by
    intro store
    have answered := @answer_seenRequest sampleUrl 0 1 id [] (by decide) (by decide)
    exact congrArg (afterAnswer true) answered
  have calling : Function.update before.handler connection (sampleConfig.afterRead
      before.machine.store true (.ok (some (seenRequest sampleUrl 0 1)))) connection =
        .calling call.start call.stop false := (Function.update_self ..).trans (asked _)
  have called := arrived.step ⟨@ServerStep.read Connection _ sampleConfig _ connection _ _ true
    reading request, others _ (by simp)⟩
  have entered := called.step ⟨@ServerStep.enter Connection _ sampleConfig _ connection call false
    (.owner ref) _ calling (.enter idle rfl le_rfl owner), others _ (by simp)⟩
  have fetched : fetchRemote sampleConfig.url (before.client connection) (sampleAttempt response)
      (sampleAttempt response) call.start call.stop =
        some (sampleFetch response result, ⟨sampleConfig.url, some rest⟩) := by
    rw [new]
    exact fetchRemote_sample read kept
  have fetching := entered.step ⟨@ServerStep.fetch Connection _ sampleConfig _ connection call
    (.owner ref) ref 0 false _ _ _ _ calling (move_control_self _ _ _ _) fetched, allowed⟩
  refine ⟨_, fetching, rfl, ?_, ⟨call, rfl, move_control_self _ _ _ _⟩, fun other ne => ?_⟩
  · exact (Function.update_self ..).trans (congrArg (· ++ [sampleFetch response result]) none_yet)
  · refine ⟨Function.update_of_ne ne _ _, fun fresh => ?_⟩
    exact ⟨(Function.update_of_ne ne _ _).trans fresh.reading,
      (Function.update_of_ne ne _ _).trans ((Function.update_of_ne ne _ _).trans fresh.idle),
      (Function.update_of_ne ne _ _).trans ((Function.update_of_ne ne _ _).trans fresh.inbox),
      (Function.update_of_ne ne _ _).trans fresh.client,
      (Function.update_of_ne ne _ _).trans fresh.fetches⟩

end Reached

/-- Nothing has been done on a new server. -/
theorem untouched_new {Connection : Type} [DecidableEq Connection]
    {Allowed : ServerLabel Connection → Prop} :
    ∃ state, ((serverSystem sampleConfig Connection).restrict
      fun _ label => Allowed label).Reachable state ∧
        (∀ connection, Untouched state connection) ∧ state.machine.store = .init "" :=
  ⟨_, ⟨[], _, ⟨"", rfl⟩, .nil _⟩, fun _ => ⟨rfl, rfl, rfl, rfl, rfl⟩, rfl⟩

/-- The first byte of a response whose head gives the length one. -/
theorem readResponse_first (line : response.statusLine.length ≤ 100)
    (status : parseStatus (response.statusLine ++ crlf) = .ok 206)
    (head : foldLines (.os []) (some lineLimit) responseHeader none
      ⟨headBytes response.headers ++ response.body, .pending⟩ =
        some (.ok (some 1), ⟨response.body, .pending⟩)) (enough : 1 ≤ response.body.length) :
    readResponse [] 0 0 ⟨response.bytes, .pending⟩ =
      some (.ok (response.body.take 1), ⟨response.body.drop 1, .pending⟩) := by
  have first : readLine (FetchError.os []) (some lineLimit) ⟨response.bytes, .pending⟩ =
      some (.ok (response.statusLine ++ crlf),
        ⟨headBytes response.headers ++ response.body, .pending⟩) :=
    readLine_head (fits_short response.statusLine_free line)
  have known : Reading.ofExcept (parseStatus (response.statusLine ++ crlf))
      ⟨headBytes response.headers ++ response.body, .pending⟩ =
        some (.ok 206, ⟨headBytes response.headers ++ response.body, .pending⟩) := by
    rw [ofExcept_apply, status]
  have block : readUpTo (FetchError.os []) 1 ⟨response.body, .pending⟩ =
      some (.ok (response.body.take 1), ⟨response.body.drop 1, .pending⟩) := by
    rw [readUpTo, if_pos enough]
  have length : (response.body.take 1).length = 1 := by
    rw [List.length_take]
    omega
  rw [readResponse, bind_ok first, if_neg (by simp), bind_ok known, bind_ok head,
    if_neg (by decide), if_neg (by decide), show ((0 : ℤ) - 0 + 1).toNat = 1 from rfl,
    bind_ok block, if_neg (by simp [length])]
  rfl

/-- The key of a header is unique. -/
theorem key_eq {key key' value value' : Text} (free : ':' ∉ key) (free' : ':' ∉ key')
    (same : key ++ ':' :: value = key' ++ ':' :: value') : key = key' ∧ value = value' := by
  have parts := congrArg (partition ':') same
  rw [partition_append free, partition_append free'] at parts
  exact ⟨congrArg Prod.fst parts, congrArg Prod.snd parts⟩

/-- The length in a header is one digit behind a space. -/
theorem framed_digit {length : ℕ} {key value : Text}
    (parts : key ++ ':' :: value = "Content-Length".toList ++ ':' :: ' ' :: decimal length)
    (free : ':' ∉ key) : LengthValue value length := by
  obtain ⟨_, rfl⟩ := key_eq free (by decide) parts
  exact ⟨[' '], [], 0, by simp, by simp⟩

def shortResponse : Response where
  statusLine := ascii "HTTP/1.1 206 OK".toList
  headers := [ascii "Content-Length: 1".toList]
  body := [97]
  statusLine_free := by decide
  headers_free := by decide
  framed := by
    intro header inside key value decoded free _
    rw [List.mem_singleton.mp inside, fromLatin1_ascii (by decide)] at decoded
    exact framed_digit decoded.symm free

theorem readResponse_short : readResponse [] 0 0 ⟨shortResponse.bytes, .pending⟩ =
    some (.ok [97], ⟨[], .pending⟩) := by
  have header : responseHeader none (ascii "Content-Length: 1".toList ++ crlf) =
      .ok (.inl (some 1)) := by rfl
  refine readResponse_first (by decide) rfl ?_ (by decide)
  rw [shortResponse, foldLines_head_next (fits_short (by decide) (by decide)) header]
  exact foldLines_head_stop (fits_short (by decide) (by decide)) rfl

theorem brief_short : shortResponse.Brief := by
  rw [Response.Brief]
  decide

/-- A refusal with a body. -/
def refusedResponse : Response where
  statusLine := ascii "HTTP/1.1 404 Not Found".toList
  headers := [ascii "Content-Length: 1".toList]
  body := [98]
  statusLine_free := by decide
  headers_free := by decide
  framed := shortResponse.framed

def refusal : FetchError :=
  .runtime "upstream returned HTTP 404, expected 206".toList

/-- The body stays unread. -/
theorem readResponse_refused : readResponse [] 0 0 ⟨refusedResponse.bytes, .pending⟩ =
    some (.error refusal, ⟨[98], .pending⟩) := by
  have line : readLine (FetchError.os []) (some lineLimit) ⟨refusedResponse.bytes, .pending⟩ =
      some (.ok (refusedResponse.statusLine ++ crlf),
        ⟨headBytes refusedResponse.headers ++ refusedResponse.body, .pending⟩) :=
    readLine_head (fits_short refusedResponse.statusLine_free (by decide))
  have status : parseStatus (refusedResponse.statusLine ++ crlf) = .ok 404 := by
    have decoded : fromLatin1 (refusedResponse.statusLine ++ crlf) =
        "HTTP/1.1".toList ++ ' ' :: (decimal 404 ++ ' ' :: "Not Found\r\n".toList) := by decide
    have short : 404 < 10 ^ maxStrDigits :=
      (show 404 < 10 ^ 3 by decide).trans_le (Nat.pow_le_pow_right (by decide) (by decide))
    exact parseStatus_line (by decide) (by simp [isSpace]) short decoded
  have header : responseHeader none (ascii "Content-Length: 1".toList ++ crlf) =
      .ok (.inl (some 1)) := by rfl
  have head : foldLines (.os []) (some lineLimit) responseHeader none
      ⟨headBytes refusedResponse.headers ++ refusedResponse.body, .pending⟩ =
        some (.ok (some 1), ⟨[98], .pending⟩) := by
    rw [refusedResponse, foldLines_head_next (fits_short (by decide) (by decide)) header]
    exact foldLines_head_stop (fits_short (by decide) (by decide)) rfl
  rw [readResponse, bind_ok line, if_neg (by simp), status, bind_ok (ofExcept_apply ..),
    bind_ok head, if_pos (by decide)]
  rfl

theorem brief_refused : refusedResponse.Brief := by
  rw [Response.Brief]
  decide

theorem brief_others {Connection : Type} (label : ServerLabel Connection)
    (other : ∀ actor first second, label ≠ .fetch actor first second) : label.Brief := by
  cases label with
  | fetch connection first second => exact absurd rfl (other connection first second)
  | arrive | read | enter | inner | leave => trivial

/-- The fetch of one connection is refused.  Another one fetches the same byte afterwards. -/
theorem refused_then_fetched : ∃ state, ((serverSystem sampleConfig Bool).restrict
    fun _ label => label.Brief).Reachable state ∧
      state.fetches false = [sampleFetch refusedResponse (.error refusal)] ∧
        state.fetches true = [sampleFetch shortResponse (.ok [97])] := by
  obtain ⟨start, reachable, untouched, new⟩ := @untouched_new Bool _ ServerLabel.Brief
  obtain ⟨refused, reachable, store, fetches, ⟨call, key, inside⟩, others⟩ :=
    sampleFetch_reached reachable (untouched false) (congrArg (RangeStore.enter · (0, 1)) new)
      readResponse_refused nofun brief_others ⟨brief_refused, brief_refused⟩
  have abandoned := reachable.step ⟨@ServerStep.inner Bool _ sampleConfig _ false
    (.abandon false call 0) _ rfl (.abandon inside), trivial⟩
  have apart : true ≠ false := by decide
  have later : Untouched refused true := (others true apart).2 (untouched true)
  obtain ⟨second, again⟩ : ∃ second,
      (refused.machine.store.abandon call.key 0 refusal).enter (0, 1) = (second, .owner 1) := by
    rw [key, store]
    exact ⟨_, rfl⟩
  obtain ⟨state, reachable, _, fetched, _, rest⟩ :=
    sampleFetch_reached abandoned
      ⟨later.reading, (move_control_of_ne _ _ _ apart).trans later.idle, later.inbox,
        later.client, later.fetches⟩ again readResponse_short nofun brief_others
      ⟨brief_short, brief_short⟩
  exact ⟨state, reachable, (rest false apart.symm).1.trans fetches, fetched⟩

theorem fetches_framed_short : ∃ state, ((serverSystem sampleConfig Bool).restrict
    fun _ label => label.Brief).Reachable state ∧
      state.fetches false = [sampleFetch refusedResponse (.error refusal)] ∧
        state.fetches true = [sampleFetch shortResponse (.ok [97])] ∧
          (∀ fetch ∈ state.fetches false, fetch.Framed) ∧
            ∀ fetch ∈ state.fetches true, fetch.Framed := by
  obtain ⟨state, reachable, refused, fetched⟩ := refused_then_fetched
  exact ⟨state, reachable, refused, fetched, fetches_framed reachable false,
    fetches_framed reachable true⟩

theorem server_refines_store_sample : ∃ state past,
    (serverSystem sampleConfig Bool).Reachable state ∧
      (rangeStoreSystem Bool FetchError).Run past state.machine ∧
        past.filterMap (fetchResult false) = [.error refusal] ∧
          past.filterMap (fetchResult true) = [.ok [97]] := by
  obtain ⟨state, ⟨trace, initial, start, path⟩, refused, fetched⟩ := refused_then_fetched
  have run : (serverSystem sampleConfig Bool).Run trace state :=
    ⟨initial, start, path.of_restrict⟩
  obtain ⟨past, store_run, results⟩ := server_refines_store run
  refine ⟨state, past, run.reachable, store_run, ?_, ?_⟩
  · rw [results, refused]
    rfl
  · rw [results, fetched]
    rfl

end Samples

/-! ### A header longer than `readline` takes -/

section LongHeader

/-- The part of a header which `readline` takes. -/
def longFront : Bytes :=
  ascii "X: ".toList ++ List.replicate (lineLimit - 3) 97

/-- A header which goes on with what looks like another one. -/
def longHeader : Bytes :=
  longFront ++ ascii "Content-Length: 1".toList

theorem lineFeed_not_mem_longFront : lineFeed ∉ longFront := by
  rw [longFront, List.mem_append, List.mem_replicate]
  rintro (inside | ⟨_, same⟩)
  · exact absurd inside (by decide)
  · exact absurd same (by decide)

theorem longFront_length : longFront.length = lineLimit := by
  have front : (ascii "X: ".toList).length = 3 := rfl
  rw [longFront, List.length_append, List.length_replicate, front]
  rfl

theorem fromLatin1_longFront :
    fromLatin1 longFront = "X".toList ++ ':' :: ' ' :: List.replicate (lineLimit - 3) 'a' := by
  rw [longFront, fromLatin1_append, fromLatin1_ascii (by decide), fromLatin1, List.map_replicate]
  rfl

def longResponse : Response where
  statusLine := ascii "HTTP/1.1 206 OK".toList
  headers := [ascii "Content-Length: 2".toList, longHeader]
  body := [97, 98]
  statusLine_free := by decide
  headers_free := by
    intro header inside
    rcases List.mem_pair.mp inside with rfl | rfl
    · decide
    · rw [longHeader, List.mem_append, not_or]
      refine ⟨?_, lineFeed_not_mem_longFront, by decide⟩
      intro empty
      exact absurd (List.append_eq_nil_iff.mp empty).2 (by decide)
  framed := by
    intro header inside key value decoded free named
    rcases List.mem_pair.mp inside with rfl | rfl
    · rw [fromLatin1_ascii (by decide)] at decoded
      exact framed_digit decoded.symm free
    · rw [longHeader, fromLatin1_append, fromLatin1_longFront, List.append_assoc] at decoded
      obtain ⟨rfl, _⟩ := key_eq (by decide) free decoded
      exact absurd named (by decide)

theorem responseHeader_longFront (contentLen : Option ℤ) :
    responseHeader contentLen longFront = .ok (.inl contentLen) := by
  have some_byte : longFront ≠ [] := by simp [longFront, ascii]
  have filled : blankLine longFront = false := rfl
  rw [responseHeader, if_neg some_byte, filled, if_neg Bool.false_ne_true, fromLatin1_longFront,
    partition_append (by decide)]
  exact if_neg (by decide)

theorem headers_long :
    foldLines (.os []) (some lineLimit) responseHeader none
        ⟨headBytes longResponse.headers ++ longResponse.body, .pending⟩ =
      some (.ok (some 1), ⟨[97, 98], .pending⟩) := by
  have first : responseHeader none (ascii "Content-Length: 2".toList ++ crlf) =
      .ok (.inl (some 2)) := by rfl
  have last : responseHeader (some 2) (ascii "Content-Length: 1".toList ++ crlf) =
      .ok (.inl (some 1)) := by rfl
  have cut : headBytes [longHeader] ++ [97, 98] =
      longFront ++ (headBytes [ascii "Content-Length: 1".toList] ++ [97, 98]) := by
    simp only [longHeader, headBytes, List.flatMap_singleton, List.append_assoc]
  rw [longResponse, foldLines_head_next (fits_short (by decide) (by decide)) first, cut,
    foldLines_cut lineFeed_not_mem_longFront longFront_length (by decide)
      (responseHeader_longFront (some 2)),
    foldLines_head_next (fits_short (by decide) (by decide)) last]
  exact foldLines_head_stop (fits_short (by decide) (by decide)) rfl

/-- For the first byte the client returns the first of the two. -/
theorem readResponse_long : readResponse [] 0 0 ⟨longResponse.bytes, .pending⟩ =
    some (.ok [97], ⟨[98], .pending⟩) :=
  readResponse_first (by decide) rfl headers_long (by decide)

/-- A header longer than `readline` takes hides a content length, and a part of a body is
returned. -/
theorem not_fetches_framed : ¬ ∀ state, (serverSystem sampleConfig Unit).Reachable state →
    ∀ fetch ∈ state.fetches (), fetch.Framed := by
  intro claimed
  obtain ⟨before, reachable, untouched, new⟩ := @untouched_new Unit _ fun _ => True
  obtain ⟨state, ⟨trace, initial, start, path⟩, _, fetches, _, _⟩ :=
    sampleFetch_reached reachable (untouched ()) (congrArg (RangeStore.enter · (0, 1)) new)
      readResponse_long nofun (fun _ _ => trivial) trivial
  have inside : sampleFetch longResponse (.ok [97]) ∈ state.fetches () := by simp [fetches]
  have framed := claimed state ⟨trace, initial, start, path.of_restrict⟩ _ inside
  have body := ((framed.exchanges _ List.mem_cons_self).1.data [97] rfl).2
  exact absurd body (by decide)

end LongHeader

end Upstream
end Proxy
end HermOS
