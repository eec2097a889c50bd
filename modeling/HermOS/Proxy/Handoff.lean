import HermOS.Proxy.Accounting

/-!
# Hand-off from an owner to its waiters

The owner of a `FetchState` holds it from its admission until `event.set()`.  While it is held the
object changes only under its holder, and once the event is set it never changes again; a waiter
reads it only in the second period.  The trace records which fetch produced which result, so the
end of a call can be compared with the end of the fetch it was admitted to.
-/

namespace HermOS
namespace Proxy

variable {Thread Error : Type}

/-- A `FetchState` which carries the result of its fetch. -/
def FetchState.settled (event : Bool) : Except Error Bytes → FetchState Error
  | .ok data => { event, data := some data }
  | .error error => { event, error := some error }

@[simp]
theorem settled_event (event : Bool) (result : Except Error Bytes) :
    (FetchState.settled event result).event = event := by
  cases result <;> rfl

theorem settled_ne_new (event : Bool) (result : Except Error Bytes) :
    FetchState.settled event result ≠ {} := by
  cases result <;> simp [FetchState.settled]

theorem settled_inj {event event' : Bool} {result result' : Except Error Bytes}
    (same : FetchState.settled event result = FetchState.settled event' result') :
    result = result' := by
  cases result <;> cases result' <;> simp_all [FetchState.settled]

/-! ## What the trace says about a fetch -/

/-- The fetch `ref` was started for the key. -/
def Started (trace : List (Label Thread Error)) (ref : ℕ) (key : Key) : Prop :=
  ∃ thread call, .enter thread call (.owner ref) ∈ trace ∧ call.key = key

/-- The fetch `ref` of the key ended with the result. -/
def Fetched (trace : List (Label Thread Error)) (ref : ℕ) (key : Key)
    (result : Except Error Bytes) : Prop :=
  ∃ thread call, .enter thread call (.owner ref) ∈ trace ∧
    .fetchEnd thread call ref result ∈ trace ∧ call.key = key

/-- The outcome of a call is what its admission promises. -/
def Delivers (trace : List (Label Thread Error)) (call : Call) :
    Admission → Outcome Error → Prop
  | .hit data, outcome =>
      outcome = .returned data ∧ ∃ ref, Fetched trace ref call.key (.ok data)
  | .owner ref, outcome | .waiter ref, outcome =>
      ∃ result, Fetched trace ref call.key result ∧ outcome = .ofFetch result

theorem Started.mono {trace : List (Label Thread Error)} {ref : ℕ} {key : Key}
    (started : Started trace ref key) (label : Label Thread Error) :
    Started (trace ++ [label]) ref key := by
  obtain ⟨thread, call, member, same⟩ := started
  exact ⟨thread, call, List.mem_append_left _ member, same⟩

theorem Fetched.mono {trace : List (Label Thread Error)} {ref : ℕ} {key : Key}
    {result : Except Error Bytes} (fetched : Fetched trace ref key result)
    (label : Label Thread Error) : Fetched (trace ++ [label]) ref key result := by
  obtain ⟨thread, call, admitted, ended, same⟩ := fetched
  exact ⟨thread, call, List.mem_append_left _ admitted, List.mem_append_left _ ended, same⟩

theorem Delivers.mono {trace : List (Label Thread Error)} {call : Call} {admission : Admission}
    {outcome : Outcome Error} (delivers : Delivers trace call admission outcome)
    (label : Label Thread Error) : Delivers (trace ++ [label]) call admission outcome := by
  cases admission with
  | hit data =>
      obtain ⟨same, ref, fetched⟩ := delivers
      exact ⟨same, ref, fetched.mono label⟩
  | owner ref | waiter ref =>
      obtain ⟨result, fetched, same⟩ := delivers
      exact ⟨result, fetched.mono label, same⟩

/-! ## Admissions -/

/-- The fetch to which an admission attaches the call. -/
def Admission.ref? : Admission → Option ℕ
  | .hit _ => none
  | .owner ref | .waiter ref => some ref

/-- Calls are numbered, every fetch has one owner, and every active call was admitted. -/
structure Numbered (trace : List (Label Thread Error)) (state : State Thread Error) : Prop where
  inside : ∀ {thread call admission phase},
    state.control thread = .inside call admission phase → .enter thread call admission ∈ trace
  joinable : ∀ {key ref}, state.store.inflight.lookup key = some ref →
    Started trace ref key ∧ ref < state.store.allocated
  number_le : ∀ {thread call admission}, .enter thread call admission ∈ trace →
    call.number ≤ state.store.clientRequests
  call_unique : ∀ {thread call admission thread' call' admission'},
    .enter thread call admission ∈ trace → .enter thread' call' admission' ∈ trace →
    call.number = call'.number → thread = thread' ∧ call = call' ∧ admission = admission'
  ref_lt : ∀ {thread call admission ref}, .enter thread call admission ∈ trace →
    admission.ref? = some ref → ref < state.store.allocated
  owner_unique : ∀ {thread call thread' call' ref}, .enter thread call (.owner ref) ∈ trace →
    .enter thread' call' (.owner ref) ∈ trace → thread = thread' ∧ call = call'
  started : ∀ {thread call ref}, .enter thread call (.waiter ref) ∈ trace →
    Started trace ref call.key

theorem numbered_init (remoteUrl : String) :
    Numbered [] (⟨.init remoteUrl, fun _ => .idle⟩ : State Thread Error) := by
  constructor <;> simp [RangeStore.init]

/-- What an admission section does to the allocations and to `inflight`. -/
theorem enter_allocates {trace : List (Label Thread Error)} {store after : RangeStore Error}
    {call : Call} {admission : Admission} (thread : Thread)
    (joinable : ∀ {key ref}, store.inflight.lookup key = some ref →
      Started trace ref key ∧ ref < store.allocated)
    (admitted : store.enter call.key = (after, admission)) :
    after.clientRequests = store.clientRequests + 1 ∧ store.allocated ≤ after.allocated ∧
      (∀ ref, admission.ref? = some ref → ref < after.allocated ∧
        (admission = .owner ref → ref = store.allocated) ∧
        (admission = .waiter ref → Started trace ref call.key)) ∧
      ∀ key ref, after.inflight.lookup key = some ref →
        Started (trace ++ [.enter thread call admission]) ref key ∧ ref < after.allocated := by
  have kept : ∀ key ref, store.inflight.lookup key = some ref →
      Started (trace ++ [.enter thread call admission]) ref key ∧ ref < store.allocated :=
    fun key ref found => ⟨(joinable found).1.mono _, (joinable found).2⟩
  rcases RangeStore.enter_cases admitted with
    ⟨data, _, rfl, rfl⟩ | ⟨_, unowned, rfl, rfl⟩ | ⟨ref, _, joined, rfl, rfl⟩
  · exact ⟨rfl, le_rfl, by simp [Admission.ref?], kept⟩
  · refine ⟨rfl, Nat.le_succ _, ?_, ?_⟩
    · rintro ref ⟨⟩
      exact ⟨Nat.lt_succ_self _, fun _ => rfl, nofun⟩
    · intro key ref found
      by_cases same : key = call.key
      · subst same
        rw [AList.lookup_insert] at found
        obtain rfl := Option.some.inj found
        exact ⟨⟨thread, call, by simp, rfl⟩, Nat.lt_succ_self _⟩
      · rw [AList.lookup_insert_ne same] at found
        exact ⟨(kept key ref found).1, (kept key ref found).2.trans (Nat.lt_succ_self _)⟩
  · refine ⟨rfl, le_rfl, ?_, kept⟩
    rintro ref' ⟨⟩
    exact ⟨(joinable joined).2, nofun, fun _ => (joinable joined).1⟩

section Steps

variable [DecidableEq Thread]

/-- A step either admits a call or leaves all calls as they were admitted. -/
theorem step_admission {before after : State Thread Error} {label : Label Thread Error}
    (step : Step before label after) :
    (∃ thread call store admission, label = .enter thread call admission ∧
      before.control thread = .idle ∧ call.number = before.store.clientRequests + 1 ∧
      before.store.enter call.key = (store, admission) ∧
      after = before.move store thread (.inside call admission admission.phase)) ∨
    ((∀ thread call admission, label ≠ .enter thread call admission) ∧
      after.store.clientRequests = before.store.clientRequests ∧
      after.store.allocated = before.store.allocated ∧
      (∀ key ref, after.store.inflight.lookup key = some ref →
        before.store.inflight.lookup key = some ref) ∧
      ∀ thread call admission phase, after.control thread = .inside call admission phase →
        ∃ phase', before.control thread = .inside call admission phase') := by
  have kept : ∀ {store thread call admission phase phase'},
      before.control thread = .inside call admission phase →
      ∀ thread' call' admission' phase'',
        (before.move store thread (.inside call admission phase')).control thread' =
          .inside call' admission' phase'' →
        ∃ phase', before.control thread' = .inside call' admission' phase' := by
    intro store thread call admission phase phase' inside thread' call' admission' phase'' now
    by_cases acting : thread' = thread
    · subst acting
      rw [move_control_self] at now
      injection now with same_call same_admission
      subst same_call same_admission
      exact ⟨phase, inside⟩
    · rw [move_control_of_ne _ _ _ acting] at now
      exact ⟨phase'', now⟩
  have popped : ∀ {popped : Key} key ref,
      (before.store.inflight.erase popped).lookup key = some ref →
      before.store.inflight.lookup key = some ref := by
    intro popped key ref found
    by_cases same : key = popped
    · rw [same, AList.lookup_erase] at found
      cases found
    · rwa [AList.lookup_erase_ne same] at found
  cases step with
  | enter idle numbered ordered admitted =>
      exact .inl ⟨_, _, _, _, rfl, idle, numbered, admitted, rfl⟩
  | @leave thread call admission outcome inside =>
      refine .inr ⟨by simp, rfl, rfl, fun _ _ => id, ?_⟩
      intro thread' call' admission' phase' now
      by_cases acting : thread' = thread
      · subst acting
        simp at now
      · rw [move_control_of_ne _ _ _ acting] at now
        exact ⟨phase', now⟩
  | complete inside | abandon inside => exact .inr ⟨by simp, rfl, rfl, popped, kept inside⟩
  | fetchData inside _ | fetchError inside | signal inside | wake inside _ | readError inside _
  | readNoError inside _ | readNoData inside _ | readData inside _ | serve inside _
  | returnData inside _ =>
      exact .inr ⟨by simp, rfl, rfl, fun _ _ => id, kept inside⟩

theorem numbered_step {trace : List (Label Thread Error)} {before after : State Thread Error}
    {label : Label Thread Error} (numbered : Numbered trace before)
    (step : Step before label after) : Numbered (trace ++ [label]) after := by
  rcases step_admission step with
    ⟨thread, call, store, admission, rfl, idle, number, admitted, rfl⟩ |
    ⟨other, requests, allocated, inflight, kept⟩
  · -- an admission: its number and, for an owner, its fetch are new
    obtain ⟨requests, allocated_le, attached, joinable⟩ :=
      enter_allocates thread numbered.joinable admitted
    have new_number : ∀ {thread' call' admission'}, .enter thread' call' admission' ∈ trace →
        call'.number ≠ call.number := by
      intro thread' call' admission' member
      have := numbered.number_le member
      omega
    have new_owner : ∀ {ref thread' call'}, admission = .owner ref →
        .enter thread' call' (.owner ref) ∉ trace := by
      intro ref thread' call' owner member
      have lower := numbered.ref_lt member rfl
      have upper := (attached ref (by rw [owner]; rfl)).2.1 owner
      omega
    refine ⟨?_, fun {key ref} => joinable key ref, ?_, ?_, ?_, ?_, ?_⟩
    · intro thread' call' admission' phase' now
      by_cases acting : thread' = thread
      · subst acting
        rw [move_control_self] at now
        injection now with same_call same_admission
        subst same_call same_admission
        simp
      · rw [move_control_of_ne _ _ _ acting] at now
        exact List.mem_append_left _ (numbered.inside now)
    · intro thread' call' admission' member
      simp only [List.mem_append, List.mem_singleton, Label.enter.injEq] at member
      rw [move_store, requests]
      rcases member with old | ⟨_, rfl, _⟩
      · exact (numbered.number_le old).trans (Nat.le_succ _)
      · exact number.le
    · intro thread₁ call₁ admission₁ thread₂ call₂ admission₂ first second same
      simp only [List.mem_append, List.mem_singleton, Label.enter.injEq] at first second
      rcases first with first | ⟨rfl, rfl, rfl⟩ <;> rcases second with second | ⟨rfl, rfl, rfl⟩
      · exact numbered.call_unique first second same
      · exact (new_number first same).elim
      · exact (new_number second same.symm).elim
      · exact ⟨rfl, rfl, rfl⟩
    · intro thread' call' admission' ref member attaches
      simp only [List.mem_append, List.mem_singleton, Label.enter.injEq] at member
      rcases member with old | ⟨_, rfl, rfl⟩
      · exact (numbered.ref_lt old attaches).trans_le allocated_le
      · exact (attached ref attaches).1
    · intro thread₁ call₁ thread₂ call₂ ref first second
      simp only [List.mem_append, List.mem_singleton, Label.enter.injEq] at first second
      rcases first with first | ⟨rfl, rfl, owner⟩ <;> rcases second with second | ⟨rfl, rfl, owner'⟩
      · exact numbered.owner_unique first second
      · exact (new_owner owner'.symm first).elim
      · exact (new_owner owner.symm second).elim
      · exact ⟨rfl, rfl⟩
    · intro thread' call' ref member
      simp only [List.mem_append, List.mem_singleton, Label.enter.injEq] at member
      rcases member with old | ⟨_, rfl, joins⟩
      · exact (numbered.started old).mono _
      · exact ((attached ref (by rw [← joins]; rfl)).2.2 joins.symm).mono _
  · -- any other step: the admissions are those of the past
    have past : ∀ {thread call admission}, .enter thread call admission ∈ trace ++ [label] →
        .enter thread call admission ∈ trace := by
      intro thread call admission member
      simp only [List.mem_append, List.mem_singleton] at member
      exact member.resolve_right fun same => other _ _ _ same.symm
    refine ⟨?_, ?_, ?_, ?_, ?_, ?_, ?_⟩
    · intro thread call admission phase now
      obtain ⟨phase', was⟩ := kept _ _ _ _ now
      exact List.mem_append_left _ (numbered.inside was)
    · intro key ref found
      obtain ⟨started, lower⟩ := numbered.joinable (inflight key ref found)
      exact ⟨started.mono label, allocated ▸ lower⟩
    · intro thread call admission member
      exact requests ▸ numbered.number_le (past member)
    · intro _ _ _ _ _ _ first second
      exact numbered.call_unique (past first) (past second)
    · intro thread call admission ref member attaches
      exact allocated ▸ numbered.ref_lt (past member) attaches
    · intro _ _ _ _ _ first second
      exact numbered.owner_unique (past first) (past second)
    · intro thread call ref member
      exact (numbered.started (past member)).mono label

end Steps

/-! ## The shared objects -/

/-- The owner's phases before `event.set()`. -/
def Phase.Holds : Phase Error → ℕ → Prop
  | .fetching ref', ref | .fetched ref' _ _, ref | .completed ref' _, ref => ref' = ref
  | _, _ => False

theorem Phase.holds_inj {phase : Phase Error} {ref ref' : ℕ} (held : phase.Holds ref)
    (held' : phase.Holds ref') : ref = ref' := by
  cases phase <;> first | exact held.symm.trans held' | exact held.elim

/-- The thread holds the `FetchState`. -/
def Control.Holds : Control Error → ℕ → Prop
  | .inside _ _ phase, ref => phase.Holds ref
  | .idle, _ => False

theorem holds_of_owns {control : Control Error} {key : Key} {ref : ℕ}
    (owns : control.Owns key ref) : control.Holds ref := by
  rcases control with _ | ⟨call, admission, phase⟩
  · exact owns
  · cases phase <;> first | exact owns.2 | exact False.elim owns

/-- What a thread in the phase knows about its `FetchState`. -/
def Knows (trace : List (Label Thread Error)) (store : RangeStore Error) (call : Call)
    (admission : Admission) : Phase Error → Prop
  | .fetching ref => admission = .owner ref ∧ store.fetchStates ref = {}
  | .fetched ref result _ => admission = .owner ref ∧ store.fetchStates ref = {} ∧
      Fetched trace ref call.key result
  | .completed ref result => admission = .owner ref ∧
      store.fetchStates ref = .settled false result ∧ Fetched trace ref call.key result
  | .waiting ref => admission = .waiter ref
  | .awake ref => admission = .waiter ref ∧ ∃ result,
      store.fetchStates ref = .settled true result ∧ Fetched trace ref call.key result
  | .withoutError ref | .withData ref | .served ref => admission = .waiter ref ∧ ∃ data,
      store.fetchStates ref = .settled true (.ok data) ∧ Fetched trace ref call.key (.ok data)
  | .leaving outcome => Delivers trace call admission outcome

/-- Knowledge survives steps which keep the held and the signalled objects. -/
theorem Knows.frame {trace : List (Label Thread Error)} {store after : RangeStore Error}
    {call : Call} {admission : Admission} {phase : Phase Error}
    (knows : Knows trace store call admission phase) (label : Label Thread Error)
    (same : ∀ ref, phase.Holds ref ∨ (store.fetchStates ref).event = true →
      after.fetchStates ref = store.fetchStates ref) :
    Knows (trace ++ [label]) after call admission phase := by
  cases phase with
  | fetching ref => exact ⟨knows.1, (same ref (.inl rfl)).trans knows.2⟩
  | fetched ref result fetchNs =>
      exact ⟨knows.1, (same ref (.inl rfl)).trans knows.2.1, knows.2.2.mono label⟩
  | completed ref result =>
      exact ⟨knows.1, (same ref (.inl rfl)).trans knows.2.1, knows.2.2.mono label⟩
  | waiting ref => exact knows
  | awake ref =>
      obtain ⟨joined, result, object, fetched⟩ := knows
      exact ⟨joined, result, (same ref (.inr (by simp [object]))).trans object, fetched.mono label⟩
  | withoutError ref | withData ref | served ref =>
      obtain ⟨joined, data, object, fetched⟩ := knows
      exact ⟨joined, data, (same ref (.inr (by simp [object]))).trans object, fetched.mono label⟩
  | leaving outcome => exact Delivers.mono knows label

/-- The objects, their holders and the results in the trace agree. -/
structure Linked (trace : List (Label Thread Error)) (state : State Thread Error) : Prop where
  knows : ∀ {thread call admission phase},
    state.control thread = .inside call admission phase →
      Knows trace state.store call admission phase
  holder_unique : ∀ {thread other ref}, (state.control thread).Holds ref →
    (state.control other).Holds ref → thread = other
  held_lt : ∀ {thread ref}, (state.control thread).Holds ref → ref < state.store.allocated
  unallocated : ∀ {ref}, state.store.allocated ≤ ref → state.store.fetchStates ref = {}
  signalled : ∀ {ref}, (state.store.fetchStates ref).event = true → ∃ result key,
    state.store.fetchStates ref = .settled true result ∧ Fetched trace ref key result
  pending : ∀ {ref}, ref < state.store.allocated →
    (state.store.fetchStates ref).event = true ∨ ∃ thread, (state.control thread).Holds ref
  results : ∀ {thread call ref result}, .fetchEnd thread call ref result ∈ trace →
    (∃ event, state.store.fetchStates ref = .settled event result) ∨
      ∃ holder holderCall fetchNs, state.control holder =
        .inside holderCall (.owner ref) (.fetched ref result fetchNs)

theorem linked_init (remoteUrl : String) :
    Linked [] (⟨.init remoteUrl, fun _ => .idle⟩ : State Thread Error) := by
  constructor <;> simp [RangeStore.init, Control.Holds]

theorem Linked.owner_of_holds {trace : List (Label Thread Error)} {state : State Thread Error}
    (linked : Linked trace state) {thread : Thread} {call : Call} {admission : Admission}
    {phase : Phase Error} {ref : ℕ}
    (inside : state.control thread = .inside call admission phase) (holds : phase.Holds ref) :
    admission = .owner ref := by
  have knows := linked.knows inside
  cases phase <;> first | exact holds ▸ knows.1 | exact holds.elim

/-- A fetch has at most one result. -/
theorem Linked.result_unique {trace : List (Label Thread Error)} {state : State Thread Error}
    (linked : Linked trace state) {ref : ℕ} {thread thread' : Thread} {call call' : Call}
    {result result' : Except Error Bytes} (first : .fetchEnd thread call ref result ∈ trace)
    (second : .fetchEnd thread' call' ref result' ∈ trace) : result = result' := by
  rcases linked.results first with ⟨event, object⟩ | ⟨holder, holderCall, fetchNs, inside⟩ <;>
    rcases linked.results second with ⟨event', object'⟩ | ⟨holder', holderCall', fetchNs', inside'⟩
  · exact settled_inj (object.symm.trans object')
  · exact (settled_ne_new event result (object.symm.trans (linked.knows inside').2.1)).elim
  · exact (settled_ne_new event' result' (object'.symm.trans (linked.knows inside).2.1)).elim
  · have same : holder = holder' :=
      linked.holder_unique (by rw [inside]; rfl) (by rw [inside']; rfl)
    subst same
    rw [inside] at inside'
    injection inside' with _ _ same_phase
    injection same_phase

section Objects

variable [DecidableEq Thread]

/-- A waiter's step, a return, and an admission which makes no owner. -/
theorem linked_observe {trace : List (Label Thread Error)} {state : State Thread Error}
    (linked : Linked trace state) {label : Label Thread Error} {thread : Thread}
    {store : RangeStore Error} {control : Control Error}
    (objects : store.fetchStates = state.store.fetchStates)
    (allocated : store.allocated = state.store.allocated)
    (was_free : ∀ ref, ¬ (state.control thread).Holds ref)
    (is_free : ∀ ref, ¬ control.Holds ref)
    (ends_no_fetch : ∀ thread call ref result, label ≠ .fetchEnd thread call ref result)
    (knows : ∀ {call admission phase}, control = .inside call admission phase →
      Knows (trace ++ [label]) store call admission phase) :
    Linked (trace ++ [label]) (state.move store thread control) := by
  have holds : ∀ other ref, ((state.move store thread control).control other).Holds ref ↔
      (state.control other).Holds ref := by
    intro other ref
    by_cases acting : other = thread
    · subst other
      simp [was_free, is_free]
    · rw [move_control_of_ne _ _ _ acting]
  refine ⟨?_, ?_, ?_, ?_, ?_, ?_, ?_⟩
  · intro other call admission phase now
    by_cases acting : other = thread
    · subst other
      rw [move_control_self] at now
      exact knows now
    · rw [move_control_of_ne _ _ _ acting] at now
      exact (linked.knows now).frame label fun ref _ => congrFun objects ref
  · intro first second ref held₁ held₂
    exact linked.holder_unique ((holds _ _).mp held₁) ((holds _ _).mp held₂)
  · intro other ref held
    rw [move_store, allocated]
    exact linked.held_lt ((holds _ _).mp held)
  · intro ref beyond
    rw [move_store, allocated] at beyond
    rw [move_store, objects]
    exact linked.unallocated beyond
  · intro ref set
    rw [move_store, objects] at set
    obtain ⟨result, key, object, fetched⟩ := linked.signalled set
    exact ⟨result, key, (congrFun objects ref).trans object, fetched.mono label⟩
  · intro ref lower
    rw [move_store, allocated] at lower
    rw [move_store, objects]
    exact (linked.pending lower).imp_right fun ⟨other, held⟩ => ⟨other, (holds _ _).mpr held⟩
  · intro owner call ref result member
    simp only [List.mem_append, List.mem_singleton] at member
    have old := member.resolve_right fun same => ends_no_fetch _ _ _ _ same.symm
    rw [move_store, objects]
    refine (linked.results old).imp_right ?_
    rintro ⟨holder, holderCall, fetchNs, inside⟩
    have acting : holder ≠ thread := by
      rintro rfl
      exact was_free ref (by rw [inside]; rfl)
    exact ⟨holder, holderCall, fetchNs, by rwa [move_control_of_ne _ _ _ acting]⟩

/-- The end of a fetch is recorded in the trace before the object carries it. -/
theorem linked_fetchEnd {trace : List (Label Thread Error)} {state : State Thread Error}
    (numbered : Numbered trace state) (linked : Linked trace state) {thread : Thread}
    {call : Call} {admission : Admission} {ref : ℕ} (result : Except Error Bytes) (fetchNs : ℕ)
    (inside : state.control thread = .inside call admission (.fetching ref)) :
    Linked (trace ++ [.fetchEnd thread call ref result])
      (state.move state.store thread (.inside call admission (.fetched ref result fetchNs))) := by
  obtain ⟨owner, object⟩ := linked.knows inside
  subst owner
  have holds : ∀ other ref', ((state.move state.store thread
      (.inside call (.owner ref) (.fetched ref result fetchNs))).control other).Holds ref' ↔
      (state.control other).Holds ref' := by
    intro other ref'
    by_cases acting : other = thread
    · subst other
      rw [move_control_self, inside]
      rfl
    · rw [move_control_of_ne _ _ _ acting]
  have fetched : Fetched (trace ++ [.fetchEnd thread call ref result]) ref call.key result :=
    ⟨thread, call, List.mem_append_left _ (numbered.inside inside), by simp, rfl⟩
  refine ⟨?_, ?_, ?_, linked.unallocated, ?_, ?_, ?_⟩
  · intro other call' admission' phase' now
    by_cases acting : other = thread
    · subst other
      rw [move_control_self] at now
      injection now with same_call same_admission same_phase
      subst same_call same_admission same_phase
      exact ⟨rfl, object, fetched⟩
    · rw [move_control_of_ne _ _ _ acting] at now
      exact (linked.knows now).frame _ fun _ _ => rfl
  · intro first second ref' held₁ held₂
    exact linked.holder_unique ((holds _ _).mp held₁) ((holds _ _).mp held₂)
  · intro other ref' held
    exact linked.held_lt ((holds _ _).mp held)
  · intro ref' set
    obtain ⟨result', key, object', fetched'⟩ := linked.signalled set
    exact ⟨result', key, object', fetched'.mono _⟩
  · intro ref' lower
    exact (linked.pending lower).imp_right fun ⟨other, held⟩ => ⟨other, (holds _ _).mpr held⟩
  · intro thread' call' ref' result' member
    simp only [List.mem_append, List.mem_singleton, Label.fetchEnd.injEq] at member
    rcases member with old | ⟨rfl, rfl, rfl, rfl⟩
    · refine (linked.results old).imp_right ?_
      rintro ⟨holder, holderCall, ns, fetchedBefore⟩
      have acting : holder ≠ thread := by
        rintro rfl
        rw [inside] at fetchedBefore
        cases fetchedBefore
      exact ⟨holder, holderCall, ns, by rwa [move_control_of_ne _ _ _ acting]⟩
    · exact .inr ⟨thread', call', fetchNs, by rw [move_control_self]⟩

/-- A holder writes the result of its fetch into its object, and releases it if the event is set. -/
theorem linked_write {trace : List (Label Thread Error)} {state : State Thread Error}
    (linked : Linked trace state) {label : Label Thread Error} {thread : Thread} {call : Call}
    {admission : Admission} {phase phase' : Phase Error} {ref : ℕ} (event : Bool)
    (result : Except Error Bytes) {store : RangeStore Error}
    (inside : state.control thread = .inside call admission phase) (holds : phase.Holds ref)
    (unset : (state.store.fetchStates ref).event = false)
    (objects : store.fetchStates =
      Function.update state.store.fetchStates ref (.settled event result))
    (allocated : store.allocated = state.store.allocated)
    (fetched : Fetched trace ref call.key result)
    (agrees : ∀ result', (∃ event', state.store.fetchStates ref = .settled event' result') ∨
      (∃ fetchNs, phase = .fetched ref result' fetchNs) → result' = result)
    (holds_after : ∀ ref', phase'.Holds ref' → ref' = ref)
    (released : event = true ∨ phase'.Holds ref)
    (ends_no_fetch : ∀ thread call ref result, label ≠ .fetchEnd thread call ref result)
    (knows : Knows (trace ++ [label]) store call admission phase') :
    Linked (trace ++ [label]) (state.move store thread (.inside call admission phase')) := by
  have held : (state.control thread).Holds ref := by rw [inside]; exact holds
  have others : ∀ {other ref'}, other ≠ thread → (state.control other).Holds ref' → ref' ≠ ref := by
    rintro other ref' different held' rfl
    exact different (linked.holder_unique held' held)
  have holds_before : ∀ {other ref'},
      ((state.move store thread (.inside call admission phase')).control other).Holds ref' →
        (state.control other).Holds ref' := by
    intro other ref' held'
    by_cases acting : other = thread
    · subst other
      rw [move_control_self] at held'
      rw [holds_after ref' held']
      exact held
    · rwa [move_control_of_ne _ _ _ acting] at held'
  have elsewhere : ∀ {ref'}, ref' ≠ ref →
      store.fetchStates ref' = state.store.fetchStates ref' := by
    intro ref' different
    rw [objects, Function.update_of_ne different]
  have written : store.fetchStates ref = .settled event result := by
    rw [objects, Function.update_self]
  refine ⟨?_, ?_, ?_, ?_, ?_, ?_, ?_⟩
  · intro other call' admission' phase'' now
    by_cases acting : other = thread
    · subst other
      rw [move_control_self] at now
      injection now with same_call same_admission same_phase
      subst same_call same_admission same_phase
      exact knows
    · rw [move_control_of_ne _ _ _ acting] at now
      refine (linked.knows now).frame label fun ref' kept => elsewhere ?_
      rintro rfl
      rcases kept with held' | set
      · exact others acting (by rw [now]; exact held') rfl
      · rw [unset] at set
        cases set
  · intro first second ref' held₁ held₂
    exact linked.holder_unique (holds_before held₁) (holds_before held₂)
  · intro other ref' held'
    rw [move_store, allocated]
    exact linked.held_lt (holds_before held')
  · intro ref' beyond
    rw [move_store, allocated] at beyond
    have lower := linked.held_lt held
    rw [move_store, elsewhere (by omega)]
    exact linked.unallocated beyond
  · intro ref' set
    rw [move_store] at set ⊢
    by_cases same : ref' = ref
    · subst same
      rw [written, settled_event] at set
      subst set
      exact ⟨result, call.key, written, fetched.mono label⟩
    · rw [elsewhere same] at set ⊢
      obtain ⟨result', key, object, fetched'⟩ := linked.signalled set
      exact ⟨result', key, object, fetched'.mono label⟩
  · intro ref' lower
    rw [move_store, allocated] at lower
    by_cases same : ref' = ref
    · subst same
      rcases released with rfl | still
      · exact .inl (by rw [move_store, written, settled_event])
      · exact .inr ⟨thread, by rw [move_control_self]; exact still⟩
    · rw [move_store, elsewhere same]
      refine (linked.pending lower).imp_right fun ⟨other, held'⟩ => ⟨other, ?_⟩
      have acting : other ≠ thread := by
        rintro rfl
        rw [inside] at held'
        exact same (Phase.holds_inj held' holds)
      rwa [move_control_of_ne _ _ _ acting]
  · intro thread' call' ref' result' member
    simp only [List.mem_append, List.mem_singleton] at member
    have old := member.resolve_right fun same => ends_no_fetch _ _ _ _ same.symm
    rw [move_store]
    by_cases same : ref' = ref
    · subst same
      refine .inl ⟨event, ?_⟩
      have equal : result' = result := by
        refine agrees result' ((linked.results old).imp_right ?_)
        rintro ⟨holder, holderCall, fetchNs, fetchedBefore⟩
        have same_thread : holder = thread :=
          linked.holder_unique (by rw [fetchedBefore]; rfl) held
        subst same_thread
        rw [inside] at fetchedBefore
        injection fetchedBefore with _ _ same_phase
        exact ⟨fetchNs, same_phase⟩
      rw [written, equal]
    · rw [elsewhere same]
      refine (linked.results old).imp_right ?_
      rintro ⟨holder, holderCall, fetchNs, fetchedBefore⟩
      have acting : holder ≠ thread := by
        rintro rfl
        rw [inside] at fetchedBefore
        injection fetchedBefore with _ _ same_phase
        subst same_phase
        exact same holds
      exact ⟨holder, holderCall, fetchNs, by rwa [move_control_of_ne _ _ _ acting]⟩

/-- A new owner holds a new object. -/
theorem linked_acquire {trace : List (Label Thread Error)} {state : State Thread Error}
    (linked : Linked trace state) {thread : Thread}
    {call : Call} {store : RangeStore Error} (idle : state.control thread = .idle)
    (objects : store.fetchStates =
      Function.update state.store.fetchStates state.store.allocated {})
    (allocated : store.allocated = state.store.allocated + 1) :
    Linked (trace ++ [.enter thread call (.owner state.store.allocated)])
      (state.move store thread (.inside call (.owner state.store.allocated)
        (Admission.owner state.store.allocated).phase)) := by
  have unchanged : store.fetchStates = state.store.fetchStates := by
    rw [objects, Function.update_eq_self_iff, linked.unallocated le_rfl]
  have holds : ∀ {other ref},
      ((state.move store thread (.inside call (.owner state.store.allocated)
        (Admission.owner state.store.allocated).phase)).control other).Holds ref →
      (other = thread ∧ ref = state.store.allocated) ∨
        (other ≠ thread ∧ (state.control other).Holds ref) := by
    intro other ref held
    by_cases acting : other = thread
    · subst other
      rw [move_control_self] at held
      exact .inl ⟨rfl, held.symm⟩
    · rw [move_control_of_ne _ _ _ acting] at held
      exact .inr ⟨acting, held⟩
  refine ⟨?_, ?_, ?_, ?_, ?_, ?_, ?_⟩
  · intro other call' admission' phase' now
    by_cases acting : other = thread
    · subst other
      rw [move_control_self] at now
      injection now with same_call same_admission same_phase
      subst same_call same_admission same_phase
      exact ⟨rfl, by rw [move_store, unchanged, linked.unallocated le_rfl]⟩
    · rw [move_control_of_ne _ _ _ acting] at now
      exact (linked.knows now).frame _ fun ref _ => congrFun unchanged ref
  · intro first second ref held₁ held₂
    rcases holds held₁ with ⟨first_acts, new₁⟩ | ⟨_, old₁⟩ <;>
      rcases holds held₂ with ⟨second_acts, new₂⟩ | ⟨_, old₂⟩
    · rw [first_acts, second_acts]
    · exact (lt_irrefl _ (new₁ ▸ linked.held_lt old₂)).elim
    · exact (lt_irrefl _ (new₂ ▸ linked.held_lt old₁)).elim
    · exact linked.holder_unique old₁ old₂
  · intro other ref held
    rw [move_store, allocated]
    rcases holds held with ⟨_, rfl⟩ | ⟨_, held⟩
    · exact Nat.lt_succ_self _
    · exact (linked.held_lt held).trans (Nat.lt_succ_self _)
  · intro ref beyond
    rw [move_store, allocated] at beyond
    rw [move_store, unchanged]
    exact linked.unallocated (by omega)
  · intro ref set
    rw [move_store, unchanged] at set ⊢
    obtain ⟨result, key, object, fetched⟩ := linked.signalled set
    exact ⟨result, key, object, fetched.mono _⟩
  · intro ref lower
    rw [move_store, allocated] at lower
    rcases Nat.lt_succ_iff_lt_or_eq.mp lower with old | rfl
    · rw [move_store, unchanged]
      refine (linked.pending old).imp_right fun ⟨other, held⟩ => ⟨other, ?_⟩
      have acting : other ≠ thread := by
        rintro rfl
        rw [idle] at held
        exact held
      rwa [move_control_of_ne _ _ _ acting]
    · exact .inr ⟨thread, by rw [move_control_self]; rfl⟩
  · intro thread' call' ref result member
    simp only [List.mem_append, List.mem_singleton, reduceCtorEq, or_false] at member
    rw [move_store, unchanged]
    refine (linked.results member).imp_right ?_
    rintro ⟨holder, holderCall, fetchNs, inside⟩
    have acting : holder ≠ thread := by
      rintro rfl
      rw [idle] at inside
      cases inside
    exact ⟨holder, holderCall, fetchNs, by rwa [move_control_of_ne _ _ _ acting]⟩

/-- `linked_observe` for a thread which stays inside its call. -/
theorem linked_waiter {trace : List (Label Thread Error)} {state : State Thread Error}
    (linked : Linked trace state) {label : Label Thread Error} {thread : Thread} {call : Call}
    {admission : Admission} {phase phase' : Phase Error} {store : RangeStore Error}
    (inside : state.control thread = .inside call admission phase)
    (objects : store.fetchStates = state.store.fetchStates)
    (allocated : store.allocated = state.store.allocated)
    (was_free : ∀ {ref}, ¬ phase.Holds ref) (is_free : ∀ {ref}, ¬ phase'.Holds ref)
    (ends_no_fetch : ∀ thread call ref result, label ≠ .fetchEnd thread call ref result)
    (knows : Knows (trace ++ [label]) store call admission phase') :
    Linked (trace ++ [label]) (state.move store thread (.inside call admission phase')) := by
  refine linked_observe linked objects allocated ?_ (fun _ => is_free) ends_no_fetch ?_
  · rw [inside]
    exact fun _ => was_free
  · rintro _ _ _ ⟨⟩
    exact knows

/-- An object still new agrees with the result its holder fetched. -/
theorem agrees_fetched {store : RangeStore Error} {ref : ℕ} {result : Except Error Bytes}
    {fetchNs : ℕ} (object : store.fetchStates ref = {}) (result' : Except Error Bytes) :
    (∃ event, store.fetchStates ref = .settled event result') ∨
      (∃ fetchNs', Phase.fetched ref result fetchNs = .fetched ref result' fetchNs') →
    result' = result := by
  rintro (⟨event, settled⟩ | ⟨fetchNs', ⟨⟩⟩)
  · exact (settled_ne_new event result' (settled.symm.trans object)).elim
  · rfl

/-- Cached bytes come from a fetch of their key. -/
def CacheFetched (trace : List (Label Thread Error)) (store : RangeStore Error) : Prop :=
  ∀ key data, store.cache.lookup key = some data → ∃ ref, Fetched trace ref key (.ok data)

theorem linked_step {trace : List (Label Thread Error)} {before after : State Thread Error}
    {label : Label Thread Error} (numbered : Numbered trace before) (linked : Linked trace before)
    (cached : CacheFetched trace before.store) (step : Step before label after) :
    Linked (trace ++ [label]) after := by
  cases step with
  | @enter thread call store admission idle number ordered admitted =>
      have was_free : ∀ ref, ¬ (before.control thread).Holds ref := fun ref held => by
        rw [idle] at held
        exact held
      rcases RangeStore.enter_cases admitted with
        ⟨data, found, rfl, rfl⟩ | ⟨_, _, rfl, rfl⟩ | ⟨ref, _, _, rfl, rfl⟩
      · refine linked_observe linked rfl rfl was_free (fun _ => id) (by simp) ?_
        rintro _ _ _ ⟨⟩
        obtain ⟨ref, fetched⟩ := cached call.key data found
        exact ⟨rfl, ref, fetched.mono _⟩
      · exact linked_acquire linked idle rfl rfl
      · refine linked_observe linked rfl rfl was_free (fun _ => id) (by simp) ?_
        rintro _ _ _ ⟨⟩
        rfl
  | fetchData inside _ | fetchError inside => exact linked_fetchEnd numbered linked _ _ inside
  | @complete thread call admission ref data fetchNs inside =>
      obtain ⟨owner, object, fetched⟩ := linked.knows inside
      have objects : (before.store.complete call.key ref data fetchNs).fetchStates =
          Function.update before.store.fetchStates ref (.settled false (.ok data)) := by
        simp [RangeStore.complete, object, FetchState.settled]
      exact linked_write linked false (.ok data) inside rfl (by rw [object]) objects rfl fetched
        (agrees_fetched object) (fun _ => Eq.symm) (.inr rfl) (by simp)
        ⟨owner, by rw [objects, Function.update_self], fetched.mono _⟩
  | @abandon thread call admission ref error fetchNs inside =>
      obtain ⟨owner, object, fetched⟩ := linked.knows inside
      have objects : (before.store.abandon call.key ref error).fetchStates =
          Function.update before.store.fetchStates ref (.settled false (.error error)) := by
        simp [RangeStore.abandon, object, FetchState.settled]
      exact linked_write linked false (.error error) inside rfl (by rw [object]) objects rfl fetched
        (agrees_fetched object) (fun _ => Eq.symm) (.inr rfl) (by simp)
        ⟨owner, by rw [objects, Function.update_self], fetched.mono _⟩
  | @signal thread call admission ref result inside =>
      obtain ⟨owner, object, fetched⟩ := linked.knows inside
      have objects : (before.store.setEvent ref).fetchStates =
          Function.update before.store.fetchStates ref (.settled true result) := by
        cases result <;> simp [RangeStore.setEvent, object, FetchState.settled]
      refine linked_write linked true result inside rfl (by rw [object, settled_event]) objects rfl
        fetched ?_ (fun _ => False.elim) (.inl rfl) (by simp) ?_
      · rintro result' (⟨event, settled⟩ | ⟨fetchNs, ⟨⟩⟩)
        exact settled_inj (settled.symm.trans object)
      · subst owner
        exact ⟨result, fetched.mono _, rfl⟩
  | @wake thread call admission ref inside set =>
      have joined := linked.knows inside
      subst joined
      obtain ⟨result, key, object, fetched⟩ := linked.signalled set
      have same_key : key = call.key := by
        obtain ⟨owner, ownerCall, admitted, _, rfl⟩ := fetched
        obtain ⟨owner', ownerCall', admitted', same⟩ := numbered.started (numbered.inside inside)
        rw [(numbered.owner_unique admitted admitted').2, same]
      subst same_key
      exact linked_waiter linked inside rfl rfl id id (by simp)
        ⟨rfl, result, object, fetched.mono _⟩
  | @readError thread call admission ref error inside found =>
      obtain ⟨joined, result, object, fetched⟩ := linked.knows inside
      subst joined
      refine linked_waiter linked inside rfl rfl id id (by simp) ⟨result, fetched.mono _, ?_⟩
      cases result <;> simp_all [FetchState.settled, Outcome.ofFetch]
  | @readNoError thread call admission ref inside absent =>
      obtain ⟨joined, result, object, fetched⟩ := linked.knows inside
      cases result with
      | ok data =>
          exact linked_waiter linked inside rfl rfl id id (by simp)
            ⟨joined, data, object, fetched.mono _⟩
      | error error => simp [object, FetchState.settled] at absent
  | @readNoData thread call admission ref inside absent =>
      obtain ⟨_, data, object, _⟩ := linked.knows inside
      simp [object, FetchState.settled] at absent
  | @readData thread call admission ref data inside found =>
      obtain ⟨joined, data', object, fetched⟩ := linked.knows inside
      exact linked_waiter linked inside rfl rfl id id (by simp)
        ⟨joined, data', object, fetched.mono _⟩
  | @serve thread call admission ref data inside found =>
      obtain ⟨joined, data', object, fetched⟩ := linked.knows inside
      exact linked_waiter linked inside rfl rfl id id (by simp)
        ⟨joined, data', object, fetched.mono _⟩
  | @returnData thread call admission ref data inside found =>
      obtain ⟨joined, data', object, fetched⟩ := linked.knows inside
      subst joined
      refine linked_waiter linked inside rfl rfl id id (by simp) ⟨.ok data', fetched.mono _, ?_⟩
      simp_all [FetchState.settled, Outcome.ofFetch]
  | @leave thread call admission outcome inside =>
      refine linked_observe linked rfl rfl ?_ (fun _ => id) (by simp) (by rintro _ _ _ ⟨⟩)
      rw [inside]
      exact fun _ => id

/-! ## The run invariant -/

/-- The inductive invariant behind the hand-off laws. -/
structure Handed (trace : List (Label Thread Error)) (state : State Thread Error) : Prop where
  accounted : Accounted state
  numbered : Numbered trace state
  linked : Linked trace state
  cached : CacheFetched trace state.store
  left : ∀ {thread call admission outcome}, .leave thread call admission outcome ∈ trace →
    .enter thread call admission ∈ trace ∧ Delivers trace call admission outcome

theorem cacheFetched_step {trace : List (Label Thread Error)} {before after : State Thread Error}
    {label : Label Thread Error} (linked : Linked trace before)
    (cached : CacheFetched trace before.store) (step : Step before label after) :
    CacheFetched (trace ++ [label]) after.store := by
  have old : CacheFetched (trace ++ [label]) before.store := by
    intro key data found
    obtain ⟨ref, fetched⟩ := cached key data found
    exact ⟨ref, fetched.mono label⟩
  cases step with
  | enter idle numbered ordered admitted =>
      rcases RangeStore.enter_cases admitted with
        ⟨_, _, _, rfl⟩ | ⟨_, _, _, rfl⟩ | ⟨_, _, _, _, rfl⟩ <;> exact old
  | @complete thread call admission ref data fetchNs inside =>
      intro key data' found
      simp only [move_store, RangeStore.complete] at found
      by_cases same : key = call.key
      · subst same
        rw [AList.lookup_insert] at found
        obtain rfl := Option.some.inj found
        exact ⟨ref, (linked.knows inside).2.2.mono _⟩
      · rw [AList.lookup_insert_ne same] at found
        exact old key data' found
  | _ => exact old

theorem handed_step {trace : List (Label Thread Error)} {before after : State Thread Error}
    {label : Label Thread Error} (handed : Handed trace before)
    (step : Step before label after) : Handed (trace ++ [label]) after := by
  obtain ⟨accounted, numbered, linked, cached, left⟩ := handed
  refine ⟨accounted_step accounted step, numbered_step numbered step,
    linked_step numbered linked cached step, cacheFetched_step linked cached step, ?_⟩
  intro thread call admission outcome member
  simp only [List.mem_append, List.mem_singleton] at member
  rcases member with old | rfl
  · exact ⟨List.mem_append_left _ (left old).1, (left old).2.mono label⟩
  · cases step with
    | leave inside =>
        exact ⟨List.mem_append_left _ (numbered.inside inside),
          Delivers.mono (linked.knows inside) _⟩

theorem handed_run {trace : List (Label Thread Error)} {state : State Thread Error}
    (run : (rangeStoreSystem Thread Error).Run trace state) : Handed trace state := by
  obtain ⟨_, ⟨remoteUrl, rfl⟩, path⟩ := run
  have start : Handed [] (⟨.init remoteUrl, fun _ => .idle⟩ : State Thread Error) :=
    ⟨⟨owned_init remoteUrl, RangeStore.counted_init remoteUrl⟩, numbered_init remoteUrl,
      linked_init remoteUrl, by simp [CacheFetched, RangeStore.init], by simp⟩
  exact path.invariant_trace Handed handed_step start

/-! ## Retired fetches -/

/-- A fetch which no later call can be admitted to; its key is only fetched by newer ones. -/
structure Retired (ref : ℕ) (key : Key) (state : State Thread Error) : Prop where
  allocated : ref < state.store.allocated
  unlisted : ∀ key', state.store.inflight.lookup key' ≠ some ref
  newer : ∀ ref', state.store.inflight.lookup key = some ref' → ref < ref'

theorem retired_step {ref : ℕ} {key : Key} {before after : State Thread Error}
    {label : Label Thread Error} (retired : Retired ref key before)
    (step : Step before label after) : Retired ref key after := by
  obtain ⟨allocated, unlisted, newer⟩ := retired
  rcases step_admission step with
    ⟨thread, call, store, admission, rfl, _, _, admitted, rfl⟩ |
    ⟨_, _, same_allocated, inflight, _⟩
  · rcases RangeStore.enter_cases admitted with
      ⟨_, _, _, rfl⟩ | ⟨_, _, _, rfl⟩ | ⟨_, _, _, _, rfl⟩
    · exact ⟨allocated, unlisted, newer⟩
    · refine ⟨allocated.trans (Nat.lt_succ_self _), fun key' found => ?_, fun ref' found => ?_⟩
      · by_cases same : key' = call.key
        · rw [same, move_store, AList.lookup_insert] at found
          exact allocated.ne' (Option.some.inj found)
        · rw [move_store, AList.lookup_insert_ne same] at found
          exact unlisted key' found
      · by_cases same : key = call.key
        · rw [same, move_store, AList.lookup_insert] at found
          exact Option.some.inj found ▸ allocated
        · rw [move_store, AList.lookup_insert_ne same] at found
          exact newer ref' found
    · exact ⟨allocated, unlisted, newer⟩
  · exact ⟨same_allocated ▸ allocated, fun key' found => unlisted key' (inflight _ _ found),
      fun ref' found => newer ref' (inflight _ _ found)⟩

/-- How a call can be admitted once the fetch `ref` of the key is retired. -/
def Label.AdmitsPast (ref : ℕ) (key : Key) : Label Thread Error → Prop
  | .enter _ call admission => admission.ref? ≠ some ref ∧
      (call.key = key → (∃ data, admission = .hit data) ∨
        ∃ ref', ref < ref' ∧ (admission = .waiter ref' ∨ admission = .owner ref'))
  | _ => True

theorem entersPast_of_retired {ref : ℕ} {key : Key} {before after : State Thread Error}
    {label : Label Thread Error} (retired : Retired ref key before)
    (step : Step before label after) : label.AdmitsPast ref key := by
  cases step with
  | @enter thread call store admission idle numbered ordered admitted =>
      rcases RangeStore.enter_cases admitted with
        ⟨data, _, rfl, _⟩ | ⟨_, _, rfl, _⟩ | ⟨ref', _, joined, rfl, _⟩
      · exact ⟨nofun, fun _ => .inl ⟨data, rfl⟩⟩
      · exact ⟨fun same => retired.allocated.ne' (Option.some.inj same),
          fun _ => .inr ⟨_, retired.allocated, .inr rfl⟩⟩
      · refine ⟨fun same => ?_, fun same => .inr ⟨ref', ?_, .inl rfl⟩⟩
        · exact retired.unlisted call.key (Option.some.inj same ▸ joined)
        · exact retired.newer ref' (same ▸ joined)
  | _ => trivial

/-- The failure section retires its fetch and leaves its key out of both maps. -/
theorem retired_abandon {trace : List (Label Thread Error)} {before after : State Thread Error}
    {thread : Thread} {call : Call} {ref : ℕ} (handed : Handed trace before)
    (step : Step before (.abandon thread call ref) after) :
    Retired ref call.key after ∧ call.key ∉ after.store.cache := by
  cases step with
  | @abandon _ _ admission _ error fetchNs inside =>
      have held := owns_fetched inside
      have absent := (handed.accounted.owned.maps held).2
      refine ⟨⟨handed.linked.held_lt (by rw [inside]; rfl), fun key found => ?_,
        fun ref' found => ?_⟩, absent⟩
      · simp only [move_store, RangeStore.abandon] at found
        by_cases same : key = call.key
        · rw [same, AList.lookup_erase] at found
          cases found
        · rw [AList.lookup_erase_ne same] at found
          obtain ⟨other, held'⟩ := (handed.accounted.owned.inflight_iff key ref).mp found
          have acting : other = thread :=
            handed.linked.holder_unique (holds_of_owns held') (holds_of_owns held)
          rw [acting, inside] at held'
          exact same held'.1.symm
      · simp only [move_store, RangeStore.abandon, AList.lookup_erase] at found
        cases found

/-- The hand-off laws of `get_range` at the end of a run. -/
structure HandoffLaws (trace : List (Label Thread Error)) (state : State Thread Error) :
    Prop where
  /-- A call ends as it was admitted; its number identifies it. -/
  call_admitted : ∀ thread call admission outcome,
    .leave thread call admission outcome ∈ trace →
      .enter thread call admission ∈ trace ∧ ∀ thread' call' admission',
        .enter thread' call' admission' ∈ trace → call'.number = call.number →
          thread' = thread ∧ call' = call ∧ admission' = admission
  /-- Returned bytes are those of one successful fetch of the same key. -/
  returned_bytes : ∀ thread call admission data,
    .leave thread call admission (.returned data) ∈ trace →
      ∃ ref, Fetched trace ref call.key (.ok data)
  /-- A call which joined a fetch ends like the owner of that fetch. -/
  joined_outcome : ∀ thread call ref outcome,
    .leave thread call (.waiter ref) outcome ∈ trace →
      ∃ result, Fetched trace ref call.key result ∧ outcome = .ofFetch result ∧
        ∀ owner ownerCall outcome', .leave owner ownerCall (.owner ref) outcome' ∈ trace →
          outcome' = outcome
  /-- The branch `range fetch completed without data` is never taken. -/
  data_present : ∀ thread call admission,
    state.control thread ≠ .inside call admission (.leaving .withoutData)
  /-- A blocked waiter's owner is still inside `get_range`, before its `event.set()`. -/
  owner_present : ∀ thread call admission ref,
    state.control thread = .inside call admission (.waiting ref) →
      (state.store.fetchStates ref).event = true ∨
        ∃ owner ownerCall phase, state.control owner = .inside ownerCall (.owner ref) phase ∧
          phase.Holds ref
  /-- A failure section leaves nothing cached for its key. -/
  failed_uncached : ∀ thread call ref after, Step state (.abandon thread call ref) after →
    call.key ∉ after.store.cache
  /-- A call admitted after a failure section hits the cache or attaches to another fetch, a newer
  one if it asks for the same key. -/
  failed_retired : ∀ front thread call ref back,
    trace = front ++ .abandon thread call ref :: back →
      ∀ label ∈ back, label.AdmitsPast ref call.key
  /-- A call admitted after a failure section never receives the error of that fetch. -/
  failed_not_received : ∀ front thread call ref back,
    trace = front ++ .abandon thread call ref :: back →
      ∀ later laterCall admission error, .enter later laterCall admission ∈ back →
        .leave later laterCall admission (.raised error) ∈ trace →
          ∃ ref', ref' ≠ ref ∧ admission.ref? = some ref' ∧
            Fetched trace ref' laterCall.key (.error error)

theorem failed_retired_of_run {front back : List (Label Thread Error)}
    {state : State Thread Error} {thread : Thread} {call : Call} {ref : ℕ}
    (run : (rangeStoreSystem Thread Error).Run (front ++ .abandon thread call ref :: back) state) :
    ∀ label ∈ back, label.AdmitsPast ref call.key := by
  obtain ⟨middle, first, rest⟩ := run.split
  cases rest with
  | cons step rest =>
      exact rest.forall_label (Retired ref call.key) retired_step entersPast_of_retired
        (retired_abandon (handed_run first) step).1

/-- Every interleaving of `get_range` calls obeys the hand-off laws. -/
theorem getRange_handoff {trace : List (Label Thread Error)} {state : State Thread Error}
    (run : (rangeStoreSystem Thread Error).Run trace state) : HandoffLaws trace state := by
  have handed := handed_run run
  obtain ⟨_, numbered, linked, _, left⟩ := handed
  refine ⟨?_, ?_, ?_, ?_, ?_, ?_, ?_, ?_⟩
  · intro thread call admission outcome member
    refine ⟨(left member).1, fun thread' call' admission' admitted number => ?_⟩
    exact numbered.call_unique admitted (left member).1 number
  · intro thread call admission data member
    have delivers := (left member).2
    cases admission with
    | hit cached =>
        obtain ⟨⟨⟩, ref, fetched⟩ := delivers
        exact ⟨ref, fetched⟩
    | owner ref | waiter ref =>
        obtain ⟨result, fetched, same⟩ := delivers
        cases result with
        | ok data' =>
            obtain ⟨⟩ := same
            exact ⟨ref, fetched⟩
        | error error => cases same
  · intro thread call ref outcome member
    obtain ⟨result, fetched, same⟩ := (left member).2
    refine ⟨result, fetched, same, fun owner ownerCall outcome' member' => ?_⟩
    obtain ⟨result', fetched', rfl⟩ := (left member').2
    obtain ⟨_, _, _, ended, _⟩ := fetched
    obtain ⟨_, _, _, ended', _⟩ := fetched'
    rw [same, linked.result_unique ended ended']
  · intro thread call admission inside
    have delivers : Delivers trace call admission .withoutData := linked.knows inside
    cases admission with
    | hit cached => cases delivers.1
    | owner ref | waiter ref =>
        obtain ⟨result, _, same⟩ := delivers
        cases result <;> cases same
  · intro thread call admission ref inside
    have joined := linked.knows inside
    subst joined
    refine (linked.pending (numbered.ref_lt (numbered.inside inside) rfl)).imp_right ?_
    rintro ⟨owner, held⟩
    cases control : state.control owner with
    | idle =>
        rw [control] at held
        exact held.elim
    | inside ownerCall ownerAdmission phase =>
        rw [control] at held
        refine ⟨owner, ownerCall, phase, ?_, held⟩
        rw [control, linked.owner_of_holds control held]
  · intro thread call ref after step
    exact (retired_abandon (handed_run run) step).2
  · rintro front thread call ref back rfl
    exact failed_retired_of_run run
  · rintro front thread call ref back rfl later laterCall admission error admitted member
    have past : admission.ref? ≠ some ref := (failed_retired_of_run run _ admitted).1
    have delivers := (left member).2
    cases admission with
    | hit cached => cases delivers.1
    | owner ref' | waiter ref' =>
        obtain ⟨result, fetched, same⟩ := delivers
        cases result with
        | ok data => cases same
        | error error' =>
            obtain ⟨⟩ := same
            exact ⟨ref', fun equal => past (by rw [equal]; rfl), rfl, fetched⟩

/-- The owner of `0-1` fails, its waiter receives the error, and a retry owns a new fetch. -/
def failedFetch : List (Label Bool String) :=
  [.enter false ⟨1, 0, 1⟩ (.owner 0), .enter true ⟨2, 0, 1⟩ (.waiter 0),
    .fetchEnd false ⟨1, 0, 1⟩ 0 (.error "upstream closed connection"),
    .abandon false ⟨1, 0, 1⟩ 0, .signal false 0,
    .leave false ⟨1, 0, 1⟩ (.owner 0) (.raised "upstream closed connection"),
    .enter false ⟨3, 0, 1⟩ (.owner 1), .wait true, .wait true,
    .leave true ⟨2, 0, 1⟩ (.waiter 0) (.raised "upstream closed connection")]

theorem failedFetch_run : ∃ state, (rangeStoreSystem Bool String).Run failedFetch state ∧
    state.store.stats.remoteErrors = 1 := by
  refine ⟨_, ⟨_, ⟨"http://upstream/memory", rfl⟩,
    .cons (.enter rfl rfl (by decide) rfl) (.cons (.enter rfl rfl (by decide) rfl)
      (.cons (@Step.fetchError _ _ _ _ _ _ _ _ _ 5 rfl) (.cons (.abandon rfl)
        (.cons (.signal rfl) (.cons (.leave rfl) (.cons (.enter rfl rfl (by decide) rfl)
          (.cons (.wake rfl rfl) (.cons (.readError rfl rfl)
            (.cons (.leave rfl) (.nil _))))))))))⟩, rfl⟩

theorem getRange_handoff_failedFetch :
    ∃ state, (rangeStoreSystem Bool String).Run failedFetch state ∧
      HandoffLaws failedFetch state := by
  obtain ⟨state, run, _⟩ := failedFetch_run
  exact ⟨state, run, getRange_handoff run⟩

end Objects
end Proxy
end HermOS
