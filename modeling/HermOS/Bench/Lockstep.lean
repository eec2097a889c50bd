import HermOS.Bench.BatchBarrier
import Mathlib.Data.List.ProdSigma

/-!
# The stages of a batch in lockstep

A log records what each thread of `step_shell::run` does.  What a thread has logged is determined by
its program point and by which of its stages fail; a thread in step with its barrier has left every
stage before.
-/

namespace HermOS
namespace Bench
namespace StepShell

open Netns

/-! ### The log -/

/-- What a thread does. -/
inductive Act
  | started (index : ℕ)
  | finished (index : ℕ)
  /-- The command or its measurement has failed. -/
  | failed (index : ℕ)
  /-- It leaves out the command of a stage. -/
  | skipped (index : ℕ)
  | passed (index : ℕ)
  | cleanedUp
  deriving DecidableEq

/-- A thread has done something. -/
structure Event where
  first : ℕ
  tid : ℕ
  act : Act
  deriving DecidableEq

/-- The instance of the thread. -/
def Event.seq (event : Event) : ℕ :=
  event.first + event.tid

namespace Host

variable (host : Host)

/-- The command of an instance at a stage fails, or its measurement does. -/
def fails (seq index : ℕ) : Bool :=
  match stages[index]? with
  | some stage => !(host.measure seq index stage).isOk
  | none => false

/-- Some earlier stage of the instance fails. -/
def failedBefore (seq index : ℕ) : Bool :=
  (List.range index).any (host.fails seq)

/-- What a thread does next, given the data of its barrier. -/
def act? (first tid : ℕ) (barrier : Barrier) : WorkerPc → Option Act
  | .looping index _ none => if index < stages.length then some (.started index) else none
  | .looping index _ (some _) => if index < stages.length then some (.skipped index) else none
  | .executing index _ =>
      some (if host.fails (first + tid) index then .failed index else .finished index)
  | .arriving index _ _ =>
      if host.batchSize first ≤ barrier.count + 1 then some (.passed index) else none
  | .waiting index _ _ _ => some (.passed index)
  | .cleaning _ _ => some .cleanedUp
  | .unspawned | .done _ => none

/-- The log behind a step. -/
def note (state : State) : Label → List Event → List Event
  | .main, log => log
  | .worker first tid, log =>
      log ++ ((host.act? first tid (state.barrier first) (state.worker first tid)).map
        (Event.mk first tid)).toList

/-- What a thread does at a stage. -/
def round (seq index : ℕ) : List Act :=
  if host.failedBefore seq index then [.skipped index, .passed index]
  else if host.fails seq index then [.started index, .failed index, .passed index]
  else [.started index, .finished index, .passed index]

/-- What a thread does at the stages before one. -/
def rounds (seq index : ℕ) : List Act :=
  (List.range index).flatMap (host.round seq)

/-- What a thread has done at its program point. -/
def done (seq : ℕ) : WorkerPc → List Act
  | .unspawned => []
  | .looping index _ _ => host.rounds seq index
  | .executing index _ => host.rounds seq index ++ [.started index]
  | .arriving index _ _ | .waiting index _ _ _ =>
      host.rounds seq index ++ (host.round seq index).dropLast
  | .cleaning _ _ => host.rounds seq stages.length
  | .done _ => host.rounds seq stages.length ++ [.cleanedUp]

end Host

/-- `step_shell::run` with its log. -/
def loggedRun (host : Host) : TransitionSystem (State × List Event) Label :=
  (stepShellRun host).withHistory [] host.note

/-- What one thread has logged. -/
def acts (log : List Event) (first tid : ℕ) : List Act :=
  (log.filter fun event => event.first = first ∧ event.tid = tid).map (·.act)

/-- How often an instance has been cleaned up. -/
def cleanUps (log : List Event) (seq : ℕ) : ℕ :=
  log.countP fun event => event.seq = seq ∧ event.act = .cleanedUp

/-- The thread has finished or skipped a stage. -/
def Left (log : List Event) (first tid index : ℕ) : Prop :=
  ∃ act ∈ acts log first tid, act = .finished index ∨ act = .failed index ∨ act = .skipped index

def stageKey (measurement : Measurement) : ℕ × String :=
  (measurement.instanceId, measurement.stage)

def stageKeys (total : ℕ) : List (ℕ × String) :=
  List.product (List.range total) (stages.map (·.name))

variable {host : Host} {state : State}

/-! ### What threads have logged -/

section Rounds

variable (host) (seq index : ℕ)

theorem failedBefore_succ :
    host.failedBefore seq (index + 1) = (host.failedBefore seq index || host.fails seq index) := by
  simp [Host.failedBefore, List.range_succ]

theorem rounds_succ :
    host.rounds seq (index + 1) = host.rounds seq index ++ host.round seq index := by
  simp [Host.rounds, List.range_succ]

/-- A thread leaves a stage and passes its barrier. -/
theorem round_eq : ∃ act, (act = .finished index ∨ act = .failed index ∨ act = .skipped index) ∧
    act ∈ (host.round seq index).dropLast ∧
      host.round seq index = (host.round seq index).dropLast ++ [.passed index] := by
  unfold Host.round
  split
  · exact ⟨.skipped index, by simp⟩
  · split
    · exact ⟨.failed index, by simp⟩
    · exact ⟨.finished index, by simp⟩

variable {host seq index}

theorem round_subset_rounds {bound : ℕ} (less : index < bound) {act : Act}
    (inside : act ∈ host.round seq index) : act ∈ host.rounds seq bound :=
  List.mem_flatMap.mpr ⟨index, List.mem_range.mpr less, inside⟩

end Rounds

/-- What a thread knows of its stages before one. -/
def Known (host : Host) (seq index : ℕ) (results : List Measurement) (error : Option String) :
    Prop :=
  error.isSome = host.failedBefore seq index ∧
    (error = none → results.map stageKey = (stages.take index).map fun stage => (seq, stage.name))

/-- What a thread has recorded at its program point. -/
def WorkerPc.Records (host : Host) (seq : ℕ) : WorkerPc → Prop
  | .unspawned => True
  | .looping index results error => Known host seq index results error
  | .executing index results => Known host seq index results none
  | .arriving index results error | .waiting index _ results error =>
      Known host seq (index + 1) results error
  | .cleaning results error => Known host seq stages.length results error
  | .done (.ok results) => Known host seq stages.length results none
  | .done (.error _) => True

/-- The measurements of the instances before one, all of whose threads have terminated. -/
def Collected (worker : ℕ → ℕ → WorkerPc) (bound : ℕ) (measurements : List Measurement) : Prop :=
  measurements.map stageKey = stageKeys bound ∧
    ∀ seq < bound, ∃ first tid results, first + tid = seq ∧ worker first tid = .done (.ok results)

/-- What the main thread has collected. -/
def MainPc.Records (host : Host) (worker : ℕ → ℕ → WorkerPc) : MainPc → Prop
  | .detecting | .returned (.error _) => True
  | .batching _ nextSeq allResults =>
      nextSeq ≤ host.config.total ∧ Collected worker nextSeq allResults
  | .spawning _ nextSeq _ allResults => Collected worker nextSeq allResults
  | .joining _ nextSeq joined allResults => Collected worker (nextSeq + joined) allResults
  | .returned (.ok output) => Collected worker host.config.total output.measurements

/-- The log agrees with the state. -/
structure Logged (host : Host) (state : State) (log : List Event) : Prop where
  acts : ∀ first tid, acts log first tid = host.done (first + tid) (state.worker first tid)
  worker : ∀ first tid, (state.worker first tid).Records host (first + tid)
  main : state.main.Records host state.worker
  /-- A stage is started behind the earlier stage of every thread of the batch. -/
  ordered : ∀ front back first tid index,
    log = front ++ ⟨first, tid, .started (index + 1)⟩ :: back →
      ∀ other < host.batchSize first, Left front first other index

theorem acts_concat (log : List Event) (event : Event) (first tid : ℕ) :
    acts (log ++ [event]) first tid = acts log first tid ++
      if event.first = first ∧ event.tid = tid then [event.act] else [] := by
  rw [acts, List.filter_append, List.map_append]
  split
  next same => simp [acts, same.1, same.2]
  next other => simp [acts, other]

theorem Collected.mono {worker next : ℕ → ℕ → WorkerPc} {bound : ℕ}
    {measurements : List Measurement} (collected : Collected worker bound measurements)
    (kept : ∀ first tid result, worker first tid = .done result →
      next first tid = .done result) : Collected next bound measurements := by
  refine ⟨collected.1, fun seq below => ?_⟩
  obtain ⟨first, tid, results, same, ended⟩ := collected.2 seq below
  exact ⟨first, tid, results, same, kept first tid _ ended⟩

theorem MainPc.Records.mono {worker next : ℕ → ℕ → WorkerPc} {pc : MainPc}
    (records : pc.Records host worker)
    (kept : ∀ first tid result, worker first tid = .done result →
      next first tid = .done result) : pc.Records host next := by
  match pc, records with
  | .detecting, _ | .returned (.error _), _ => trivial
  | .batching _ _ _, records => exact ⟨records.1, Collected.mono records.2 kept⟩
  | .spawning _ _ _ _, records | .joining _ _ _ _, records | .returned (.ok _), records =>
      exact Collected.mono records kept

/-- A thread in step has left every stage before the generation of its barrier. -/
theorem left_of_inStep {generation index seq : ℕ} {pc : WorkerPc} (met : pc.InStep generation)
    (less : index < generation) : ∃ act ∈ host.done seq pc,
      act = .finished index ∨ act = .failed index ∨ act = .skipped index := by
  obtain ⟨act, leaves, inside, _⟩ := round_eq host seq index
  have whole : ∀ {bound}, index < bound → act ∈ host.rounds seq bound :=
    fun below => round_subset_rounds below (List.dropLast_subset _ inside)
  refine ⟨act, ?_, leaves⟩
  cases pc with
  | unspawned => exact absurd (met ▸ less) (Nat.not_lt_zero index)
  | looping at_index results error => exact whole (met.1 ▸ less)
  | executing at_index results => exact List.mem_append_left _ (whole (met.1 ▸ less))
  | arriving at_index results error => exact List.mem_append_left _ (whole (met.1 ▸ less))
  | waiting at_index begun results error =>
      rcases Nat.lt_or_ge index at_index with earlier | same
      · exact List.mem_append_left _ (whole earlier)
      · obtain ⟨_, _, either⟩ := met
        rw [show at_index = index by omega]
        exact List.mem_append_right _ inside
  | cleaning results error => exact whole (met ▸ less)
  | done result => exact List.mem_append_left _ (whole (met ▸ less))

namespace Logged

variable {log : List Event}

theorem moveMain (logged : Logged host state log) {pc : MainPc}
    (records : pc.Records host state.worker) : Logged host (state.moveMain pc) log :=
  ⟨logged.acts, logged.worker, records, logged.ordered⟩

theorem setBarrier (logged : Logged host state log) (first : ℕ) (barrier : Barrier) :
    Logged host (state.setBarrier first barrier) log :=
  ⟨logged.acts, logged.worker, logged.main, logged.ordered⟩

/-- A running thread moves and logs what it has done. -/
theorem moveWorker (logged : Logged host state log) {first tid : ℕ} {old pc : WorkerPc}
    {act : Option Act} (at_pc : state.worker first tid = old) (running : old.settled = false)
    (done : host.done (first + tid) pc = host.done (first + tid) old ++ act.toList)
    (records : pc.Records host (first + tid))
    (ordered : ∀ index, act = some (.started (index + 1)) →
      ∀ other < host.batchSize first, Left log first other index) :
    Logged host (state.moveWorker first tid pc)
      (log ++ (act.map (Event.mk first tid)).toList) := by
  refine ⟨fun other index => ?_, fun other index => ?_,
    logged.main.mono fun other index result ended => ?_,
    fun front back other index stage same => ?_⟩
  · rw [moveWorker_worker]
    cases act with
    | none =>
        rw [Option.toList_none, List.append_nil] at done
        rw [Option.map_none, Option.toList_none, List.append_nil, logged.acts]
        split
        next moved => rw [moved.1, moved.2, at_pc, done]
        next => rfl
    | some act =>
        rw [Option.map_some, Option.toList_some, acts_concat, logged.acts]
        split
        next moved =>
          obtain ⟨rfl, rfl⟩ := moved
          rw [if_pos ⟨rfl, rfl⟩, at_pc, done]
          rfl
        next other =>
          rw [if_neg fun moved => other ⟨moved.1.symm, moved.2.symm⟩, List.append_nil]
  · rw [moveWorker_worker]
    split
    next moved => rw [moved.1, moved.2]; exact records
    next => exact logged.worker other index
  · rw [moveWorker_worker]
    split
    next moved =>
      rw [moved.1, moved.2, at_pc] at ended
      rw [ended] at running
      cases running
    next => exact ended
  · cases act with
    | none => exact logged.ordered front back other index stage (by simpa using same)
    | some act =>
        rcases List.eq_nil_or_concat back with rfl | ⟨earlier, last, rfl⟩
        · obtain ⟨rfl, event⟩ := List.append_inj' same rfl
          cases List.cons.inj event |>.1
          exact ordered stage rfl
        · rw [List.concat_eq_append, ← List.cons_append, ← List.append_assoc] at same
          exact logged.ordered front earlier other index stage (List.append_inj' same rfl).1

theorem moveSilently (logged : Logged host state log) {first tid : ℕ} {old pc : WorkerPc}
    (at_pc : state.worker first tid = old) (running : old.settled = false)
    (done : host.done (first + tid) pc = host.done (first + tid) old)
    (records : pc.Records host (first + tid)) :
    Logged host (state.moveWorker first tid pc) log := by
  have same : host.done (first + tid) pc =
      host.done (first + tid) old ++ (none : Option Act).toList :=
    done.trans (List.append_nil _).symm
  simpa using logged.moveWorker at_pc running same records (by simp)

theorem known (logged : Logged host state log) {first tid : ℕ} {pc : WorkerPc}
    (at_pc : state.worker first tid = pc) : pc.Records host (first + tid) :=
  at_pc ▸ logged.worker first tid

end Logged

theorem logged_init : Logged host .init [] where
  acts _ _ := rfl
  worker _ _ := trivial
  main := trivial
  ordered front back first tid index same := by simp at same

theorem stageKeys_succ (bound : ℕ) : stageKeys (bound + 1) =
    stageKeys bound ++ stages.map fun stage => (bound, stage.name) := by
  simp [stageKeys, List.product, List.range_succ]

theorem stageKeys_nodup (total : ℕ) : (stageKeys total).Nodup :=
  List.nodup_range.product (by decide)

theorem Collected.join {worker : ℕ → ℕ → WorkerPc} {first tid : ℕ}
    {measurements results : List Measurement}
    (collected : Collected worker (first + tid) measurements)
    (ended : worker first tid = .done (.ok results))
    (known : Known host (first + tid) stages.length results none) :
    Collected worker (first + (tid + 1)) (measurements ++ results) := by
  refine ⟨?_, fun seq below => ?_⟩
  · rw [List.map_append, collected.1, known.2 rfl, List.take_length, ← Nat.add_assoc,
      stageKeys_succ]
  · rcases Nat.lt_succ_iff_lt_or_eq.mp below with earlier | rfl
    · exact collected.2 seq earlier
    · exact ⟨first, tid, results, rfl, ended⟩

theorem fails_ok {seq index : ℕ} {stage : Stage} {sample : ℕ × ℕ × UsageDelta}
    (at_stage : stages[index]? = some stage)
    (measured : host.measure seq index stage = .ok sample) :
    host.fails seq index = false := by
  simp [Host.fails, at_stage, measured, Except.isOk, Except.toBool]

theorem fails_error {seq index : ℕ} {stage : Stage} {err : String}
    (at_stage : stages[index]? = some stage) (failed : host.measure seq index stage = .error err) :
    host.fails seq index = true := by
  simp [Host.fails, at_stage, failed, Except.isOk, Except.toBool]

theorem logged_step {before after : State} {label : Label} {log : List Event}
    (inStep : InStep host before) (logged : Logged host before log)
    (step : Step host before label after) : Logged host after (host.note before label log) := by
  have collected : ∀ {pc}, before.main = pc → pc.Records host before.worker := by
    rintro _ rfl
    exact logged.main
  cases step with
  | detectFailed at_pc | captureFailed at_pc | joinFailed at_pc => exact logged.moveMain trivial
  | begin at_pc => exact logged.moveMain ⟨Nat.zero_le _, rfl, fun _ below => by omega⟩
  | batch at_pc more => exact logged.moveMain (collected at_pc).2
  | @complete totalBefore nextSeq allResults at_pc all =>
      obtain ⟨bound, records⟩ := collected at_pc
      refine logged.moveMain ?_
      rw [le_antisymm bound all] at records
      unfold Host.output
      cases host.totalAfter with
      | error err => trivial
      | ok totalAfter => exact records
  | @spawn totalBefore nextSeq tid allResults at_pc more =>
      have records := collected at_pc
      have launched := inStep.launched
      rw [at_pc] at launched
      obtain ⟨_, _, _, _, fresh, _⟩ := launched
      have unspawned := fresh tid (le_refl tid)
      refine ⟨fun first index => ?_, fun first index => ?_,
        records.mono fun first index result ended => ?_, logged.ordered⟩
      · refine (logged.acts first index).trans ?_
        change _ =
          host.done _ ((before.moveWorker nextSeq tid (.looping 0 [] none)).worker first index)
        rw [moveWorker_worker]
        split
        next moved => rw [moved.1, moved.2, unspawned]; rfl
        next => rfl
      · change WorkerPc.Records host _
          ((before.moveWorker nextSeq tid (.looping 0 [] none)).worker first index)
        rw [moveWorker_worker]
        split
        next => exact ⟨rfl, fun _ => rfl⟩
        next => exact logged.worker first index
      · change (before.moveWorker nextSeq tid (.looping 0 [] none)).worker first index = _
        rw [moveWorker_worker]
        split
        next moved => simp [moved.1, moved.2, unspawned] at ended
        next => exact ended
  | spawned at_pc all =>
      have records := collected at_pc
      exact logged.moveMain records
  | @join totalBefore nextSeq tid allResults threadResults at_pc more finished =>
      exact logged.moveMain (Collected.join (collected at_pc) finished (logged.known finished))
  | @joined totalBefore nextSeq tid allResults at_pc all =>
      have records := collected at_pc
      have launched := inStep.launched
      rw [at_pc] at launched
      obtain ⟨_, below, bound, _⟩ := launched
      have room := InStep.batchSize_le host nextSeq
      rw [le_antisymm bound all] at records
      exact logged.moveMain ⟨by omega, records⟩
  | @execute first tid index results stage at_pc at_stage =>
      have inside := (List.getElem?_eq_some_iff.mp at_stage).1
      have met := inStep.at_barrier at_pc (by simp)
      have known := logged.known at_pc
      simp only [Host.note, at_pc, Host.act?, if_pos inside]
      refine logged.moveWorker at_pc rfl rfl known fun earlier same other less => ?_
      obtain rfl : index = earlier + 1 := Act.started.inj (Option.some.inj same)
      rw [Left, logged.acts]
      exact left_of_inStep (inStep.worker first other less) (met.1 ▸ Nat.lt_succ_self earlier)
  | @skip first tid index results stage err at_pc at_stage =>
      have inside := (List.getElem?_eq_some_iff.mp at_stage).1
      have known := logged.known at_pc
      have failed : host.failedBefore (first + tid) index = true := known.1.symm
      simp only [Host.note, at_pc, Host.act?, if_pos inside]
      refine logged.moveWorker at_pc rfl ?_ ⟨?_, by simp⟩ (by simp)
      · simp [Host.done, Host.round, failed]
      · simp [failedBefore_succ, failed]
  | @executed first tid index results stage sample at_pc at_stage measured =>
      obtain ⟨healthy, keys⟩ := logged.known at_pc
      have succeeds := fails_ok at_stage measured
      simp only [Host.note, at_pc, Host.act?, succeeds, Bool.false_eq_true, if_false]
      refine logged.moveWorker at_pc rfl ?_ ⟨?_, fun _ => ?_⟩ (by simp)
      · simp [Host.done, Host.round, ← healthy, succeeds]
      · simp [failedBefore_succ, ← healthy, succeeds]
      · simp [List.take_add_one, at_stage, keys, stageRecord, stageKey, UsageDelta.intoMeasurement]
  | @executeFailed first tid index results stage err at_pc at_stage failed =>
      obtain ⟨healthy, keys⟩ := logged.known at_pc
      have fails := fails_error at_stage failed
      simp only [Host.note, at_pc, Host.act?, fails, if_true]
      refine logged.moveWorker at_pc rfl ?_ ⟨?_, by simp⟩ (by simp)
      · simp [Host.done, Host.round, ← healthy, fails]
      · simp [failedBefore_succ, fails]
  | @arrive first tid index results error at_pc short =>
      have known := logged.known at_pc
      simp only [Host.note, at_pc, Host.act?, if_neg (not_le.mpr short), Option.map_none,
        Option.toList_none, List.append_nil]
      exact (logged.setBarrier first _).moveSilently at_pc rfl rfl known
  | @arriveLast first tid index results error at_pc full =>
      obtain ⟨_, _, _, whole⟩ := round_eq host (first + tid) index
      have known := logged.known at_pc
      simp only [Host.note, at_pc, Host.act?, if_pos full]
      refine (logged.setBarrier first _).moveWorker at_pc rfl ?_ known (by simp)
      rw [Host.done, rounds_succ, whole]
      simp [Host.done]
  | @leave first tid index generation results error at_pc opened =>
      obtain ⟨_, _, _, whole⟩ := round_eq host (first + tid) index
      have known := logged.known at_pc
      simp only [Host.note, at_pc, Host.act?]
      refine logged.moveWorker at_pc rfl ?_ known (by simp)
      rw [Host.done, rounds_succ, whole]
      simp [Host.done]
  | @leaveLoop first tid index results error at_pc all =>
      have past := List.getElem?_eq_none_iff.mp all
      obtain ⟨_, bound⟩ := inStep.at_barrier at_pc (by simp)
      have known := logged.known at_pc
      obtain rfl := le_antisymm bound past
      have silent : host.act? first tid (before.barrier first)
          (.looping stages.length results error) =
          none := by cases error <;> simp [Host.act?]
      simp only [Host.note, at_pc, silent, Option.map_none, Option.toList_none, List.append_nil]
      exact logged.moveSilently at_pc rfl rfl known
  | @cleanedUp first tid results error at_pc =>
      have known := logged.known at_pc
      simp only [Host.note, at_pc, Host.act?]
      refine logged.moveWorker at_pc rfl rfl ?_ (by simp)
      cases error with
      | none => exact known
      | some err => trivial

/-! ### The order within a thread -/

/-- The stage behind which a barrier is passed. -/
def Act.passed? : Act → Option ℕ
  | .passed index => some index
  | _ => none

/-- No command is started behind a failure. -/
def Act.Allows (earlier later : Act) : Prop :=
  ∀ index next, earlier = .failed index → later ≠ .started next

section Rounds

variable {seq index : ℕ}

theorem passed_round : (host.round seq index).filterMap Act.passed? = [index] := by
  unfold Host.round
  split
  · rfl
  · split <;> rfl

theorem passed_rounds : (host.rounds seq index).filterMap Act.passed? = List.range index := by
  induction index with
  | zero => rfl
  | succ index ih => rw [rounds_succ, List.filterMap_append, ih, passed_round, List.range_succ]

theorem cleanedUp_not_mem_rounds : Act.cleanedUp ∉ host.rounds seq index := by
  intro inside
  obtain ⟨stage, _, inside⟩ := List.mem_flatMap.mp inside
  unfold Host.round at inside
  split at inside
  · simp at inside
  · split at inside <;> simp at inside

theorem failedBefore_of_failed {stage : ℕ} (inside : Act.failed stage ∈ host.rounds seq index) :
    host.failedBefore seq index = true := by
  obtain ⟨earlier, below, inside⟩ := List.mem_flatMap.mp inside
  unfold Host.round at inside
  split at inside
  · simp at inside
  · split at inside
    next fails => exact List.any_eq_true.mpr ⟨earlier, below, fails⟩
    next => simp at inside

theorem allows_rounds : (host.rounds seq index).Pairwise Act.Allows := by
  induction index with
  | zero => exact .nil
  | succ index ih =>
      rw [rounds_succ, List.pairwise_append]
      refine ⟨ih, ?_, ?_⟩
      · unfold Host.round
        split
        · simp [Act.Allows]
        · split <;> simp [Act.Allows]
      · rintro act inside later next stage resumed rfl started
        have failed := failedBefore_of_failed inside
        rw [started, Host.round, if_pos failed] at next
        simp at next

theorem allows_done {pc : WorkerPc} (records : pc.Records host seq) :
    (host.done seq pc).Pairwise Act.Allows := by
  have within : ∀ {index} {more : List Act}, more.Sublist (host.round seq index) →
      (host.rounds seq index ++ more).Pairwise Act.Allows := by
    intro index more part
    have whole := @allows_rounds host seq (index + 1)
    rw [rounds_succ] at whole
    exact whole.sublist ((List.Sublist.refl _).append part)
  cases pc with
  | unspawned => exact .nil
  | looping index results error => exact allows_rounds
  | executing index results =>
      refine within ?_
      rw [Host.round, if_neg (by simp [← records.1])]
      split <;> simp
  | arriving index results error => exact within (List.dropLast_sublist _)
  | waiting index begun results error => exact within (List.dropLast_sublist _)
  | cleaning results error => exact allows_rounds
  | done result =>
      refine List.pairwise_append.mpr ⟨allows_rounds, List.pairwise_singleton _ _, ?_⟩
      simp [Act.Allows]

end Rounds

/-! ### Instances -/

/-- The thread of an event has been spawned. -/
theorem spawned_of_logged {log : List Event} (logged : Logged host state log) {event : Event}
    (inside : event ∈ log) : state.worker event.first event.tid ≠ .unspawned := by
  intro unspawned
  have acted : event.act ∈ acts log event.first event.tid :=
    List.mem_map_of_mem (List.mem_filter.mpr ⟨inside, by simp⟩)
  rw [logged.acts, unspawned] at acted
  cases acted

/-- An instance belongs to one thread. -/
theorem InStep.thread_unique (inStep : InStep host state) {first tid other index : ℕ}
    (one : state.worker first tid ≠ .unspawned) (two : state.worker other index ≠ .unspawned)
    (same : first + tid = other + index) : first = other ∧ tid = index := by
  obtain ⟨first_aligned, tid_below⟩ := inStep.member first tid one
  obtain ⟨other_aligned, index_below⟩ := inStep.member other index two
  have tid_small := (lt_min_iff.mp tid_below).1
  have index_small := (lt_min_iff.mp index_below).1
  have positions : tid = index := by
    have left : (first + tid) % host.config.concurrency = tid := by
      rw [Nat.add_mod, first_aligned, Nat.zero_add, Nat.mod_mod, Nat.mod_eq_of_lt tid_small]
    have right : (other + index) % host.config.concurrency = index := by
      rw [Nat.add_mod, other_aligned, Nat.zero_add, Nat.mod_mod, Nat.mod_eq_of_lt index_small]
    rw [← left, same, right]
  exact ⟨by omega, positions⟩

/-- The clean-ups of an instance are those of its thread. -/
theorem cleanUps_eq {log : List Event} (inStep : InStep host state) (logged : Logged host state log)
    {first tid : ℕ} (spawned : state.worker first tid ≠ .unspawned) :
    cleanUps log (first + tid) =
      (host.done (first + tid) (state.worker first tid)).count .cleanedUp := by
  rw [← logged.acts, acts, List.count, List.countP_map, List.countP_filter, cleanUps]
  refine List.countP_congr fun event inside => ?_
  have own : event.seq = first + tid ↔ event.first = first ∧ event.tid = tid := by
    refine ⟨fun same => ?_, fun same => by rw [Event.seq, same.1, same.2]⟩
    exact inStep.thread_unique (spawned_of_logged logged inside) spawned same
  simp [own, and_comm]

theorem count_done {seq : ℕ} {pc : WorkerPc} : (host.done seq pc).count .cleanedUp =
    match pc with
    | .done _ => 1
    | _ => 0 := by
  have none : ∀ {index}, (host.rounds seq index).count .cleanedUp = 0 :=
    List.count_eq_zero.mpr cleanedUp_not_mem_rounds
  have part : ∀ {index}, ((host.round seq index).dropLast).count .cleanedUp = 0 := by
    intro index
    refine List.count_eq_zero.mpr fun inside => ?_
    exact cleanedUp_not_mem_rounds
      (round_subset_rounds (Nat.lt_succ_self index) (List.dropLast_subset _ inside))
  cases pc <;> simp [Host.done, none, part]

/-! ### Runs of a batch -/

/-- What holds of a reachable state and the log of its threads. -/
structure InLockstep (host : Host) (state : State) (log : List Event) : Prop where
  /-- Behind the start of a stage every thread of the batch has left the stage before. -/
  ordered : ∀ front back first tid index,
    log = front ++ ⟨first, tid, .started (index + 1)⟩ :: back →
      ∀ other < host.batchSize first, Left front first other index
  /-- A thread passes its barrier once behind each stage. -/
  passes : ∀ first tid result, state.worker first tid = .done result →
    (acts log first tid).filterMap Act.passed? = List.range stages.length
  /-- A thread starts no command behind its first failure. -/
  stops : ∀ first tid front back index, acts log first tid = front ++ .failed index :: back →
    ∀ next, .started next ∉ back
  /-- No instance is cleaned up twice. -/
  cleanUps_le : ∀ seq, cleanUps log seq ≤ 1
  /-- A thread has cleaned up its instance when it terminates. -/
  cleanUps_done : ∀ first tid result, state.worker first tid = .done result →
    cleanUps log (first + tid) = 1
  /-- A run which returns has measured every stage of every instance once. -/
  measured : ∀ output, state.main = .returned (.ok output) →
    output.measurements.map stageKey = stageKeys host.config.total ∧
      (output.measurements.map stageKey).Nodup ∧
        ∀ seq < host.config.total, cleanUps log seq = 1

theorem logged_reachable (concurrent : 1 ≤ host.config.concurrency) {log : List Event}
    (reachable : (loggedRun host).Reachable (state, log)) :
    InStep host state ∧ Logged host state log := by
  refine reachable.invariant (fun pair => InStep host pair.1 ∧ Logged host pair.1 pair.2) ?_ ?_
  · rintro ⟨state, log⟩ ⟨rfl, rfl⟩
    exact ⟨inStep_init, logged_init⟩
  · rintro ⟨before, log⟩ label ⟨after, later⟩ ⟨inStep, logged⟩ ⟨step, rfl⟩
    exact ⟨inStep_step concurrent inStep step, logged_step inStep logged step⟩

theorem inLockstep_of_logged {log : List Event} (inStep : InStep host state)
    (logged : Logged host state log) : InLockstep host state log := by
  have ended : ∀ {first tid result}, state.worker first tid = .done result →
      cleanUps log (first + tid) = 1 := by
    intro first tid result done
    rw [cleanUps_eq inStep logged (by simp [done]), done, count_done]
  refine ⟨logged.ordered, fun first tid result done => ?_,
    fun first tid front back index same next => ?_,
    fun seq => ?_, fun first tid result done => ended done, fun output returned => ?_⟩
  · rw [logged.acts, done, Host.done, List.filterMap_append, passed_rounds]
    exact List.append_nil _
  · have allows := allows_done (logged.worker first tid)
    rw [← logged.acts, same] at allows
    have behind := (List.pairwise_append.mp allows).2.1
    exact fun resumed => List.rel_of_pairwise_cons behind resumed index next rfl rfl
  · by_cases cleaned : ∃ event ∈ log, event.seq = seq
    · obtain ⟨event, inside, rfl⟩ := cleaned
      rw [Event.seq, cleanUps_eq inStep logged (spawned_of_logged logged inside), count_done]
      split <;> omega
    · have none : cleanUps log seq = 0 :=
        List.countP_eq_zero.mpr fun event inside => by
          simpa using fun same => absurd ⟨event, inside, same⟩ cleaned
      omega
  · have records := logged.main
    rw [returned] at records
    refine ⟨records.1, records.1 ▸ stageKeys_nodup _, fun seq below => ?_⟩
    obtain ⟨first, tid, results, rfl, done⟩ := records.2 seq below
    exact ended done

/-- Threads of a batch run their stages in lockstep, and no run blocks. -/
theorem stepShellRun_lockstep (concurrent : 1 ≤ host.config.concurrency) :
    (∀ state log, (loggedRun host).Reachable (state, log) → InLockstep host state log) ∧
      CannotBlock host := by
  refine ⟨fun state log reachable => ?_, cannotBlock concurrent⟩
  obtain ⟨inStep, logged⟩ := logged_reachable concurrent reachable
  exact inLockstep_of_logged inStep logged

/-- Three instances in batches of two, the second of which fails at its first stage. -/
def threeInstances : Host where
  config := ⟨3, 2, false⟩
  upstream := .ok "eth0"
  root := true
  token := "0"
  wallStart := 0
  elapsed := 0
  totalBefore := .ok ⟨0, 0, 0, 0, 0, 0⟩
  totalAfter := .ok ⟨0, 0, 0, 0, 0, 0⟩
  status seq _ := .ok (some (if seq = 1 then 1 else 0))
  around _ _ := ⟨.error "", 0, .ok (), 0, .error ""⟩

theorem stepShellRun_lockstep_threeInstances :
    (∀ state log, (loggedRun threeInstances).Reachable (state, log) →
      InLockstep threeInstances state log) ∧ CannotBlock threeInstances :=
  stepShellRun_lockstep (by decide)

end StepShell
end Bench
end HermOS
