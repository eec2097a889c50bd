import HermOS.Data.CleanUp
import Mathlib.Data.List.Count

/-!
# Rows appended during a deletion

No row is lost as long as the file is not touched between the reading and the truncation, nor
between the truncation and the last write of the new text.  Once everything in progress is written
the file is a table: the text of the file, of the rewrite and of the append in progress together
print the header, the rows of the beginning and all appended rows, but for deleted ones.
-/

namespace HermOS
namespace Data

open Python (Text)
open Csv

variable {file : DataFile} {count : ℕ}

/-! ### What the file holds -/

namespace AppendPc

/-- The run holds the lock. -/
def holds : AppendPc file → Bool
  | .idle | .done _ => false
  | _ => true

/-- The text which the run still has to write. -/
def rest : AppendPc file → Text
  | .writing rest _ _ => rest
  | _ => []

/-- The rows of the append in progress. -/
def batch : AppendPc file → List (Row file)
  | .writing _ batch _ => batch
  | _ => []

end AppendPc

namespace DeletePc

/-- The text which the deletion still has to write. -/
def rest : DeletePc → Text
  | .rewriting _ rest => rest
  | _ => []

/-- The file has not been truncated. -/
def reads : DeletePc → Bool
  | .rewriting _ _ | .finished => false
  | _ => true

end DeletePc

namespace CleanState

/-- The run which holds the lock. -/
def active (state : CleanState file count) : AppendPc file :=
  match state.lock with
  | none => .idle
  | some index => state.appender index

end CleanState

/-- Once everything in progress is written, the file is a table whose rows are, but for deleted
ones, the rows of the beginning and the appended rows. -/
structure Complete (request : Deletion) (rows : List (Row file)) (text : Text)
    (deleter : DeletePc) (active : AppendPc file) : Prop where
  table : ∃ earlier back head, Holds earlier head ∧
    text ++ deleter.rest ++ active.rest = head ++ rowsText back ∧
    request.keep (earlier ++ back) = request.keep (rows ++ active.batch) ∧
    (deleter.reads = true → back = active.batch)
  cursor : ∀ offset rest, deleter = .rewriting offset rest → rest ≠ [] → text.length = offset

/-- What holds of a run of the undisturbed system after some appends. -/
structure Survives (request : Deletion) (base : List (Row file)) (appended : List (Row file))
    (state : CleanState file count) : Prop where
  locked : ∀ index, (state.appender index).holds = true → state.lock = some index
  opening : ∀ index existed batch left, state.appender index = .opening existed batch left →
    state.text.isSome = existed
  missing : state.text = none → base ++ appended = [] ∧ state.active.rest = [] ∧
    state.active.batch = [] ∧ (state.deleter = .start ∨ state.deleter = .finished)
  complete : ∀ text, state.text = some text →
    Complete request (base ++ appended) text state.deleter state.active

section Complete

variable {request : Deletion} {rows : List (Row file)} {text : Text} {deleter : DeletePc}
  {active : AppendPc file}

theorem keep_append (front back : List (Row file)) :
    request.keep (front ++ back) = request.keep front ++ request.keep back :=
  List.filter_append ..

theorem keep_keep (rows : List (Row file)) :
    request.keep (request.keep rows) = request.keep rows := by
  simp [Deletion.keep, List.filter_filter]

/-- The rows of a finished append count as rows of the file. -/
theorem Complete.close (complete : Complete request rows text deleter active)
    (written : active.rest = []) {next : AppendPc file} (no_rest : next.rest = [])
    (no_batch : next.batch = []) :
    Complete request (rows ++ active.batch) text deleter next := by
  obtain ⟨earlier, back, head, holds, eq, kept, _⟩ := complete.table
  refine ⟨⟨earlier ++ back, [], head ++ rowsText back, holds.append back, ?_, ?_, ?_⟩,
    complete.cursor⟩
  · rw [no_rest, ← written, eq]
    simp [rowsText]
  · rw [List.append_nil, no_batch, List.append_nil, kept]
  · intro _
    exact no_batch.symm

/-- A run which is not writing may be anywhere else. -/
theorem Complete.idle (complete : Complete request rows text deleter active)
    (no_rest : active.rest = []) (no_batch : active.batch = []) {next : AppendPc file}
    (next_rest : next.rest = []) (next_batch : next.batch = []) :
    Complete request rows text deleter next := by
  have closed := complete.close no_rest next_rest next_batch
  rwa [no_batch, List.append_nil] at closed

/-- An append to an existing file begins. -/
theorem Complete.opened (complete : Complete request rows text deleter active)
    (no_rest : active.rest = []) (no_batch : active.batch = []) (batch : List (Row file))
    (left : List (List (Row file))) :
    Complete request rows text deleter (.writing (appendText true batch) batch left) := by
  obtain ⟨earlier, back, head, holds, eq, kept, _⟩ := complete.table
  rw [no_rest, List.append_nil] at eq
  rw [no_batch, List.append_nil] at kept
  refine ⟨⟨earlier ++ back, batch, head ++ rowsText back, holds.append back, ?_, ?_, ?_⟩,
    complete.cursor⟩
  · rw [AppendPc.rest, appendText, if_pos rfl, List.nil_append, eq]
  · rw [keep_append, kept, AppendPc.batch, keep_append]
  · intro _
    rfl

/-- The first append to a new file begins. -/
theorem complete_created {deleter : DeletePc} (before : deleter = .start ∨ deleter = .finished)
    (batch : List (Row file)) (left : List (List (Row file))) :
    Complete request [] [] deleter (.writing (appendText false batch) batch left) := by
  have no_rest : deleter.rest = [] := by rcases before with rfl | rfl <;> rfl
  refine ⟨⟨[], batch, printRow ['\r', '\n'] file.fieldnames, ?_, ?_, ?_, ?_⟩, ?_⟩
  · have printed : Holds ([] : List (Row file)) _ := holds_printed (.inr rfl) []
    rwa [List.map_nil, List.flatMap_nil, List.append_nil] at printed
  · simp [no_rest, AppendPc.rest, appendText]
  · rfl
  · intro _
    rfl
  · rintro offset rest rfl
    rcases before with same | same <;> exact DeletePc.noConfusion same

/-- A piece of an append is written. -/
theorem Complete.write {chunk rest : Text} {batch : List (Row file)}
    {left : List (List (Row file))}
    (complete : Complete request rows text deleter (.writing (chunk ++ rest) batch left))
    (quiet : ∀ offset rest, deleter = .rewriting offset rest → rest = []) :
    Complete request rows (text ++ chunk) deleter (.writing rest batch left) := by
  have no_rest : deleter.rest = [] := by
    cases deleter with
    | rewriting offset rest => exact quiet offset rest rfl
    | _ => rfl
  obtain ⟨earlier, back, head, holds, eq, kept, reads⟩ := complete.table
  refine ⟨⟨earlier, back, head, holds, ?_, kept, reads⟩, ?_⟩
  · rw [← eq, no_rest]
    simp [AppendPc.rest]
  · intro offset rest rewriting some_rest
    exact absurd (quiet offset rest rewriting) some_rest

/-- The deletion moves without touching the file. -/
theorem Complete.moveDeleter (next : DeletePc)
    (complete : Complete request rows text deleter active) (same : next.rest = deleter.rest)
    (reads : next.reads = true → deleter.reads = true)
    (cursor : ∀ offset rest, next = .rewriting offset rest → rest = []) :
    Complete request rows text next active := by
  obtain ⟨earlier, back, head, holds, eq, kept, suffix⟩ := complete.table
  refine ⟨⟨earlier, back, head, holds, by rw [same, eq], kept, fun next => suffix (reads next)⟩, ?_⟩
  intro offset rest rewriting some_rest
  exact absurd (cursor offset rest rewriting) some_rest

/-- The file is truncated: the new text holds the kept rows of what the file held. -/
theorem Complete.truncate {new : Text}
    (complete : Complete request rows text (.decided text) active)
    (changes : deleteCsvRows request text = .rewritten new)
    (between : ∃ front back, active.batch = front ++ back ∧ active.rest = rowsText back) :
    Complete request rows [] (.rewriting 0 new) active := by
  obtain ⟨earlier, batch, head, holds, eq, kept, suffix⟩ := complete.table
  obtain ⟨front, back, split, rest_eq⟩ := between
  have whole : batch = front ++ back := (suffix rfl).trans split
  have content : text = head ++ rowsText front := by
    rw [whole, rowsText_append, rest_eq, ← List.append_assoc] at eq
    simpa [DeletePc.rest] using List.append_cancel_right eq
  have read : Holds (earlier ++ front) text := content ▸ holds.append front
  refine ⟨⟨request.keep (earlier ++ front), back, new, read.deleteCsvRows_eq changes, ?_, ?_, ?_⟩,
    ?_⟩
  · rw [DeletePc.rest, rest_eq, List.nil_append]
  · rw [keep_append, keep_keep, ← keep_append, List.append_assoc, ← whole, kept]
  · intro impossible
    exact Bool.noConfusion impossible
  · intro offset rest rewriting _
    injection rewriting with start _

theorem overwrite_end (text chunk : Text) : overwrite text text.length chunk = text ++ chunk := by
  simp [overwrite]

/-- A piece of the new text is written. -/
theorem Complete.overwrite {offset : ℕ} {chunk rest : Text} (some_chunk : chunk ≠ [])
    (complete : Complete request rows text (.rewriting offset (chunk ++ rest)) active) :
    Complete request rows (overwrite text offset chunk)
      (.rewriting (offset + chunk.length) rest) active := by
  have at_end := complete.cursor offset _ rfl (by simp [some_chunk])
  obtain ⟨earlier, back, head, holds, eq, kept, _⟩ := complete.table
  rw [← at_end, overwrite_end]
  refine ⟨⟨earlier, back, head, holds, ?_, kept, ?_⟩, ?_⟩
  · rw [← eq]
    simp [DeletePc.rest]
  · intro impossible
    exact Bool.noConfusion impossible
  · intro offset rest rewriting _
    injection rewriting with start _
    rw [← start, List.length_append]

end Complete

/-! ### Steps and runs -/

section Steps

variable {request : Deletion} {batches : Fin count → List (List (Row file))}
  {base appended : List (Row file)} {state : CleanState file count} {index : Fin count}
  {pc : AppendPc file}

theorem active_locked (index : Fin count) (held : state.lock = some index)
    (there : state.appender index = pc) :
    state.active = pc := by
  simp [CleanState.active, held, there]

theorem Survives.active (survives : Survives request base appended state)
    (inside : (state.appender index).holds = true) : state.active = state.appender index :=
  active_locked index (survives.locked index inside) rfl

/-- Only the lock holder moves, so the lock stays where it is. -/
theorem Survives.locked_move (survives : Survives request base appended state)
    (inside : (state.appender index).holds = true) (other : Fin count)
    (holds : (Function.update state.appender index pc other).holds = true) :
    state.lock = some other := by
  by_cases same : other = index
  · rw [same]
    exact survives.locked index inside
  · rw [Function.update_of_ne same] at holds
    exact survives.locked other holds

/-- No other run is about to open the file. -/
theorem Survives.opening_move (survives : Survives request base appended state)
    (inside : (state.appender index).holds = true)
    {other : Fin count} {existed : Bool} {batch : List (Row file)}
    {left : List (List (Row file))}
    (opens : Function.update state.appender index pc other = .opening existed batch left) :
    pc = .opening existed batch left := by
  have holds : (Function.update state.appender index pc other).holds = true := by
    rw [opens]
    rfl
  have same : other = index := by
    have mine := survives.locked index inside
    rw [survives.locked_move inside other holds] at mine
    exact Option.some.inj mine
  rwa [same, Function.update_self] at opens

/-- The lock holder moves while it has nothing to write. -/
theorem Survives.move (survives : Survives request base appended state) (pc : AppendPc file)
    (inside : (state.appender index).holds = true)
    (no_rest : (state.appender index).rest = [])
    (next_rest : pc.rest = []) (next_batch : pc.batch = [])
    (opens : ∀ existed batch left, pc = .opening existed batch left →
      state.text.isSome = existed) :
    Survives request base (appended ++ (state.appender index).batch)
      (state.moveAppender index pc) := by
  have lock := survives.locked index inside
  have before := survives.active inside
  have after : (state.moveAppender index pc).active = pc :=
    active_locked index lock (Function.update_self ..)
  refine ⟨fun other holds => survives.locked_move inside other holds, ?_, ?_, ?_⟩
  · intro other existed batch left moved
    exact opens existed batch left (survives.opening_move inside moved)
  · intro missing
    obtain ⟨no_rows, _, no_batch, at_rest⟩ := survives.missing missing
    rw [before] at no_batch
    exact ⟨by rw [no_batch, List.append_nil, no_rows], by rw [after, next_rest],
      by rw [after, next_batch], at_rest⟩
  · intro text present
    have complete := survives.complete text present
    rw [before] at complete
    rw [after, ← List.append_assoc]
    exact complete.close no_rest next_rest next_batch

theorem Survives.acquire (survives : Survives request base appended state)
    (free : state.lock = none) (left : List (List (Row file))) :
    Survives request base appended
      { state.moveAppender index (.locked left) with lock := some index } := by
  have before : state.active = .idle := by simp [CleanState.active, free]
  have after : ({ state.moveAppender index (.locked left) with lock := some index } :
      CleanState file count).active = .locked left := Function.update_self ..
  have other_idle : ∀ other, (state.appender other).holds = false := by
    intro other
    by_contra holds
    rw [survives.locked other (by simpa using holds)] at free
    simp at free
  refine ⟨?_, ?_, ?_, ?_⟩
  · intro other holds
    by_cases same : other = index
    · exact congrArg some same.symm
    · have held : (Function.update state.appender index (.locked left) other).holds = true := holds
      rw [Function.update_of_ne same, other_idle other] at held
      exact Bool.noConfusion held
  · intro other existed batch more opens
    have moved : Function.update state.appender index (.locked left) other =
      .opening existed batch more := opens
    by_cases same : other = index
    · rw [same, Function.update_self] at moved
      simp at moved
    · rw [Function.update_of_ne same] at moved
      exact survives.opening other existed batch more moved
  · intro missing
    obtain ⟨no_rows, _, _, at_rest⟩ := survives.missing missing
    exact ⟨no_rows, by rw [after]; rfl, by rw [after]; rfl, at_rest⟩
  · intro text present
    have complete := survives.complete text present
    rw [before] at complete
    rw [after]
    exact complete.idle rfl rfl rfl rfl

theorem Survives.openAppend (survives : Survives request base appended state) {existed : Bool}
    {batch : List (Row file)} {left : List (List (Row file))}
    (opens : state.appender index = .opening existed batch left) :
    Survives request base appended
      { state.moveAppender index (.writing (appendText existed batch) batch left) with
        text := some (state.text.getD []) } := by
  have inside : (state.appender index).holds = true := by rw [opens]; rfl
  have before := survives.active inside
  have after : ({ state.moveAppender index (.writing (appendText existed batch) batch left) with
      text := some (state.text.getD []) } : CleanState file count).active =
        .writing (appendText existed batch) batch left :=
    active_locked index (survives.locked index inside) (Function.update_self ..)
  refine ⟨fun other holds => survives.locked_move inside other holds, ?_, ?_, ?_⟩
  · intro other again more rest moved
    have impossible := survives.opening_move inside moved
    simp at impossible
  · intro missing
    simp at missing
  · intro text present
    have there := survives.opening index existed batch left opens
    rw [after]
    cases stored : state.text with
    | none =>
        obtain ⟨no_rows, _, _, at_rest⟩ := survives.missing stored
        have new : existed = false := by simpa [stored] using there.symm
        have empty : text = [] := by simpa [stored] using present.symm
        rw [no_rows, empty, new]
        exact complete_created at_rest batch left
    | some old =>
        have same : text = old := by simpa [stored] using present.symm
        have old_file : existed = true := by simpa [stored] using there.symm
        have complete := survives.complete old stored
        rw [before, opens] at complete
        rw [same, old_file]
        exact complete.opened rfl rfl batch left

theorem Survives.write (survives : Survives request base appended state)
    {text chunk rest : Text} {batch : List (Row file)} {left : List (List (Row file))}
    (writes : state.appender index = .writing (chunk ++ rest) batch left)
    (present : state.text = some text)
    (quiet : ∀ offset rest, state.deleter = .rewriting offset rest → rest = []) :
    Survives request base appended
      { state.moveAppender index (.writing rest batch left) with
        text := some (text ++ chunk) } := by
  have inside : (state.appender index).holds = true := by rw [writes]; rfl
  have before := survives.active inside
  have after : ({ state.moveAppender index (.writing rest batch left) with
      text := some (text ++ chunk) } : CleanState file count).active = .writing rest batch left :=
    active_locked index (survives.locked index inside) (Function.update_self ..)
  refine ⟨fun other holds => survives.locked_move inside other holds, ?_, ?_, ?_⟩
  · intro other existed more rest moved
    have impossible := survives.opening_move inside moved
    simp at impossible
  · intro missing
    simp at missing
  · intro longer same
    have complete := survives.complete text present
    rw [before, writes] at complete
    rw [after, ← Option.some.inj same]
    exact complete.write quiet

theorem Survives.release (survives : Survives request base appended state) {succeeded : Bool}
    (leaves : state.appender index = (if succeeded then .locked [] else .failing)) :
    Survives request base appended
      { state.moveAppender index (.done succeeded) with lock := none } := by
  have inside : (state.appender index).holds = true := by
    rw [leaves]
    cases succeeded <;> rfl
  have no_rest : (state.appender index).rest = [] := by
    rw [leaves]
    cases succeeded <;> rfl
  have no_batch : (state.appender index).batch = [] := by
    rw [leaves]
    cases succeeded <;> rfl
  have before := survives.active inside
  have after : ({ state.moveAppender index (.done succeeded) with lock := none } :
      CleanState file count).active = .idle := rfl
  refine ⟨?_, ?_, ?_, ?_⟩
  · intro other holds
    have held : (Function.update state.appender index (.done succeeded) other).holds = true := holds
    by_cases same : other = index
    · rw [same, Function.update_self] at held
      exact Bool.noConfusion held
    · have mine := survives.locked index inside
      rw [Function.update_of_ne same] at held
      rw [survives.locked other held] at mine
      exact absurd (Option.some.inj mine) same
  · intro other existed batch left moved
    have impossible := survives.opening_move inside moved
    simp at impossible
  · intro missing
    obtain ⟨no_rows, _, _, at_rest⟩ := survives.missing missing
    exact ⟨no_rows, by rw [after]; rfl, by rw [after]; rfl, at_rest⟩
  · intro text present
    have complete := survives.complete text present
    rw [before] at complete
    rw [after]
    exact complete.idle no_rest no_batch rfl rfl

/-- The deletion moves while the file exists. -/
theorem Survives.moveDeleter (survives : Survives request base appended state) {text new : Text}
    {deleter : DeletePc} (present : state.text = some text)
    (complete : Complete request (base ++ appended) new deleter state.active) :
    Survives request base appended { state with text := some new, deleter := deleter } where
  locked := survives.locked
  opening index existed batch left opens := by
    have there := survives.opening index existed batch left opens
    rw [present] at there
    exact there
  missing absent := by simp at absent
  complete other same := Option.some.inj same ▸ complete

/-- The file exists once the deletion has opened it. -/
theorem Survives.present (survives : Survives request base appended state)
    (started : state.deleter ≠ .start ∧ state.deleter ≠ .finished) :
    ∃ text, state.text = some text := by
  cases stored : state.text with
  | some text => exact ⟨text, rfl⟩
  | none =>
      obtain ⟨_, _, _, at_rest⟩ := survives.missing stored
      rcases at_rest with start | finished
      · exact absurd start started.1
      · exact absurd finished started.2

theorem checked_opening {text : Option Text} {batch again : List (Row file)}
    {left more : List (List (Row file))} {existed : Bool}
    (opens : checked text batch left = .opening existed again more) : text.isSome = existed := by
  unfold checked at opens
  split at opens
  · injection opens
  · split at opens
    · injection opens
    · simp at opens

theorem checked_rest {text : Option Text} {batch : List (Row file)}
    {left : List (List (Row file))} : (checked text batch left).rest = [] := by
  unfold checked
  split
  · rfl
  · split <;> rfl

theorem checked_batch {text : Option Text} {batch : List (Row file)}
    {left : List (List (Row file))} : (checked text batch left).batch = [] := by
  unfold checked
  split
  · rfl
  · split <;> rfl

theorem survives_step {after : CleanState file count} {label : CleanLabel file count}
    (survives : Survives request base appended state)
    (step : CleanStep request batches state label after) (allowed : Undisturbed state label) :
    Survives request base (appended ++ appendedRows [label]) after := by
  have same_rows {rows : List (Row file)} {later : CleanState file count} (none_added : rows = [])
      (kept : Survives request base appended later) :
      Survives request base (appended ++ rows) later := by
    rwa [none_added, List.append_nil]
  cases step with
  | acquire _ free => exact same_rows rfl (survives.acquire free _)
  | @check index batch left at_lock =>
      have inside : (state.appender index).holds = true := by rw [at_lock]; rfl
      have moved := survives.move (checked state.text batch left) inside
        (by rw [at_lock]; rfl) checked_rest checked_batch (fun _ _ _ => checked_opening)
      rw [at_lock] at moved
      exact moved
  | openAppend opens => exact same_rows rfl (survives.openAppend opens)
  | write writes _ present => exact same_rows rfl (survives.write writes present allowed)
  | @append index batch left written =>
      have inside : (state.appender index).holds = true := by rw [written]; rfl
      have moved := survives.move (.locked left) inside (by rw [written]; rfl) rfl rfl
        (by simp)
      have rows : (state.appender index).batch = appendedRows [.append index batch] := by
        rw [written]
        simp [AppendPc.batch, appendedRows]
      rwa [rows] at moved
  | release leaves => exact same_rows rfl (survives.release leaves)
  | skip start missing =>
      apply same_rows rfl
      refine ⟨survives.locked, survives.opening, ?_, ?_⟩
      · intro missing
        obtain ⟨no_rows, no_rest, no_batch, _⟩ := survives.missing missing
        exact ⟨no_rows, no_rest, no_batch, .inr rfl⟩
      · intro text present
        rw [missing] at present
        simp at present
  | openRead start present =>
      have complete := (survives.complete _ present).moveDeleter (.reading [])
        (by rw [start]; rfl) (fun _ => by rw [start]; rfl) (by simp)
      have moved := survives.moveDeleter present complete
      rw [← present] at moved
      exact same_rows rfl moved
  | @read seen _ chunk _ reads present _ _ =>
      have complete := (survives.complete _ present).moveDeleter (.reading (seen ++ chunk))
        (by rw [reads]; rfl) (fun _ => by rw [reads]; rfl) (by simp)
      have moved := survives.moveDeleter present complete
      rw [← present] at moved
      exact same_rows rfl moved
  | @endOfFile seen _ reads present _ =>
      have complete := (survives.complete _ present).moveDeleter (.decided seen)
        (by rw [reads]; rfl) (fun _ => by rw [reads]; rfl) (by simp)
      have moved := survives.moveDeleter present complete
      rw [← present] at moved
      exact same_rows rfl moved
  | @giveUp seen gives_up =>
      have no_rest : state.deleter.rest = [] := by
        rcases gives_up with reads | ⟨decided, _⟩
        · rw [reads]; rfl
        · rw [decided]; rfl
      obtain ⟨text, present⟩ := survives.present (by
        rcases gives_up with reads | ⟨decided, _⟩
        · simp [reads]
        · simp [decided])
      have complete := (survives.complete _ present).moveDeleter .finished
        (by rw [no_rest]; rfl) (fun impossible => Bool.noConfusion impossible) (by simp)
      have moved := survives.moveDeleter present complete
      rw [← present] at moved
      exact same_rows rfl moved
  | @truncate seen new decided changes =>
      obtain ⟨unchanged, between⟩ := allowed seen decided
      have complete := survives.complete seen unchanged
      rw [decided] at complete
      refine same_rows rfl (survives.moveDeleter unchanged (complete.truncate changes ?_))
      cases active : state.active with
      | writing rest batch left =>
          have writes : ∃ index, state.appender index = .writing rest batch left := by
            unfold CleanState.active at active
            split at active
            · simp at active
            · exact ⟨_, active⟩
          obtain ⟨index, writes⟩ := writes
          exact between index rest batch left writes
      | _ => exact ⟨[], [], rfl, rfl⟩
  | overwrite rewriting some_chunk present =>
      have complete := survives.complete _ present
      rw [rewriting] at complete
      exact same_rows rfl (survives.moveDeleter present (complete.overwrite some_chunk))
  | finish rewriting =>
      obtain ⟨text, present⟩ := survives.present (by simp [rewriting])
      have complete := (survives.complete _ present).moveDeleter .finished
        (by rw [rewriting]; rfl) (fun impossible => Bool.noConfusion impossible) (by simp)
      have moved := survives.moveDeleter present complete
      rw [← present] at moved
      exact same_rows rfl moved

theorem appendedRows_append (front back : List (CleanLabel file count)) :
    appendedRows (front ++ back) = appendedRows front ++ appendedRows back :=
  List.flatMap_append

theorem survives_init {stored : Option Text} (holds : Stored stored base) :
    Survives request base [] (⟨stored, none, fun _ => .idle, .start⟩ : CleanState file count) := by
  refine ⟨?_, ?_, ?_, ?_⟩
  · intro index impossible
    exact Bool.noConfusion impossible
  · intro index existed batch left impossible
    simp at impossible
  · intro missing
    have missing : stored = none := missing
    rw [missing] at holds
    have empty : base = [] := holds
    exact ⟨by rw [empty]; rfl, rfl, rfl, .inl rfl⟩
  · intro text present
    have present : stored = some text := present
    rw [present] at holds
    refine ⟨⟨base, [], text, holds, ?_, ?_, ?_⟩, ?_⟩
    · simp [DeletePc.rest, CleanState.active, AppendPc.rest, rowsText]
    · simp [CleanState.active, AppendPc.batch]
    · intro _
      rfl
    · intro offset rest impossible
      simp at impossible

/-- When all processes have finished, the file holds the kept rows of the beginning and of all
appends, in this order. -/
theorem Survives.ended (survives : Survives request base appended state) (ended : state.Ended) :
    ∃ rows : List (Row file), fileRows state.text = rows.map Row.cells ∧
      request.keep rows = request.keep (base ++ appended) := by
  have active : state.active.rest = [] ∧ state.active.batch = [] := by
    unfold CleanState.active
    split
    · exact ⟨rfl, rfl⟩
    · rename_i index _
      obtain ⟨succeeded, done⟩ := ended.2 index
      rw [done]
      exact ⟨rfl, rfl⟩
  cases stored : state.text with
  | none =>
      refine ⟨[], rfl, ?_⟩
      rw [(survives.missing stored).1]
  | some text =>
      obtain ⟨earlier, back, head, holds, eq, kept, _⟩ := (survives.complete text stored).table
      rw [ended.1, active.1] at eq
      have content : text = head ++ rowsText back := by simpa [DeletePc.rest] using eq
      have holds : Holds (earlier ++ back) text := content ▸ holds.append back
      refine ⟨earlier ++ back, ?_, ?_⟩
      · rw [fileRows, holds.records_eq]
        rfl
      · rw [kept, active.2, List.append_nil]

end Steps

/-! ### No row is lost -/

theorem Row.cells_injective : Function.Injective (Row.cells : Row file → List Text) := by
  intro left right same
  cases left
  cases right
  simpa using same

/-- Every row which the filter does not match is in the file as often as it was there before and was
appended. -/
theorem appends_survive (file : DataFile) (request : Deletion) {count : ℕ}
    (batches : Fin count → List (List (Row file))) {stored : Option Text} {base : List (Row file)}
    (holds : Stored stored base) {trace : List (CleanLabel file count)}
    {state : CleanState file count}
    (run : ((cleanUp request batches stored).restrict Undisturbed).Run trace state)
    (ended : state.Ended) (row : Row file)
    (unmatched : request.deletes (dictRow file.fieldnames row.cells) = false) :
    (fileRows state.text).count row.cells = base.count row + (appendedRows trace).count row := by
  obtain ⟨initial, rfl, path⟩ := run
  have survives : Survives request base (appendedRows ([] ++ trace)) state := by
    apply path.invariant_trace (fun past state => Survives request base (appendedRows past) state)
    · exact survives_init holds
    · intro past before label after survives step
      rw [appendedRows_append]
      exact survives_step survives step.1 step.2
  obtain ⟨rows, read, kept⟩ := survives.ended ended
  have passes : (!request.deletes (dictRow file.fieldnames row.cells)) = true := by
    simp [unmatched]
  calc
    (fileRows state.text).count row.cells = rows.count row := by
      rw [read, List.count_map_of_injective _ _ Row.cells_injective]
    _ = (request.keep rows).count row := by
      symm
      apply List.count_filter
      exact passes
    _ = (base ++ appendedRows trace).count row := by
      rw [kept]
      apply List.count_filter
      exact passes
    _ = base.count row + (appendedRows trace).count row := List.count_append

/-! ### Sample runs -/

section Samples

variable {request : Deletion} {batches : Fin 1 → List (List (Row file))} {stored : Option Text}
  {Allowed : CleanState file 1 → CleanLabel file 1 → Prop} {state : CleanState file 1}
  {text new : Text} {batch : List (Row file)}

/-- The deletion reads the file at once. -/
def readLabels : List (CleanLabel file 1) :=
  [.openRead, .read, .endOfFile]

/-- A run appends one batch at once. -/
def appendLabels (batch : List (Row file)) : List (CleanLabel file 1) :=
  [.acquire 0, .check 0, .openAppend 0, .write 0, .append 0 batch, .release 0]

/-- The deletion writes the new text at once. -/
def rewriteLabels : List (CleanLabel file 1) :=
  [.truncate, .overwrite, .finish]

theorem reads_whole (allowed : ∀ state, ∀ label ∈ (readLabels : List (CleanLabel file 1)),
      Allowed state label)
    (start : state.deleter = .start) (present : state.text = some text) (some_text : text ≠ []) :
    ((cleanUp request batches stored).restrict Allowed).Path state readLabels
      { state with deleter := .decided text } := by
  have opens : CleanStep request batches state .openRead { state with deleter := .reading [] } :=
    .openRead start present
  have reads : CleanStep request batches { state with deleter := .reading [] } .read
      { state with deleter := .reading text } :=
    @CleanStep.read file 1 request batches { state with deleter := .reading [] } [] text text []
      rfl present (List.append_nil text).symm some_text
  have ends : CleanStep request batches { state with deleter := .reading text } .endOfFile
      { state with deleter := .decided text } :=
    .endOfFile rfl present (Nat.le_refl _)
  exact .cons ⟨opens, allowed _ _ (by simp [readLabels])⟩ (.cons
    ⟨reads, allowed _ _ (by simp [readLabels])⟩ (.cons
    ⟨ends, allowed _ _ (by simp [readLabels])⟩ (.nil _)))

theorem rewrites_whole (truncates : Allowed state .truncate)
    (allowed : ∀ state, Allowed state .overwrite ∧ Allowed state .finish)
    (decided : state.deleter = .decided text)
    (changes : deleteCsvRows request text = .rewritten new) (some_text : new ≠ []) :
    ((cleanUp request batches stored).restrict Allowed).Path state rewriteLabels
      { state with text := some new, deleter := .finished } := by
  have first : CleanStep request batches state .truncate
      { state with text := some [], deleter := .rewriting 0 new } :=
    .truncate decided changes
  have second : CleanStep request batches
      { state with text := some [], deleter := .rewriting 0 new } .overwrite
      { state with text := some new, deleter := .rewriting (0 + new.length) [] } := by
    have step := @CleanStep.overwrite file 1 request batches
      { state with text := some [], deleter := .rewriting 0 new } 0 [] new []
      (by rw [List.append_nil]) some_text rfl
    have written : overwrite [] 0 new = new := overwrite_end [] new
    rwa [written] at step
  have third : CleanStep request batches
      { state with text := some new, deleter := .rewriting (0 + new.length) [] } .finish
      { state with text := some new, deleter := .finished } :=
    .finish rfl
  exact .cons ⟨first, truncates⟩ (.cons ⟨second, (allowed _).1⟩ (.cons
    ⟨third, (allowed _).2⟩ (.nil _)))

theorem moveAppender_single (text : Option Text) (lock : Option (Fin 1)) (pc next : AppendPc file)
    (deleter : DeletePc) :
    (⟨text, lock, fun _ => pc, deleter⟩ : CleanState file 1).moveAppender 0 next =
      ⟨text, lock, fun _ => next, deleter⟩ := by
  have only : Function.update (fun _ : Fin 1 => pc) 0 next = fun _ => next := by
    funext index
    rw [Subsingleton.elim index 0, Function.update_self]
  rw [CleanState.moveAppender, only]

theorem appends_whole {deleter : DeletePc}
    (allowed : ∀ state, ∀ label ∈ appendLabels batch, label ≠ .write 0 → Allowed state label)
    (writes : ∀ state : CleanState file 1, state.deleter = deleter → Allowed state (.write 0))
    (one_batch : batches 0 = [batch]) (header : headerOf text = some file.fieldnames)
    (some_row : rowsText batch ≠ []) :
    ((cleanUp request batches stored).restrict Allowed).Path
      ⟨some text, none, fun _ => .idle, deleter⟩ (appendLabels batch)
      ⟨some (text ++ rowsText batch), none, fun _ => .done true, deleter⟩ := by
  have locks : CleanStep request batches ⟨some text, none, fun _ => .idle, deleter⟩ (.acquire 0)
      ⟨some text, some 0, fun _ => .locked [batch], deleter⟩ := by
    have step := @CleanStep.acquire file 1 request batches
      ⟨some text, none, fun _ => .idle, deleter⟩ 0 rfl rfl
    rwa [moveAppender_single, one_batch] at step
  have checks : CleanStep request batches ⟨some text, some 0, fun _ => .locked [batch], deleter⟩
      (.check 0) ⟨some text, some 0, fun _ => .opening true batch [], deleter⟩ := by
    have step := @CleanStep.check file 1 request batches
      ⟨some text, some 0, fun _ => .locked [batch], deleter⟩ 0 batch [] rfl
    have passes : checked (some text) batch [] = .opening true batch [] := by
      simp [checked, header]
    rwa [moveAppender_single, passes] at step
  have opens : CleanStep request batches
      ⟨some text, some 0, fun _ => .opening true batch [], deleter⟩ (.openAppend 0)
      ⟨some text, some 0, fun _ => .writing (rowsText batch) batch [], deleter⟩ := by
    have step := @CleanStep.openAppend file 1 request batches
      ⟨some text, some 0, fun _ => .opening true batch [], deleter⟩ 0 true batch [] rfl
    rwa [moveAppender_single] at step
  have fills : CleanStep request batches
      ⟨some text, some 0, fun _ => .writing (rowsText batch) batch [], deleter⟩ (.write 0)
      ⟨some (text ++ rowsText batch), some 0, fun _ => .writing [] batch [], deleter⟩ := by
    have step := @CleanStep.write file 1 request batches
      ⟨some text, some 0, fun _ => .writing (rowsText batch) batch [], deleter⟩ 0 text
      (rowsText batch) [] batch [] (by rw [List.append_nil]) some_row rfl
    rwa [moveAppender_single] at step
  have closes : CleanStep request batches
      ⟨some (text ++ rowsText batch), some 0, fun _ => .writing [] batch [], deleter⟩
      (.append 0 batch)
      ⟨some (text ++ rowsText batch), some 0, fun _ => .locked [], deleter⟩ := by
    have step := @CleanStep.append file 1 request batches
      ⟨some (text ++ rowsText batch), some 0, fun _ => .writing [] batch [], deleter⟩ 0 batch [] rfl
    rwa [moveAppender_single] at step
  have leaves : CleanStep request batches
      ⟨some (text ++ rowsText batch), some 0, fun _ => .locked [], deleter⟩ (.release 0)
      ⟨some (text ++ rowsText batch), none, fun _ => .done true, deleter⟩ := by
    have step := @CleanStep.release file 1 request batches
      ⟨some (text ++ rowsText batch), some 0, fun _ => .locked [], deleter⟩ 0 true rfl
    rwa [moveAppender_single] at step
  have harmless (state : CleanState file 1) {label : CleanLabel file 1}
      (listed : label ∈ appendLabels batch) (no_write : label ≠ .write 0) : Allowed state label :=
    allowed state label listed no_write
  exact .cons ⟨locks, harmless _ (by simp [appendLabels]) (by simp)⟩ (.cons
    ⟨checks, harmless _ (by simp [appendLabels]) (by simp)⟩ (.cons
    ⟨opens, harmless _ (by simp [appendLabels]) (by simp)⟩ (.cons
    ⟨fills, writes _ rfl⟩ (.cons
    ⟨closes, harmless _ (by simp [appendLabels]) (by simp)⟩ (.cons
    ⟨leaves, harmless _ (by simp [appendLabels]) (by simp)⟩ (.nil _))))))

end Samples

theorem Holds.headerOf_eq {rows : List (Row file)} {text : Text} (holds : Holds rows text) :
    headerOf text = some file.fieldnames := by
  simp [headerOf, holds.records_eq]

def sampleRow (run : Text) : Row .unmappedReadBlocks :=
  ⟨[run, "task".toList, "workload".toList, "1".toList, "rootfs".toList, "2".toList], rfl⟩

/-- A row which the sample deletion deletes. -/
def sampleOld : Row .unmappedReadBlocks :=
  sampleRow "run-1".toList

/-- A row which it leaves. -/
def sampleNew : Row .unmappedReadBlocks :=
  sampleRow "run-2".toList

/-- The rows of `run-1` are deleted. -/
def sampleDeletion : Deletion :=
  ⟨some "run-1".toList, none, false⟩

/-- The table at the beginning. -/
def sampleText : Text :=
  printRow ['\r', '\n'] DataFile.unmappedReadBlocks.fieldnames ++ rowsText [sampleOld]

/-- The table which the deletion leaves of it. -/
def sampleRewritten : Text :=
  printRow ['\n'] DataFile.unmappedReadBlocks.fieldnames

/-- One run appends one row. -/
def sampleBatches (_ : Fin 1) : List (List (Row .unmappedReadBlocks)) :=
  [[sampleNew]]

theorem sampleText_holds : Holds [sampleOld] sampleText :=
  holds_printed (.inr rfl) [sampleOld]

theorem sampleRewritten_holds :
    Holds ([] : List (Row .unmappedReadBlocks)) sampleRewritten := by
  have printed := @holds_printed .unmappedReadBlocks ['\n'] (.inl rfl) []
  rwa [List.map_nil, List.flatMap_nil, List.append_nil] at printed

theorem sampleOld_deleted : sampleDeletion.deletes
    (dictRow DataFile.unmappedReadBlocks.fieldnames sampleOld.cells) = true := by
  decide

theorem sampleNew_kept : sampleDeletion.deletes
    (dictRow DataFile.unmappedReadBlocks.fieldnames sampleNew.cells) = false := by
  decide

theorem sampleText_rewritten :
    deleteCsvRows sampleDeletion sampleText = .rewritten sampleRewritten := by
  rw [deleteCsvRows, sampleText_holds.readDicts_eq]
  simp only [List.map_cons, List.map_nil, List.countP_cons, List.countP_nil, List.filter_cons,
    List.filter_nil, sampleOld_deleted]
  rfl

theorem rowsText_ne_nil (row : Row file) : rowsText [row] ≠ [] := by
  simp [rowsText, printRow]

/-- The deletion and the run, whichever comes first. -/
theorem sample_undisturbed {state : CleanState .unmappedReadBlocks 1}
    {label : CleanLabel .unmappedReadBlocks 1} (no_truncate : label ≠ .truncate)
    (no_write : label ≠ .write 0) : Undisturbed state label := by
  cases label with
  | truncate => exact absurd rfl no_truncate
  | write index => exact absurd (by rw [Subsingleton.elim index 0]) no_write
  | _ => exact trivial

/-- A run which begins once the deletion is over. -/
theorem appends_survive_later :
    (fileRows (some (sampleRewritten ++ rowsText [sampleNew]))).count sampleNew.cells =
      [sampleOld].count sampleNew +
        (appendedRows ((readLabels ++ rewriteLabels) ++ appendLabels [sampleNew])).count
          sampleNew := by
  have reads := @reads_whole .unmappedReadBlocks sampleDeletion sampleBatches (some sampleText)
    Undisturbed ⟨some sampleText, none, fun _ => .idle, .start⟩ sampleText
    (by
      intro state label listed
      apply sample_undisturbed <;> rintro rfl <;> simp [readLabels] at listed)
    rfl rfl (by simp [sampleText, printRow])
  have rewrites := @rewrites_whole .unmappedReadBlocks sampleDeletion sampleBatches
    (some sampleText) Undisturbed ⟨some sampleText, none, fun _ => .idle, .decided sampleText⟩
    sampleText sampleRewritten
    (by
      intro seen decided
      injection decided with same
      refine ⟨congrArg some same, ?_⟩
      intro index rest batch left impossible
      simp at impossible)
    (fun state => ⟨trivial, trivial⟩) rfl sampleText_rewritten (by simp [sampleRewritten, printRow])
  have appends := @appends_whole .unmappedReadBlocks sampleDeletion sampleBatches
    (some sampleText) Undisturbed sampleRewritten [sampleNew] .finished
    (by
      intro state label listed no_write
      apply sample_undisturbed _ no_write
      rintro rfl
      simp [appendLabels] at listed)
    (by
      intro state finished offset rest rewriting
      rw [finished] at rewriting
      simp at rewriting)
    rfl sampleRewritten_holds.headerOf_eq (rowsText_ne_nil sampleNew)
  have stored : Stored (some sampleText) [sampleOld] := sampleText_holds
  exact appends_survive .unmappedReadBlocks sampleDeletion sampleBatches stored
    ⟨_, rfl, (reads.trans rewrites).trans appends⟩ ⟨rfl, fun _ => ⟨true, rfl⟩⟩ sampleNew
    sampleNew_kept

/-- A row appended between the reading and the truncation is lost. -/
theorem not_appends_survive_between :
    Stored (some sampleText) [sampleOld] ∧
      ¬ ∀ trace (state : CleanState .unmappedReadBlocks 1),
        (cleanUp sampleDeletion sampleBatches (some sampleText)).Run trace state →
        state.Ended → ∀ row : Row .unmappedReadBlocks,
          sampleDeletion.deletes (dictRow DataFile.unmappedReadBlocks.fieldnames row.cells) =
            false →
          (fileRows state.text).count row.cells =
            [sampleOld].count row + (appendedRows trace).count row := by
  refine ⟨sampleText_holds, fun survives => ?_⟩
  have reads := @reads_whole .unmappedReadBlocks sampleDeletion sampleBatches (some sampleText)
    (fun _ _ => True) ⟨some sampleText, none, fun _ => .idle, .start⟩ sampleText
    (fun _ _ _ => trivial) rfl rfl (by simp [sampleText, printRow])
  have appends := @appends_whole .unmappedReadBlocks sampleDeletion sampleBatches
    (some sampleText) (fun _ _ => True) sampleText [sampleNew] (.decided sampleText)
    (fun _ _ _ _ => trivial) (fun _ _ => trivial) rfl sampleText_holds.headerOf_eq
    (rowsText_ne_nil sampleNew)
  have rewrites := @rewrites_whole .unmappedReadBlocks sampleDeletion sampleBatches
    (some sampleText) (fun _ _ => True)
    ⟨some (sampleText ++ rowsText [sampleNew]), none, fun _ => .done true, .decided sampleText⟩
    sampleText sampleRewritten trivial (fun _ => ⟨trivial, trivial⟩) rfl sampleText_rewritten
    (by simp [sampleRewritten, printRow])
  have counts := survives _ _ ⟨_, rfl, ((reads.trans appends).trans rewrites).of_restrict⟩
    ⟨rfl, fun _ => ⟨true, rfl⟩⟩ sampleNew sampleNew_kept
  rw [fileRows, sampleRewritten_holds.records_eq] at counts
  simp [appendedRows, readLabels, appendLabels, rewriteLabels] at counts

end Data
end HermOS
