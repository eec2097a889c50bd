import HermOS.Data.DeleteRows
import HermOS.Library.TransitionSystem
import Mathlib.Logic.Function.Basic

/-!
# Deleting rows while runs append

Runs append to a data file under the `data` lock, each append being a check of the header, an
opening and any number of writes at the end of the file.  One `delete_data.py` reads the file piece
by piece and later truncates it and writes the kept rows at its own offset; it takes no lock.  A
file is its text, and a write or a read moves some of its characters.
-/

namespace HermOS
namespace Data

open Python (Text)
open Csv

variable {file : DataFile} {count : ℕ}

/-! ### The two programs -/

/-- Where a run is with its appends to the file. -/
inductive AppendPc (file : DataFile)
  | idle
  /-- Holds the lock; the appends left. -/
  | locked (left : List (List (Row file)))
  /-- Behind the header check of `append_rows`. -/
  | opening (existed : Bool) (batch : List (Row file)) (left : List (List (Row file)))
  /-- The file is open for appending; the text not yet written. -/
  | writing (rest : Text) (batch : List (Row file)) (left : List (List (Row file)))
  /-- `append_rows` has raised, the lock is still held. -/
  | failing
  | done (succeeded : Bool)

/-- Where `delete_csv_rows` is with the file. -/
inductive DeletePc
  | start
  | reading (seen : Text)
  | decided (seen : Text)
  | rewriting (offset : ℕ) (rest : Text)
  | finished

/-- The file, the lock and both kinds of processes. -/
structure CleanState (file : DataFile) (count : ℕ) where
  text : Option Text
  lock : Option (Fin count)
  appender : Fin count → AppendPc file
  deleter : DeletePc

/-- Steps, as far as they are seen on the file. -/
inductive CleanLabel (file : DataFile) (count : ℕ)
  | acquire (index : Fin count)
  | check (index : Fin count)
  | openAppend (index : Fin count)
  | write (index : Fin count)
  | append (index : Fin count) (rows : List (Row file))
  | release (index : Fin count)
  | openRead
  | read
  | endOfFile
  | truncate
  | overwrite
  | finish

def CleanState.moveAppender (state : CleanState file count) (index : Fin count)
    (pc : AppendPc file) : CleanState file count :=
  { state with appender := Function.update state.appender index pc }

/-- `next(csv.reader(handle), [])`; `none` is an error of the reader. -/
def headerOf (text : Text) : Option (List Text) :=
  match records {} text with
  | (header :: _, _) => some header
  | ([], true) => some []
  | ([], false) => none

/-- The checks of `append_rows` before it opens the file for appending. -/
def checked (text : Option Text) (batch : List (Row file)) (left : List (List (Row file))) :
    AppendPc file :=
  match text with
  | none => .opening false batch left
  | some text =>
      if headerOf text = some file.fieldnames then .opening true batch left else .failing

def appendText (existed : Bool) (batch : List (Row file)) : Text :=
  (if existed then [] else printRow ['\r', '\n'] file.fieldnames) ++ rowsText batch

/-- A write at an offset; a gap behind the end of the file reads as zeros. -/
def overwrite (text : Text) (offset : ℕ) (chunk : Text) : Text :=
  text.take offset ++ List.replicate (offset - text.length) '\x00' ++ chunk ++
    text.drop (offset + chunk.length)

/-- One step of a run or of the deletion. -/
inductive CleanStep (request : Deletion) (batches : Fin count → List (List (Row file))) :
    CleanState file count → CleanLabel file count → CleanState file count → Prop
  | acquire {state : CleanState file count} {index : Fin count} :
      state.appender index = .idle → state.lock = none →
      CleanStep request batches state (.acquire index)
        { state.moveAppender index (.locked (batches index)) with lock := some index }
  | check {state : CleanState file count} {index : Fin count} {batch : List (Row file)}
      {left : List (List (Row file))} :
      state.appender index = .locked (batch :: left) →
      CleanStep request batches state (.check index)
        (state.moveAppender index (checked state.text batch left))
  | openAppend {state : CleanState file count} {index : Fin count} {existed : Bool}
      {batch : List (Row file)} {left : List (List (Row file))} :
      state.appender index = .opening existed batch left →
      CleanStep request batches state (.openAppend index)
        { state.moveAppender index (.writing (appendText existed batch) batch left) with
          text := some (state.text.getD []) }
  | write {state : CleanState file count} {index : Fin count} {text chunk rest : Text}
      {batch : List (Row file)} {left : List (List (Row file))} :
      state.appender index = .writing (chunk ++ rest) batch left → chunk ≠ [] →
      state.text = some text →
      CleanStep request batches state (.write index)
        { state.moveAppender index (.writing rest batch left) with text := some (text ++ chunk) }
  | append {state : CleanState file count} {index : Fin count} {batch : List (Row file)}
      {left : List (List (Row file))} :
      state.appender index = .writing [] batch left →
      CleanStep request batches state (.append index batch)
        (state.moveAppender index (.locked left))
  | release {state : CleanState file count} {index : Fin count} {succeeded : Bool} :
      state.appender index = (if succeeded then .locked [] else .failing) →
      CleanStep request batches state (.release index)
        { state.moveAppender index (.done succeeded) with lock := none }
  | skip {state : CleanState file count} :
      state.deleter = .start → state.text = none →
      CleanStep request batches state .openRead { state with deleter := .finished }
  | openRead {state : CleanState file count} {text : Text} :
      state.deleter = .start → state.text = some text →
      CleanStep request batches state .openRead { state with deleter := .reading [] }
  | read {state : CleanState file count} {seen text chunk later : Text} :
      state.deleter = .reading seen → state.text = some text →
      text.drop seen.length = chunk ++ later → chunk ≠ [] →
      CleanStep request batches state .read { state with deleter := .reading (seen ++ chunk) }
  | endOfFile {state : CleanState file count} {seen text : Text} :
      state.deleter = .reading seen → state.text = some text → text.length ≤ seen.length →
      CleanStep request batches state .endOfFile { state with deleter := .decided seen }
  /-- Reading or parsing raises, or nothing is to be deleted. -/
  | giveUp {state : CleanState file count} {seen : Text} :
      state.deleter = .reading seen ∨ state.deleter = .decided seen ∧
        (∀ new, deleteCsvRows request seen ≠ .rewritten new) →
      CleanStep request batches state .finish { state with deleter := .finished }
  | truncate {state : CleanState file count} {seen new : Text} :
      state.deleter = .decided seen → deleteCsvRows request seen = .rewritten new →
      CleanStep request batches state .truncate
        { state with text := some [], deleter := .rewriting 0 new }
  | overwrite {state : CleanState file count} {offset : ℕ} {text chunk rest : Text} :
      state.deleter = .rewriting offset (chunk ++ rest) → chunk ≠ [] → state.text = some text →
      CleanStep request batches state .overwrite
        { state with
          text := some (overwrite text offset chunk)
          deleter := .rewriting (offset + chunk.length) rest }
  | finish {state : CleanState file count} {offset : ℕ} :
      state.deleter = .rewriting offset [] →
      CleanStep request batches state .finish { state with deleter := .finished }

/-- The runs and the deletion on a file which holds some text, if it exists. -/
def cleanUp (request : Deletion) (batches : Fin count → List (List (Row file)))
    (stored : Option Text) :
    TransitionSystem (CleanState file count) (CleanLabel file count) where
  Initial state := state = ⟨stored, none, fun _ => .idle, .start⟩
  Step := CleanStep request batches

/-- All processes have finished. -/
def CleanState.Ended (state : CleanState file count) : Prop :=
  state.deleter = .finished ∧ ∀ index, ∃ succeeded, state.appender index = .done succeeded

/-- The rows which the appends of a run have added. -/
def appendedRows (trace : List (CleanLabel file count)) : List (Row file) :=
  trace.flatMap fun
    | .append _ rows => rows
    | _ => []

def fileRows (text : Option Text) : List (List Text) :=
  match text with
  | none => []
  | some text => (records {} text).1.tail

/-- The file holds these rows, or does not exist. -/
def Stored (text : Option Text) (rows : List (Row file)) : Prop :=
  match text with
  | none => rows = []
  | some text => Holds rows text

/-- When the deletion truncates the file, it holds what the deletion has read, and an append in
progress is between two rows; until the new text is written no run writes. -/
def Undisturbed (state : CleanState file count) : CleanLabel file count → Prop
  | .truncate => ∀ seen, state.deleter = .decided seen →
      state.text = some seen ∧
        ∀ index rest batch left, state.appender index = .writing rest batch left →
          ∃ front back, batch = front ++ back ∧ rest = rowsText back
  | .write _ => ∀ offset rest, state.deleter = .rewriting offset rest → rest = []
  | _ => True

end Data
end HermOS
