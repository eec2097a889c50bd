import HermOS.Library.ByteStream
import HermOS.Library.TextCodec
import Mathlib.Tactic.Common

/-!
# The head of an HTTP message

A head is a list of lines, each ended by CRLF, and an empty line.  A loop over lines which goes on
at each line of the head and stops at the empty line folds over the head and leaves what follows it.
-/

namespace HermOS
namespace Http

open Codec Reading

/-- CR LF. -/
abbrev crlf : List UInt8 :=
  [13, 10]

def headBytes (lines : List (List UInt8)) : List UInt8 :=
  lines.flatMap (· ++ crlf) ++ crlf

def headText (lines : List (List Char)) : List Char :=
  lines.flatMap (· ++ ['\r', '\n']) ++ ['\r', '\n']

theorem utf8_headText (lines : List (List Char)) :
    utf8 (headText lines) = headBytes (lines.map utf8) := by
  have lines_eq : utf8 (lines.flatMap (· ++ ['\r', '\n'])) =
      (lines.map utf8).flatMap (· ++ crlf) := by
    induction lines with
    | nil => rfl
    | cons line lines ih =>
        rw [List.flatMap_cons, utf8_append, ih, List.map_cons, List.flatMap_cons, utf8_append]
        rfl
  rw [headText, utf8_append, lines_eq]
  rfl

theorem ascii_headText {lines : List (List Char)} (each : ∀ line ∈ lines, Ascii line) :
    Ascii (headText lines) := by
  have line_end : Ascii ['\r', '\n'] := by decide
  refine ascii_append (fun c inside => ?_) line_end
  obtain ⟨line, member, inside⟩ := List.mem_flatMap.mp inside
  exact ascii_append (each line member) line_end c inside

theorem lineFeed_not_mem_utf8 {text : List Char} (free : '\n' ∉ text) : lineFeed ∉ utf8 text :=
  not_mem_utf8 free (by decide)

theorem headBytes_cons {line bytes : List UInt8} {lines : List (List UInt8)} :
    headBytes (line :: lines) ++ bytes =
      (line ++ [13]) ++ lineFeed :: (headBytes lines ++ bytes) := by
  simp [headBytes]

variable {Error Value State : Type} {broken : Error} {limit : Option ℕ}
  {body : State → List UInt8 → Except Error (State ⊕ Value)} {ending : Ending}
  {line bytes : List UInt8} {lines : List (List UInt8)}

/-- A line of a head as `readline` takes it, with both bytes of its end. -/
def Fits (limit : Option ℕ) (line : List UInt8) : Prop :=
  lineFeed ∉ line ∧ ∀ count ∈ limit, line.length + 2 ≤ count

theorem Fits.free (fits : Fits limit line) : lineFeed ∉ line ++ [13] := by
  rw [List.mem_append, not_or]
  exact ⟨fits.1, by decide⟩

theorem Fits.short (fits : Fits limit line) : ∀ count ∈ limit, (line ++ [13]).length < count := by
  intro count inside
  have := fits.2 count inside
  rw [List.length_append]
  exact this

theorem readLine_head (fits : Fits limit line) :
    readLine broken limit ⟨headBytes (line :: lines) ++ bytes, ending⟩ =
      some (.ok (line ++ crlf), ⟨headBytes lines ++ bytes, ending⟩) := by
  rw [headBytes_cons, readLine_line fits.free fits.short, List.append_assoc]
  rfl

theorem foldLines_head_next {state state' : State} (fits : Fits limit line)
    (goes_on : body state (line ++ crlf) = .ok (.inl state')) :
    foldLines broken limit body state ⟨headBytes (line :: lines) ++ bytes, ending⟩ =
      foldLines broken limit body state' ⟨headBytes lines ++ bytes, ending⟩ := by
  rw [headBytes_cons]
  exact foldLines_next fits.free fits.short (by rw [List.append_assoc]; exact goes_on)

theorem foldLines_head_take {state : State} {value : Value} (fits : Fits limit line)
    (stops : body state (line ++ crlf) = .ok (.inr value)) :
    foldLines broken limit body state ⟨headBytes (line :: lines) ++ bytes, ending⟩ =
      some (.ok value, ⟨headBytes lines ++ bytes, ending⟩) := by
  rw [headBytes_cons]
  exact foldLines_stop fits.free fits.short (by rw [List.append_assoc]; exact stops)

theorem foldLines_head_error {state : State} {error : Error} (fits : Fits limit line)
    (raised : body state (line ++ crlf) = .error error) :
    foldLines broken limit body state ⟨headBytes (line :: lines) ++ bytes, ending⟩ =
      some (.error error, ⟨headBytes lines ++ bytes, ending⟩) := by
  rw [foldLines, readLine_head fits]
  simp only [raised]

theorem foldLines_head_stop {state : State} {value : Value} (room : Fits limit [])
    (stops : body state crlf = .ok (.inr value)) :
    foldLines broken limit body state ⟨headBytes [] ++ bytes, ending⟩ =
      some (.ok value, ⟨bytes, ending⟩) := by
  show foldLines broken limit body state ⟨([] ++ [13]) ++ lineFeed :: bytes, ending⟩ = _
  exact foldLines_stop room.free room.short stops

end Http
end HermOS
