import HermOS.Library.Json
import HermOS.Library.PythonPattern
import HermOS.Replay.Patch

/-!
# Extracting actions from a rollout

`extract_actions` of `parse_codex_history.py`, with the fields of an action which `clean_actions`
reads.  The decoder of JSON texts is a parameter.
-/

namespace HermOS
namespace Replay

open Python (Text)
open Json (Fields get)

/-- An exception which the extraction does not catch. -/
inductive ExtractError
  /-- `TypeError`: a list or a dictionary looked up in a set. -/
  | unhashable
  /-- `ValueError`: `int` of too many digits. -/
  | tooManyDigits
  /-- What `json.loads` raises apart from `JSONDecodeError`. -/
  | loads

/-- What `json.loads` does with a text. -/
inductive Loaded
  | value (json : Json)
  /-- `JSONDecodeError`. -/
  | invalid
  /-- Another exception, as for a number of too many digits. -/
  | raised

/-- A `JsonlEvent`, whose source and line number play no part. -/
structure Event where
  data : Fields

/-- The value of a key is this string. -/
def hasStr (fields : Fields) (key expected : String) : Bool :=
  (get fields key).asStr == some expected.toList

def payloadOf (event : Event) : Fields :=
  (get event.data "payload").asObj.getD []

/-- A normalized output, with the keys which decide the status. -/
structure Output where
  exitCode : Option ℤ
  text : Option Text

/-- `TOOL_OUTPUT_EXIT_RE` at the front of a text: its group. -/
def matchExitCode (text : Text) : Option Text :=
  (Python.matchPieces
    [.oneOf ["Process exited with code".toList, "\"exit_code\"".toList],
      .many (fun c => c == ':' || c == ' '), .oneOf [['-'], []], .many Python.isDecimal] text).map
    fun found => (found.1.drop 2).flatten

/-- `TOOL_OUTPUT_EXIT_RE.search(text)`: the group of the first match. -/
def searchExitCode (text : Text) : Option Text :=
  text.tails.findSome? matchExitCode

/-- `word in text`. -/
def contains (word : String) (text : Text) : Bool :=
  text.tails.any (Python.startsWith word.toList)

/-- `text.lower()`, as far as a word of ASCII letters other than `k` can tell. -/
def lower (text : Text) : Text :=
  text.map Char.toLower

def completed : Text := "completed".toList
def unknown : Text := "unknown".toList

def statusFromOutput : Option Output → Text
  | none => unknown
  | some ⟨some exitCode, _⟩ => if exitCode = 0 then completed else failed
  | some ⟨none, some text⟩ =>
      if contains "Success." text then completed
      else if contains "failed" (lower text) || contains "error" (lower text) then failed
      else completed
  | some ⟨none, none⟩ => completed

/-- `name.rsplit(".", 1)[-1]`, or nothing for a name which is no string. -/
def toolShortName (name : Json) : Text :=
  match name.asStr with
  | some name => (name.reverse.takeWhile (· ≠ '.')).reverse
  | none => []

def makeCommandAction (args : Fields) (output : Option Output) (cwd : Option Text) : Action :=
  .command ((get args "workdir").asStr.or cwd) (get args "cmd").asStr
    (output.bind Output.exitCode) (statusFromOutput output)

def makePatchAction (patch : Text) (output : Option Output) (cwd : Option Text) : Action :=
  .applyPatch cwd (some patch) (statusFromOutput output)

def sessionCwd (events : List Event) : Option Text :=
  events.findSome? fun event =>
    if hasStr event.data "type" "session_meta" then (get (payloadOf event) "cwd").asStr else none

/-- The action of a call of `exec_command`, whose command must be a string. -/
def execCommand (name : Text) (args : Fields) (output : Option Output) (cwd : Option Text) :
    Option Action :=
  if name = "exec_command".toList ∧ (get args "cmd").asStr.isSome then
    some (makeCommandAction args output cwd)
  else
    none

def extractParallelActions (args : Fields) (parentOutput : Option Output) (cwd : Option Text) :
    List Action :=
  ((get args "tool_uses").asArr.getD []).filterMap fun item => do
    let call ← item.asObj
    let params ← (get call "parameters").asObj
    execCommand (toolShortName (get call "recipient_name")) params parentOutput cwd

section

variable (loads : Text → Loaded)

def parseJsonObject (raw : Json) : Except ExtractError Fields :=
  match raw with
  | .obj fields => .ok fields
  | .str text =>
      match loads text with
      | .value parsed => .ok (parsed.asObj.getD [])
      | .invalid => .ok []
      | .raised => .error .loads
  | _ => .ok []

/-- The output of a raw text or value which is no object, or an empty one. -/
def plainOutput (raw : Json) : Except ExtractError Output :=
  match raw.asStr with
  | none => .ok ⟨none, none⟩
  | some text =>
      match searchExitCode text with
      | none => .ok ⟨none, some text⟩
      | some digits =>
          match Python.int digits with
          | some exitCode => .ok ⟨some exitCode, some text⟩
          | none => .error .tooManyDigits

def normalizeOutput (raw : Json) : Except ExtractError Output := do
  let parsed ← parseJsonObject loads raw
  if parsed.isEmpty then
    plainOutput raw
  else
    let metadata := (get parsed "metadata").asObj.getD []
    return ⟨(get metadata "exit_code").asInt, (get parsed "output").asStr⟩

/-- `outputs`, the latest one of a call first. -/
abbrev Outputs :=
  List (Text × Output)

def indexOutput (outputs : Outputs) (event : Event) : Except ExtractError Outputs :=
  let payload := payloadOf event
  let payloadType := get payload "type"
  if !hasStr event.data "type" "response_item" then
    .ok outputs
  else if !payloadType.hashable then
    .error .unhashable
  else if !hasStr payload "type" "function_call_output" &&
      !hasStr payload "type" "custom_tool_call_output" then
    .ok outputs
  else
    match (get payload "call_id").asStr with
    | none => .ok outputs
    | some callId => do
        let output ← normalizeOutput loads (get payload "output")
        return (callId, output) :: outputs

def outputIndex (events : List Event) : Except ExtractError Outputs :=
  events.foldlM (indexOutput loads) []

def extractEvent (outputs : Outputs) (cwd : Option Text) (event : Event) :
    Except ExtractError (List Action) :=
  let payload := payloadOf event
  let name := toolShortName (get payload "name")
  if !hasStr event.data "type" "response_item" then
    .ok []
  else
    match (get payload "call_id").asStr with
    | none => .ok []
    | some callId =>
        let output := outputs.lookup callId
        if hasStr payload "type" "function_call" then do
          let args ← parseJsonObject loads (get payload "arguments")
          match execCommand name args output cwd with
          | some action => return [action]
          | none =>
              if name = "parallel".toList then return extractParallelActions args output cwd
              else return []
        else if hasStr payload "type" "custom_tool_call" then
          match (get payload "input").asStr with
          | some patch =>
              if name = "apply_patch".toList then .ok [makePatchAction patch output cwd]
              else .ok []
          | none => .ok []
        else
          .ok []

def extractActions (events : List Event) : Except ExtractError (List Action) := do
  let outputs ← outputIndex loads events
  let actions ← events.mapM (extractEvent loads outputs (sessionCwd events))
  return actions.flatten

end

end Replay
end HermOS
