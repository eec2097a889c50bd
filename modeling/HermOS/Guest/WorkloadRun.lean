import HermOS.Library.Json
import HermOS.Library.PythonText
import HermOS.Library.TextCodec
import Mathlib.Data.List.Basic

/-!
# Running a workload from the host

`workload_run.py` lets `curl` ask the daemon of a guest for a workload and reads what `curl -i`
prints: the head of the answer, and a body of JSON or of lines `key=value`.
-/

namespace HermOS
namespace WorkloadRun

open Python
open Json (Fields get getOr assign)

/-- What `json.loads` does with a text. -/
inductive Loaded
  | value (json : Json)
  /-- `JSONDecodeError`. -/
  | invalid
  | raised

/-- `text.replace("\r\n", "\n")`. -/
def replaceLineEnds : Text → Text
  | '\r' :: '\n' :: rest => '\n' :: replaceLineEnds rest
  | c :: rest => c :: replaceLineEnds rest
  | [] => []

/-- Split at the last occurrence of a separator. -/
def splitLast (separator : Text) : Text → Option (Text × Text)
  | [] => none
  | c :: rest =>
      match splitLast separator rest with
      | some (front, back) => some (c :: front, back)
      | none =>
          if startsWith separator (c :: rest) then some ([], (c :: rest).drop separator.length)
          else none

/-- `text.rpartition(separator)`, without the separator. -/
def rpartition (separator text : Text) : Text × Text :=
  (splitLast separator text).getD ([], text)

/-- The status on a line of the head, or the one found so far. -/
def lineStatus (status : ℤ) (line : Text) : ℤ :=
  if startsWith "HTTP/".toList line then
    match (words isSpace line)[1]? with
    | some part => (int part).getD status
    | none => status
  else status

/-- The loop over the lines of the head. -/
def httpStatus (headers : Text) : ℤ :=
  (splitLines headers).foldl lineStatus 0

/-- A line `key=value` of the body. -/
def assignLine (result : Fields) (line : Text) : Fields :=
  if '=' ∈ line then
    let parts := partition '=' line
    assign (strip parts.1) (.str (strip parts.2)) result
  else result

/-- The fields of a body which is not JSON. -/
def bodyFields (status : ℤ) (body : Text) : Fields :=
  (splitLines body).foldl assignLine
    [("http_status".toList, .int status), ("raw_body".toList, .str body)]

/-- `parse_curl_output`, or `none` if it raises. -/
def parseCurlOutput (loads : Text → Loaded) (output : Text) : Option Fields :=
  let parts := rpartition "\n\n".toList (replaceLineEnds output)
  let body := strip parts.2
  let status := httpStatus parts.1
  if body = [] then some [("http_status".toList, .int status)]
  else
    match loads body with
    -- only a dictionary takes the status
    | .value (.obj fields) => some (assign "http_status".toList (.int status) fields)
    | .value _ => none
    | .raised => none
    | .invalid => some (bodyFields status body)

def readText (output : List UInt8) : Option Text :=
  (Codec.fromUtf8 output).map universalNewlines

/-- What `subprocess.run` returns, with its outputs read as text. -/
structure Completed where
  returncode : ℤ
  stdout : Text
  stderr : Text

/-- Why `run_workload` raises. -/
inductive RunError
  /-- A `RuntimeError` with this message. -/
  | runtime (message : Text)
  | other

/-- `str(value)` of a value in a message. -/
structure Printer where
  str : Json → Text
  str_text : ∀ text, str (.str text) = text

/-- What `float(value) / 1_000_000` does. -/
inductive Millis
  | value (json : Json)
  /-- `TypeError` or `ValueError`. -/
  | refused
  | raised

/-- The floats of the host. -/
structure Floats where
  /-- A literal compared with a number. -/
  is : Text → ℤ → Bool
  /-- `float(value) / 1_000_000`. -/
  millis : Json → Millis
  /-- The same of the numeral of a 64-bit number. -/
  elapsed : ℤ → Json
  millis_str : ∀ n : ℤ, n.natAbs < 2 ^ 64 → millis (.str (str n)) = .value (elapsed n)
  /-- `(ended - started) / 1_000_000`. -/
  roundTrip : ℤ → ℤ → Json

/-- `first or second`. -/
def orElse (floats : Floats) (first second : Json) : Json :=
  if first.truthy floats.is then first else second

/-- `value is False`. -/
def holdsFalse : Json → Bool
  | .bool false => true
  | _ => false

/-- The beginning of the messages of a sandbox. -/
def sandboxLabel (sandbox : ℕ) : Text :=
  "sandbox ".toList ++ str sandbox ++ ": ".toList

/-- A `RuntimeError` whose message ends with a text, which must be one to be stripped. -/
def raiseStripped (label : Text) : Json → RunError
  | .str text => .runtime (label ++ strip text)
  | _ => .other

/-- The checks of `run_workload` on what it has parsed. -/
def checkAgent (floats : Floats) (printer : Printer) (label : Text) (agent : Fields) :
    Except RunError Fields :=
  match (getOr agent "http_status" (.int 0)).asInt with
  | none => .error .other
  | some status =>
      if ¬ (200 ≤ status ∧ status < 300) then
        .error (raiseStripped (label ++ "HTTP ".toList ++ str status ++ ": ".toList)
          (getOr agent "raw_body" (.str [])))
      else if holdsFalse (get agent "ok") then
        let cause := orElse floats (get agent "stderr") (getOr agent "raw_body" (.str []))
        .error (.runtime (strip (label ++ "workload error: ".toList ++ printer.str cause)))
      else if (get agent "status").asStr = some "error".toList then
        .error (raiseStripped (label ++ "workload error: ".toList)
          (getOr agent "detail" (getOr agent "raw_body" (.str []))))
      else .ok agent

/-- The first of these lines which is JSON; only a dictionary is then of use. -/
def innerFields (loads : Text → Loaded) : List Text → Option Fields
  | [] => some []
  | line :: lines =>
      match loads line with
      | .value (.obj fields) => some fields
      | .value _ => none
      | .raised => none
      | .invalid => innerFields loads lines

/-- `elapsed_ms`, or `none` if the conversion raises. -/
def elapsedMillis (floats : Floats) : Json → Option Json
  | .null => some .null
  | value =>
      match floats.millis value with
      | .value json => some json
      | .refused => some .null
      | .raised => none

/-- `simple[key] = agent[key]`, if the key is there. -/
def carry (agent simple : Fields) (key : String) : Fields :=
  match agent.lookup key.toList with
  | some value => assign key.toList value simple
  | none => simple

/-- `simplify_result`, or `none` if it raises. -/
def simplifyResult (loads : Text → Loaded) (floats : Floats) (printer : Printer) (sandbox : ℕ)
    (agent : Fields) : Option (Fields × Json × Json) := do
  let inner ← innerFields loads
    (splitLines (printer.str (getOr agent "stdout" (.str [])))).reverse
  let elapsed ← elapsedMillis floats (get agent "elapsed_ns")
  let duration := orElse floats (get agent "duration_ms") elapsed
  let simple := [("sandbox".toList, .int sandbox),
    ("workload_ms".toList, orElse floats (get inner "duration_ms") duration),
    ("guest_process_ms".toList, duration),
    ("client_round_trip_ms".toList, get agent "client_round_trip_ms")]
  return (["status", "workload", "minflt", "majflt", "detail"].foldl (carry agent) simple,
    get agent "request_start_ns", get agent "request_end_ns")

/-- The agent's fields with the times of the request. -/
def addTimes (floats : Floats) (started ended : ℤ) (agent : Fields) : Fields :=
  assign "client_round_trip_ms".toList (floats.roundTrip started ended)
    (assign "request_end_ns".toList (.int ended)
      (assign "request_start_ns".toList (.int started) agent))

/-- `run_workload`, for what `curl` has done and for the clock before and after. -/
def runWorkload (loads : Text → Loaded) (floats : Floats) (printer : Printer) (sandbox : ℕ)
    (started ended : ℤ) (ran : Completed) : Except RunError (Fields × Json × Json) :=
  if ran.returncode ≠ 0 then
    let output := if strip ran.stderr ≠ [] then strip ran.stderr else strip ran.stdout
    .error (.runtime (sandboxLabel sandbox ++ output))
  else
    match parseCurlOutput loads ran.stdout with
    | none => .error .other
    | some agent =>
        match checkAgent floats printer (sandboxLabel sandbox) agent with
        | .error error => .error error
        | .ok agent =>
            match simplifyResult loads floats printer sandbox
              (addTimes floats started ended agent) with
            | none => .error .other
            | some result => .ok result

end WorkloadRun
end HermOS
