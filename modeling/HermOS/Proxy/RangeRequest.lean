import HermOS.Library.HttpHead
import HermOS.Library.PythonText

/-!
# Requests to the dedup proxy

`RangeProxyHandler` reads a request line by line, answers it from the store and goes on with the
connection unless the client or an error closes it.  `int`'s complaint about a bad number, which an
error response quotes, and the text of the statistics are parameters.
-/

namespace HermOS
namespace Proxy

open Codec Http Python Reading

/-! ### Reading a request -/

/-- The limit which `readline` is given. -/
def lineLimit : ℕ :=
  65536

inductive RequestError
  /-- `ConnectionResetError`, `BrokenPipeError` or `TimeoutError`. -/
  | connection
  | runtime (message : Text)
  deriving DecidableEq

/-- The dictionary of headers, the latest first. -/
abbrev Headers :=
  List (Text × Text)

structure Request where
  method : Text
  path : Text
  version : Text
  headers : Headers
  deriving DecidableEq

/-- `line in (b"\r\n", b"\n")`. -/
def blankLine (line : List UInt8) : Bool :=
  line == crlf || line == [lineFeed]

/-- The loop which skips blank lines before a request. -/
def requestLine (_ : Unit) (line : List UInt8) :
    Except RequestError (Unit ⊕ Option (List UInt8)) :=
  if line = [] then .ok (.inr none)
  else if blankLine line then .ok (.inl ())
  else .ok (.inr (some line))

/-- Method, path and version of a request line. -/
def parseRequestLine (line : List UInt8) : Except RequestError (Text × Text × Text) :=
  match splitAtMost ' ' 2 (strip (fromLatin1 line)) with
  | [method, path, version] => .ok (method, path, version)
  | _ => .error (.runtime "bad HTTP request line".toList)

/-- The body of the header loop. -/
def headerLine (headers : Headers) (line : List UInt8) :
    Except RequestError (Headers ⊕ Headers) :=
  if line = [] then .error (.runtime "unexpected EOF while reading headers".toList)
  else if blankLine line then .ok (.inr headers)
  else
    match splitAtMost ':' 1 (fromLatin1 line) with
    | [key, value] => .ok (.inl ((lowerLatin1 (strip key), strip value) :: headers))
    | _ => .error (.runtime "bad HTTP header line".toList)

/-- `read_request`; `none` is the end of the stream between two requests. -/
def readRequest : Reading RequestError (Option Request) := do
  let line ← foldLines .connection (some lineLimit) requestLine ()
  match line with
  | none => return none
  | some line =>
      let (method, path, version) ← ofExcept (parseRequestLine line)
      let headers ← foldLines .connection (some lineLimit) headerLine []
      return some ⟨method, path, version, headers⟩

/-! ### Answering it -/

/-- `f"{n}"`. -/
def showInt (n : ℤ) : Text :=
  if n < 0 then '-' :: decimal n.natAbs else decimal n.natAbs

/-- `parse_range_header`, where an error is the text of the `ValueError`. -/
def parseRangeHeader (intError : Text → Text) (value : Text) : Except Text (ℤ × ℤ) :=
  if !startsWith "bytes=".toList value then
    .error ("unsupported Range header: ".toList ++ value)
  else
    let spec := value.drop "bytes=".length
    if ',' ∈ spec then .error ("multiple ranges are not supported: ".toList ++ value)
    else
      match splitAtMost '-' 1 spec with
      | [first, last] =>
          if first = [] ∨ last = [] then
            .error ("open-ended ranges are not supported: ".toList ++ value)
          else
            match int first, int last with
            | none, _ => .error (intError first)
            | some _, none => .error (intError last)
            | some start, some stop =>
                if start < 0 ∨ stop < start then
                  .error ("invalid Range header: ".toList ++ value)
                else .ok (start, stop)
      | _ => .error "not enough values to unpack (expected 2, got 1)".toList

/-- The `Connection` header of a response. -/
def connectionLine (close : Bool) : Text :=
  "Connection: ".toList ++ if close then "close".toList else "keep-alive".toList

def rangeHead (start stop : ℤ) (length : ℕ) (close : Bool) : List Text :=
  ["HTTP/1.1 206 Partial Content".toList,
    "Content-Length: ".toList ++ decimal length,
    "Content-Range: bytes ".toList ++ (showInt start ++ '-' :: (showInt stop ++ "/*".toList)),
    "Accept-Ranges: bytes".toList,
    connectionLine close]

def rangeResponse (start stop : ℤ) (data : List UInt8) (close : Bool) : List UInt8 :=
  ascii (headText (rangeHead start stop data.length close)) ++ data

def jsonResponse (data : List UInt8) (close : Bool) : List UInt8 :=
  ascii (headText ["HTTP/1.1 200 OK".toList, "Content-Type: application/json".toList,
    "Content-Length: ".toList ++ decimal data.length, connectionLine close]) ++ data

def errorResponse (status : ℕ) (message : Text) : List UInt8 :=
  ascii (headText ["HTTP/1.1 ".toList ++ (decimal status ++ " Error".toList),
    "Content-Type: text/plain".toList,
    "Content-Length: ".toList ++ decimal (utf8 message).length,
    "Connection: close".toList]) ++ utf8 message

/-- The client asks for the connection to be closed. -/
def Request.close (request : Request) : Bool :=
  lowerLatin1 ((request.headers.lookup "connection".toList).getD []) == "close".toList

/-- What the handler does with a request. -/
inductive Answer
  /-- Write a response, and read the next request or return. -/
  | reply (bytes : List UInt8) (goesOn : Bool)
  /-- Get a range from the store. -/
  | fetch (start stop : ℤ) (close : Bool)
  deriving DecidableEq

/-- The body of `handle` up to `get_range`. -/
def answer (intError : Text → Text) (stats : List UInt8) (request : Request) : Answer :=
  if request.method ≠ "GET".toList then
    .reply (errorResponse 405 "method not allowed".toList) false
  else if request.path = "/__stats".toList then
    .reply (jsonResponse stats request.close) (!request.close)
  else
    match request.headers.lookup "range".toList with
    | none | some [] => .reply (errorResponse 400 "missing Range header".toList) false
    | some value =>
        match parseRangeHeader intError value with
        | .error message => .reply (errorResponse 502 message) false
        | .ok (start, stop) => .fetch start stop request.close

/-- The body of `handle` behind `get_range`; an error is the text of the exception. -/
def answerRange (start stop : ℤ) (close : Bool) (outcome : Except Text (List UInt8)) : Answer :=
  match outcome with
  | .ok data => .reply (rangeResponse start stop data close) (!close)
  | .error message => .reply (errorResponse 502 message) false

/-! ### A request of the range client -/

theorem fromLatin1_crlf : fromLatin1 crlf = ['\r', '\n'] := by
  decide

theorem blankLine_line {line : List UInt8} (nonempty : line ≠ []) :
    blankLine (line ++ crlf) = false := by
  have not_crlf : line ++ crlf ≠ crlf := fun same => nonempty (List.append_left_eq_self.mp same)
  have not_feed : line ++ crlf ≠ [lineFeed] := by
    intro same
    have length := congrArg List.length same
    simp at length
  simp [blankLine, not_crlf, not_feed]

theorem stable_readRequest : Stable readRequest := by
  apply Stable.bind stable_foldLines
  intro line
  cases line with
  | none => exact Stable.pure
  | some line =>
      apply Stable.bind (Stable.ofExcept _)
      intro parts
      exact Stable.bind stable_foldLines fun _ => Stable.pure

section Headers

variable {key value : Text} {headers : Headers}

/-- A header line of text without colons before its value. -/
theorem headerLine_eq {line : List UInt8} (nonempty : line ≠ []) (filled : blankLine line = false)
    (free : ':' ∉ key) (decoded : fromLatin1 line = key ++ ':' :: value) :
    headerLine headers line =
      .ok (.inl ((lowerLatin1 (strip key), strip value) :: headers)) := by
  rw [headerLine, if_neg nonempty, filled, if_neg Bool.false_ne_true, decoded,
    splitAtMost_cons free]
  rfl

theorem parseRangeHeader_decimal (intError : Text → Text) {start stop : ℕ} (ordered : start ≤ stop)
    (short : stop < 10 ^ maxStrDigits) :
    parseRangeHeader intError ("bytes=".toList ++ (decimal start ++ '-' :: decimal stop)) =
      .ok (start, stop) := by
  have digits {n : ℕ} {c : Char} (other : c.isDigit = false) : c ∉ decimal n := by
    intro inside
    rw [isDigit_decimal c inside] at other
    exact Bool.noConfusion other
  have nonempty (n : ℕ) : decimal n ≠ [] := Nat.toDigits_ne_nil
  have starts : startsWith "bytes=".toList
      ("bytes=".toList ++ (decimal start ++ '-' :: decimal stop)) = true := by
    simp [startsWith]
  have spec : ("bytes=".toList ++ (decimal start ++ '-' :: decimal stop)).drop "bytes=".length =
      decimal start ++ '-' :: decimal stop := rfl
  have no_comma : ',' ∉ decimal start ++ '-' :: decimal stop := by
    simp [digits (c := ',') rfl]
  have pieces : splitAtMost '-' 1 (decimal start ++ '-' :: decimal stop) =
      [decimal start, decimal stop] := splitAtMost_cons (digits rfl)
  have start_int : int (decimal start) = some (start : ℤ) :=
    int_decimal (Nat.lt_of_le_of_lt ordered short)
  have stop_int : int (decimal stop) = some (stop : ℤ) := int_decimal short
  have valid : ¬ ((start : ℤ) < 0 ∨ (stop : ℤ) < start) := by omega
  simp only [parseRangeHeader, starts, Bool.not_true, Bool.false_eq_true, if_false, spec, no_comma,
    pieces, nonempty, or_self, start_int, stop_int, valid]

end Headers

end Proxy
end HermOS
