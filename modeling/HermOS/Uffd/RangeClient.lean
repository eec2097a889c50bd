import HermOS.Library.HttpHead
import HermOS.Library.RustText
import HermOS.Uffd.Handler

/-!
# The HTTP range client

`HttpRangeClient` writes a request and reads the status line, the header lines up to an empty one
and the body.  `read_line` returns no bytes at the end of the stream, which is not an empty line:
the header loop has no other exit there.
-/

namespace HermOS
namespace Uffd

open Codec Http Python Reading

inductive IoError
  /-- `ErrorKind::InvalidData` with its message. -/
  | invalidData (message : Text)
  | unexpectedEof
  /-- An error of the socket. -/
  | socket
  deriving DecidableEq

structure HttpUrl where
  host : Text
  port : ℕ
  path : Text
  hostHeader : Text

/-- `HttpUrl::parse`, or `none` where it panics. -/
def HttpUrl.parse (url : Text) : Option HttpUrl := do
  let rest ← Rust.stripPrefix "http://".toList url
  let (authority, path) :=
    match Rust.splitOnce '/' rest with
    | some (authority, path) => (authority, '/' :: path)
    | none => (rest, ['/'])
  let (host, port) ←
    match Rust.rsplitOnce ':' authority with
    | some (host, port) => (Rust.parseUnsigned 65536 port).map (host, ·)
    | none => some (authority, 80)
  return ⟨host, port, path, authority⟩

/-- The parts of a URL are those of its text: the authority up to the first slash, with a port
behind its last colon, and the path from that slash on. -/
structure HttpUrl.Spelled (url : HttpUrl) (text : Text) : Prop where
  authority : '/' ∉ url.hostHeader
  text : text = "http://".toList ++ url.hostHeader ∧ url.path = ['/'] ∨
    text = "http://".toList ++ (url.hostHeader ++ url.path) ∧ url.path.head? = some '/'
  port : ':' ∉ url.hostHeader ∧ url.host = url.hostHeader ∧ url.port = 80 ∨
    ∃ port, ':' ∉ port ∧ url.hostHeader = url.host ++ ':' :: port ∧
      Rust.parseUnsigned 65536 port = some url.port

section Urls

variable {authority path text : Text} {url : HttpUrl}

/-- `parse` behind the split at the first slash. -/
def HttpUrl.ofAuthority (authority path : Text) : Option HttpUrl :=
  match Rust.rsplitOnce ':' authority with
  | some (host, port) => (Rust.parseUnsigned 65536 port).map (⟨host, ·, path, authority⟩)
  | none => some ⟨authority, 80, path, authority⟩

theorem HttpUrl.ofAuthority_eq_some_iff : HttpUrl.ofAuthority authority path = some url ↔
    url.hostHeader = authority ∧ url.path = path ∧
      (':' ∉ authority ∧ url.host = authority ∧ url.port = 80 ∨
        ∃ port, ':' ∉ port ∧ authority = url.host ++ ':' :: port ∧
          Rust.parseUnsigned 65536 port = some url.port) := by
  constructor
  · intro parsed
    by_cases colon : ':' ∈ authority
    · obtain ⟨host, port, rfl, free⟩ := Rust.exists_last colon
      rw [HttpUrl.ofAuthority, Rust.rsplitOnce_append free] at parsed
      obtain ⟨value, read, rfl⟩ := Option.map_eq_some_iff.mp parsed
      exact ⟨rfl, rfl, .inr ⟨port, free, rfl, read⟩⟩
    · rw [HttpUrl.ofAuthority, Rust.rsplitOnce_solid colon] at parsed
      cases parsed
      exact ⟨rfl, rfl, .inl ⟨colon, rfl, rfl⟩⟩
  · obtain ⟨host, number, path', authority'⟩ := url
    dsimp only
    rintro ⟨rfl, rfl, ⟨free, rfl, rfl⟩ | ⟨port, free, rfl, read⟩⟩
    · rw [HttpUrl.ofAuthority, Rust.rsplitOnce_solid free]
    · rw [HttpUrl.ofAuthority, Rust.rsplitOnce_append free]
      exact Option.map_eq_some_iff.mpr ⟨number, read, rfl⟩

theorem HttpUrl.parse_slash (free : '/' ∉ authority) :
    HttpUrl.parse ("http://".toList ++ (authority ++ '/' :: path)) =
      HttpUrl.ofAuthority authority ('/' :: path) := by
  rw [HttpUrl.parse, Rust.stripPrefix_eq_some_iff.mpr rfl, Option.bind_eq_bind, Option.bind_some,
    Rust.splitOnce_append free]
  dsimp only [HttpUrl.ofAuthority]
  cases Rust.rsplitOnce ':' authority with
  | none => rfl
  | some parts => cases read : Rust.parseUnsigned 65536 parts.2 <;> simp [read]

theorem HttpUrl.parse_solid (free : '/' ∉ authority) :
    HttpUrl.parse ("http://".toList ++ authority) = HttpUrl.ofAuthority authority ['/'] := by
  rw [HttpUrl.parse, Rust.stripPrefix_eq_some_iff.mpr rfl, Option.bind_eq_bind, Option.bind_some,
    Rust.splitOnce_solid free]
  dsimp only [HttpUrl.ofAuthority]
  cases Rust.rsplitOnce ':' authority with
  | none => rfl
  | some parts => cases read : Rust.parseUnsigned 65536 parts.2 <;> simp [read]

theorem HttpUrl.parse_eq_some_iff : HttpUrl.parse text = some url ↔ url.Spelled text := by
  constructor
  · intro parsed
    have starts : ∃ rest, text = "http://".toList ++ rest := by
      obtain ⟨rest, stripped, _⟩ := Option.bind_eq_some_iff.mp parsed
      exact ⟨rest, Rust.stripPrefix_eq_some_iff.mp stripped⟩
    obtain ⟨rest, rfl⟩ := starts
    by_cases slash : '/' ∈ rest
    · obtain ⟨authority, path, rfl, free⟩ := List.eq_append_cons_of_mem slash
      rw [HttpUrl.parse_slash free] at parsed
      obtain ⟨rfl, path_eq, port⟩ := HttpUrl.ofAuthority_eq_some_iff.mp parsed
      exact ⟨free, .inr (by simp [path_eq]), port⟩
    · rw [HttpUrl.parse_solid slash] at parsed
      obtain ⟨rfl, path_eq, port⟩ := HttpUrl.ofAuthority_eq_some_iff.mp parsed
      exact ⟨slash, .inl ⟨rfl, path_eq⟩, port⟩
  · rintro ⟨free, ⟨rfl, path⟩ | ⟨rfl, slash⟩, port⟩
    · rw [HttpUrl.parse_solid free]
      exact HttpUrl.ofAuthority_eq_some_iff.mpr ⟨rfl, path, port⟩
    · obtain ⟨tail, path⟩ := List.head?_eq_some_iff.mp slash
      rw [path, HttpUrl.parse_slash free]
      exact HttpUrl.ofAuthority_eq_some_iff.mpr ⟨rfl, path, port⟩

end Urls

/-- The number of values of `usize`. -/
def usizeSize : ℕ :=
  2 ^ 64

/-- The last byte of a range, in the wrapping arithmetic of the release build. -/
def rangeEnd (offset len : UInt64) : UInt64 :=
  offset + len - 1

def HttpUrl.requestLines (url : HttpUrl) (offset len : UInt64) : List Text :=
  ["GET ".toList ++ url.path ++ " HTTP/1.1".toList,
    "Host: ".toList ++ url.hostHeader,
    "Range: bytes=".toList ++ decimal offset.toNat ++ "-".toList ++
      decimal (rangeEnd offset len).toNat,
    "Connection: keep-alive".toList]

/-- The request which `fetch_range_once` writes. -/
def HttpUrl.request (url : HttpUrl) (offset len : UInt64) : Bytes :=
  utf8 (headText (url.requestLines offset len))

def lineText (line : Bytes) : Except IoError Text :=
  match fromUtf8 line with
  | some text => .ok text
  | none => .error (.invalidData "stream did not contain valid UTF-8".toList)

def parseStatus (statusLine : Text) : Except IoError ℕ :=
  match (Rust.splitWhitespace statusLine)[1]?.bind (Rust.parseUnsigned 65536) with
  | some status => .ok status
  | none => .error (.invalidData "bad HTTP status line".toList)

/-- The body of the header loop: where it ends, or the content length so far. -/
def headerLine (contentLen : Option ℕ) (line : Bytes) :
    Except IoError (Option ℕ ⊕ Option ℕ) := do
  let line ← lineText line
  if line = "\r\n".toList ∨ line = "\n".toList then
    return .inr contentLen
  match Rust.stripPrefix "content-length:".toList (Rust.toAsciiLowercase line) with
  | some value =>
      match Rust.parseUnsigned usizeSize (Rust.trim value) with
      | some length => return .inl (some length)
      | none => .error (.invalidData "bad Content-Length".toList)
  | none => return .inl contentLen

/-- `{:?}` of a content length. -/
def showContentLen : Option ℕ → Text
  | some length => "Some(".toList ++ decimal length ++ ")".toList
  | none => "None".toList

def readExact (len : ℕ) : Reading IoError Bytes := do
  let data ← readUpTo .socket len
  if data.length = len then return data else raise .unexpectedEof

/-- What `fetch_range_once` reads once it has written its request. -/
def readResponse (len : UInt64) : Reading IoError Bytes := do
  let statusLine ← readLine .socket none
  let status ← ofExcept (lineText statusLine >>= parseStatus)
  let contentLen ← foldLines .socket none headerLine none
  if status ≠ 206 then
    raise (.invalidData ("expected HTTP 206 for Range request, got ".toList ++ decimal status))
  else if contentLen ≠ some len.toNat then
    raise (.invalidData ("expected ".toList ++ decimal len.toNat ++
      " response bytes, got ".toList ++ showContentLen contentLen))
  else
    readExact len.toNat

/-- What the host does with one request: the connection, if there is none, the write, and the bytes
which arrive. -/
structure Exchange where
  connect : Except IoError Unit
  write : Except IoError Unit
  received : ByteStream

/-- `fetch_range_once` with the unread bytes of its reader, or `none` where it never returns. -/
def fetchRangeOnce (reader : Option Bytes) (exchange : Exchange) (len : UInt64) :
    Option (Except IoError Bytes × Option Bytes) :=
  match reader, exchange.connect with
  | none, .error error => some (.error error, none)
  | _, _ =>
      let unread := reader.getD []
      match exchange.write with
      | .error error => some (.error error, some unread)
      | .ok () =>
          (readResponse len
            { exchange.received with bytes := unread ++ exchange.received.bytes }).map
              fun (result, rest) => (result, some rest.bytes)

/-! ### Termination -/

/-- The header loop goes on after a line. -/
def keepsReading (line : Bytes) : Bool :=
  match fromUtf8 line with
  | none => false
  | some line =>
      line ≠ "\r\n".toList && line ≠ "\n".toList &&
        match Rust.stripPrefix "content-length:".toList (Rust.toAsciiLowercase line) with
        | some value => (Rust.parseUnsigned usizeSize (Rust.trim value)).isSome
        | none => true

theorem keepsReading_iff (contentLen : Option ℕ) (line : Bytes) :
    keepsReading line = true ↔
      ∃ contentLen', headerLine contentLen line = .ok (.inl contentLen') := by
  unfold keepsReading headerLine lineText
  rcases fromUtf8 line with _ | text
  · constructor
    · intro none
      cases none
    · rintro ⟨_, failed⟩
      cases failed
  · by_cases ends : text = "\r\n".toList ∨ text = "\n".toList
    · simp only [Bind.bind, Except.bind, Pure.pure, Except.pure, if_pos ends]
      rcases ends with same | same <;> simp [same]
    · obtain ⟨not_crlf, not_lf⟩ := not_or.mp ends
      simp only [Bind.bind, Except.bind, Pure.pure, Except.pure, ne_eq, not_crlf, not_lf,
        or_self, if_false, not_false_eq_true, decide_true, Bool.true_and]
      rcases Rust.stripPrefix "content-length:".toList (Rust.toAsciiLowercase text) with _ | value
      · simp
      · dsimp only
        rcases Rust.parseUnsigned usizeSize (Rust.trim value) with _ | length <;> simp

theorem keepsReading_nil : keepsReading [] = true := by
  have decoded : fromUtf8 [] = some [] := fromUtf8_utf8 []
  rw [keepsReading, decoded]
  decide

/-- The bytes hold a bad status line, or a line behind the status line at which the header loop
stops: an empty one, one which is not UTF-8, or a content length which is no number. -/
def HeadEnds (bytes : Bytes) : Prop :=
  (∃ error, lineText ((linesOf bytes).headD []) >>= parseStatus = .error error) ∨
    ∃ line ∈ (linesOf bytes).tail, keepsReading line = false

/-- The request does not get out. -/
def Exchange.Fails (exchange : Exchange) (reader : Option Bytes) : Prop :=
  (reader = none ∧ ∃ error, exchange.connect = .error error) ∨
    ∃ error, exchange.write = .error error

theorem readExact_closed (len : ℕ) (bytes : Bytes) :
    (readExact len ⟨bytes, .closed⟩).isSome = true := by
  rw [readExact, bind_ok readUpTo_closed]
  split <;> rfl

/-- On a stream which the server closes, reading the response ends exactly if its head does. -/
theorem readResponse_closed_iff (len : UInt64) (bytes : Bytes) :
    (readResponse len ⟨bytes, .closed⟩).isSome = true ↔ HeadEnds bytes := by
  obtain ⟨rest, read, lines_eq, _⟩ := readLine_closed IoError.socket bytes
  rw [readResponse, bind_ok read, HeadEnds]
  cases status : lineText ((linesOf bytes).headD []) >>= parseStatus with
  | error error =>
      rw [bind_error (ofExcept_apply)]
      simp
  | ok status =>
      rw [bind_ok (ofExcept_apply)]
      have loop := foldLines_closed_iff IoError.socket keepsReading_iff keepsReading_nil none rest
      rw [lines_eq] at loop
      rcases head : foldLines .socket none headerLine none ⟨rest, .closed⟩ with
        _ | ⟨error | contentLen, after⟩
      · rw [bind_none head, ← loop, head]
        simp
      · rw [bind_error head, ← loop, head]
        simp
      · rw [bind_ok head, ← loop, head]
        have closed : after.ending = .closed := foldLines_closed head
        obtain ⟨unread, ending⟩ := after
        cases closed
        simp only [reduceCtorEq, exists_false, Option.isSome_some, or_true, iff_true]
        split
        · rfl
        · split
          · rfl
          · exact readExact_closed _ _

/-- `fetch_range_once` returns exactly if its request fails or the head of what the server has sent
ends before the server closes the connection. -/
theorem fetchRangeOnce_returns {reader : Option Bytes} {exchange : Exchange} (len : UInt64)
    (closes : exchange.received.ending = .closed) :
    (fetchRangeOnce reader exchange len).isSome = true ↔
      exchange.Fails reader ∨ HeadEnds (reader.getD [] ++ exchange.received.bytes) := by
  obtain ⟨connect, write, ⟨bytes, ending⟩⟩ := exchange
  cases closes
  have read := readResponse_closed_iff len (reader.getD [] ++ bytes)
  cases reader <;> cases connect <;> cases write <;>
    simp_all [fetchRangeOnce, Exchange.Fails]

/-! ### A connection closed behind the status line -/

/-- A server which sends some text and closes the connection. -/
def sends (text : Text) : Exchange :=
  ⟨.ok (), .ok (), ⟨utf8 text, .closed⟩⟩

theorem fetchRangeOnce_returns_sample :
    (fetchRangeOnce none (sends "HTTP/1.1 404 Not Found\r\n\r\n".toList) 1).isSome = true ↔
      (sends "HTTP/1.1 404 Not Found\r\n\r\n".toList).Fails none ∨
        HeadEnds ([] ++ utf8 "HTTP/1.1 404 Not Found\r\n\r\n".toList) :=
  fetchRangeOnce_returns 1 rfl

/-- After the status line the header loop reads empty lines for ever. -/
theorem fetchRangeOnce_endless :
    fetchRangeOnce none (sends "HTTP/1.1 206 Partial Content\r\n".toList) 1 = none := by
  have no_header : (linesOf (utf8 "HTTP/1.1 206 Partial Content\r\n".toList)).tail = [] := by decide
  have status_line : (linesOf (utf8 "HTTP/1.1 206 Partial Content\r\n".toList)).headD [] =
      utf8 "HTTP/1.1 206 Partial Content\r\n".toList := by decide
  have status : parseStatus "HTTP/1.1 206 Partial Content\r\n".toList = .ok 206 := by decide
  have open_head : ¬ HeadEnds (utf8 "HTTP/1.1 206 Partial Content\r\n".toList) := by
    rintro (⟨error, failed⟩ | ⟨line, inside, _⟩)
    · rw [status_line, lineText, fromUtf8_utf8] at failed
      exact absurd (status.symm.trans failed) (by simp)
    · rw [no_header] at inside
      cases inside
  have blocked := (readResponse_closed_iff 1 _).not.mpr open_head
  rw [Bool.not_eq_true, Option.isSome_eq_false_iff, Option.isNone_iff_eq_none] at blocked
  show (readResponse 1 ⟨utf8 "HTTP/1.1 206 Partial Content\r\n".toList, .closed⟩).map _ = none
  rw [blocked]
  rfl

end Uffd
end HermOS
