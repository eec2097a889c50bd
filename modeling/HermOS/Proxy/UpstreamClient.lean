import HermOS.Proxy.RangeRequest
import HermOS.Proxy.RangeStore

/-!
# The upstream client of the dedup proxy

`UpstreamRangeClient` keeps its connection from one request to the next and gives it up only after
an `OSError`.  A framed response whose lines `readline` takes whole is read up to its last byte or
rejected, however much of it arrives; what a rejected one leaves unread stays in the connection.
-/

namespace HermOS
namespace Proxy
namespace Upstream

open Codec Http Python Reading

/-! ### The client -/

inductive FetchError
  | os (message : Text)
  | runtime (message : Text)
  /-- The `ValueError` of `int` for a text. -/
  | value (text : Text)
  /-- The `UnicodeEncodeError` of a request which is not ASCII. -/
  | unicode (request : Text)
  deriving DecidableEq

/-- `str(exc)`. -/
def FetchError.message (intError encodeError : Text → Text) : FetchError → Text
  | .os message | .runtime message => message
  | .value text => intError text
  | .unicode request => encodeError request

/-- The parts of `HttpUrl` which a request names. -/
structure HttpUrl where
  path : Text
  hostHeader : Text

/-- The request which `fetch_range_once` sends. -/
def HttpUrl.request (url : HttpUrl) (start stop : ℤ) : Text :=
  headText ["GET ".toList ++ url.path ++ " HTTP/1.1".toList,
    "Host: ".toList ++ url.hostHeader,
    "Range: bytes=".toList ++ (showInt start ++ '-' :: showInt stop),
    "Connection: keep-alive".toList]

def parseStatus (statusLine : Bytes) : Except FetchError ℤ :=
  match (words isSpace (fromLatin1 statusLine))[1]?.bind int with
  | some status => .ok status
  | none => .error (.runtime ("bad upstream HTTP status line: ".toList ++ reprBytes statusLine))

/-- The body of the header loop: where it ends, or the content length so far. -/
def responseHeader (contentLen : Option ℤ) (line : Bytes) :
    Except FetchError (Option ℤ ⊕ Option ℤ) :=
  if line = [] then .error (.os "upstream closed while reading headers".toList)
  else if blankLine line then .ok (.inr contentLen)
  else
    let (key, value) := partition ':' (fromLatin1 line)
    if lowerLatin1 key = "content-length".toList then
      match int (strip value) with
      | some length => .ok (.inl (some length))
      | none => .error (.value (strip value))
    else .ok (.inl contentLen)

/-- `f"bytes={start}-{end}"`. -/
def showRange (start stop : ℤ) : Text :=
  "bytes=".toList ++ (showInt start ++ '-' :: showInt stop)

/-- `f"{content_len}"`. -/
def showContentLen : Option ℤ → Text
  | some length => showInt length
  | none => "None".toList

/-- What `fetch_range_once` reads once it has sent its request.  A broken socket raises `OSError`
with a message of its own; the length of the range is positive. -/
def readResponse (failure : Text) (start stop : ℤ) : Reading FetchError Bytes := do
  let expectedLen := stop - start + 1
  let statusLine ← readLine (.os failure) (some lineLimit)
  if statusLine = [] then
    raise (.os "upstream closed connection".toList)
  else do
    let status ← ofExcept (parseStatus statusLine)
    let contentLen ← foldLines (.os failure) (some lineLimit) responseHeader none
    if status ≠ 206 then
      raise (.runtime ("upstream returned HTTP ".toList ++ showInt status ++
        ", expected 206".toList))
    else if contentLen ≠ some expectedLen then
      raise (.runtime ("upstream Content-Length mismatch for ".toList ++ showRange start stop ++
        ": ".toList ++ showContentLen contentLen ++ " != ".toList ++ showInt expectedLen))
    else do
      let data ← readUpTo (.os failure) expectedLen.toNat
      if (data.length : ℤ) ≠ expectedLen then
        raise (.os ("upstream body length mismatch for ".toList ++ showRange start stop ++
          ": ".toList ++ decimal data.length ++ " != ".toList ++ showInt expectedLen))
      else
        return data

/-! ### Framed responses -/

/-- The value of a header which gives the length of a body: a numeral between blanks. -/
def LengthValue (value : Text) (length : ℕ) : Prop :=
  ∃ (before after : Text) (zeros : ℕ),
    value = before ++ (List.replicate zeros '0' ++ decimal length) ++ after ∧
      ∀ c ∈ before ++ after, c = ' ' ∨ c = '\t'

/-- A response whose headers, if they give a length of the body, give the right one. -/
structure Response where
  statusLine : Bytes
  headers : List Bytes
  body : Bytes
  statusLine_free : lineFeed ∉ statusLine
  headers_free : ∀ header ∈ headers, header ≠ [] ∧ lineFeed ∉ header
  framed : ∀ header ∈ headers, ∀ key value, fromLatin1 header = key ++ ':' :: value → ':' ∉ key →
    lowerLatin1 key = "content-length".toList → LengthValue value body.length

def Response.bytes (response : Response) : Bytes :=
  headBytes (response.statusLine :: response.headers) ++ response.body

/-- The status of a response, if its status line has one. -/
def Response.status (response : Response) : Except FetchError ℤ :=
  parseStatus (response.statusLine ++ crlf)

/-- No line of the head is longer than `readline` takes. -/
def Response.Brief (response : Response) : Prop :=
  ∀ line ∈ response.statusLine :: response.headers, line.length + 2 ≤ lineLimit

/-! ### The connection -/

/-- What the network does in one call of `fetch_range_once`. -/
structure Attempt where
  /-- The error of `create_connection`, if the call connects. -/
  refusal : Option Text
  unsent : Option Text
  response : Response
  /-- What a read meets behind the response. -/
  ending : Ending
  /-- The number of bytes before a connection which ends. -/
  arrived : ℕ
  failure : Text

/-- The response as it arrives: whole, sooner or later, if the connection does not end. -/
def Attempt.received (attempt : Attempt) : ByteStream :=
  match attempt.ending with
  | .pending => ⟨attempt.response.bytes, .pending⟩
  | ending => ⟨attempt.response.bytes.take attempt.arrived, ending⟩

/-- The client with the unread bytes of its connection, if it has one. -/
structure UpstreamRangeClient where
  url : HttpUrl
  reader : Option ByteStream

namespace UpstreamRangeClient

/-- `UpstreamRangeClient.__init__`. -/
def new (url : HttpUrl) : UpstreamRangeClient :=
  ⟨url, none⟩

def close (client : UpstreamRangeClient) : UpstreamRangeClient :=
  { client with reader := none }

/-- Bytes which have been sent to the client and which it has not read. -/
def unread (client : UpstreamRangeClient) : Bytes :=
  (client.reader.map ByteStream.bytes).getD []

/-- `fetch_range_once` with the client behind it, or `none` where it waits. -/
def fetchRangeOnce (client : UpstreamRangeClient) (attempt : Attempt) (start stop : ℤ) :
    Option (Except FetchError Bytes × UpstreamRangeClient) :=
  match client.reader, attempt.refusal with
  | none, some message => some (.error (.os message), client)
  | _, _ =>
      let reader := client.reader.getD ⟨[], .pending⟩
      let request := client.url.request start stop
      if ¬ Ascii request then
        some (.error (.unicode request), { client with reader := some reader })
      else
        match attempt.unsent with
        | some message => some (.error (.os message), { client with reader := some reader })
        | none =>
            (readResponse attempt.failure start stop (reader.receive attempt.received)).map
              fun (result, rest) => (result, { client with reader := some rest })

end UpstreamRangeClient

/-- One call of `fetch_range_once` with what it finds unread. -/
structure Exchange where
  start : ℤ
  stop : ℤ
  unread : Bytes
  attempt : Attempt
  result : Except FetchError Bytes

/-- One call of `fetch_range` with its exchanges. -/
structure Fetch where
  start : ℤ
  stop : ℤ
  exchanges : List Exchange
  result : Except FetchError Bytes

namespace UpstreamRangeClient

/-- `fetch_range` with the client behind it, or `none` where it waits. -/
def fetchRange (client : UpstreamRangeClient) (first second : Attempt) (start stop : ℤ) :
    Option (Fetch × UpstreamRangeClient) :=
  match client.fetchRangeOnce first start stop with
  | none => none
  | some (.error (.os message), failed) =>
      let exchange := ⟨start, stop, client.unread, first, .error (.os message)⟩
      (failed.close.fetchRangeOnce second start stop).map fun (result, after) =>
        (⟨start, stop, [exchange, ⟨start, stop, failed.close.unread, second, result⟩], result⟩,
          after)
  | some (result, after) =>
      some (⟨start, stop, [⟨start, stop, client.unread, first, result⟩], result⟩, after)

end UpstreamRangeClient

/-- `fetch_remote` with the thread-local client behind it. -/
def fetchRemote (url : HttpUrl) (client : Option UpstreamRangeClient) (first second : Attempt)
    (start stop : ℤ) : Option (Fetch × UpstreamRangeClient) :=
  (client.getD (.new url)).fetchRange first second start stop

/-! ### Reading a framed response -/

section Framed

variable {failure : Text} {start stop : ℤ} {response : Response} {rest : ByteStream} {data : Bytes}

theorem parseStatus_line {version : Text} {code : ℕ} {reason : Text} (nonempty : version ≠ [])
    (solid : ∀ c ∈ version, isSpace c = false) (short : code < 10 ^ maxStrDigits)
    {line : Bytes} (decoded : fromLatin1 line = version ++ ' ' :: (decimal code ++ ' ' :: reason)) :
    parseStatus line = .ok code := by
  have digits : ∀ c ∈ decimal code, isSpace c = false := fun c inside =>
    isSpace_isDigit (isDigit_decimal c inside)
  have some_digit : decimal code ≠ [] := Nat.toDigits_ne_nil
  rw [parseStatus, decoded, words_space nonempty solid rfl, words_space some_digit digits rfl]
  simp only [List.getElem?_cons_succ, List.getElem?_cons_zero, Option.bind_some, int_decimal short]
  rfl

theorem int_lengthValue {value : Text} {length : ℕ} {read : ℤ} (gives : LengthValue value length)
    (parsed : int (strip (value ++ ['\r', '\n'])) = some read) : read = length := by
  obtain ⟨before, after, zeros, rfl, blanks⟩ := gives
  have space : ∀ c ∈ before ++ after, isSpace c = true := by
    intro c inside
    rcases blanks c inside with rfl | rfl <;> rfl
  have digits : ∀ c ∈ List.replicate zeros '0' ++ decimal length, isSpace c = false := by
    intro c inside
    rcases List.mem_append.mp inside with zero | digit
    · rw [List.eq_of_mem_replicate zero]
      rfl
    · exact isSpace_isDigit (isDigit_decimal c digit)
  have stripped : strip (before ++ (List.replicate zeros '0' ++ decimal length) ++ after ++
      ['\r', '\n']) = List.replicate zeros '0' ++ decimal length := by
    rw [List.append_assoc _ after]
    apply trim_pad
    · exact fun c inside => space c (List.mem_append_left _ inside)
    · intro c inside
      rcases List.mem_append.mp inside with blank | line_end
      · exact space c (List.mem_append_right _ blank)
      · rcases List.mem_pair.mp line_end with rfl | rfl <;> rfl
    · exact fun c first => digits c (List.mem_of_head? first)
    · exact fun c last => digits c (List.mem_of_getLast? last)
  rw [stripped] at parsed
  exact int_zeros_decimal parsed

theorem responseHeader_nil (contentLen : Option ℤ) :
    ∃ error, responseHeader contentLen [] = .error error :=
  ⟨_, rfl⟩

theorem responseHeader_blank (contentLen : Option ℤ) :
    responseHeader contentLen crlf = .ok (.inr contentLen) :=
  rfl

/-- The header loop stops only at whole lines. -/
theorem responseHeader_whole {contentLen value : Option ℤ} {line : Bytes}
    (stops : responseHeader contentLen line = .ok (.inr value)) : lineFeed ∈ line := by
  unfold responseHeader at stops
  split at stops
  next => cases stops
  next =>
    split at stops
    next blank =>
      simp only [blankLine, Bool.or_eq_true, beq_iff_eq] at blank
      rcases blank with rfl | rfl <;> simp
    next =>
      simp only at stops
      split at stops
      next => split at stops <;> cases stops
      next => cases stops

/-- A header of a framed response gives no other length than that of the body. -/
theorem responseHeader_framed {contentLen : Option ℤ} {header : Bytes}
    (known : ∀ length ∈ contentLen, length = response.body.length)
    (inside : header ∈ response.headers) {outcome : Option ℤ ⊕ Option ℤ}
    (read : responseHeader contentLen (header ++ crlf) = .ok outcome) :
    ∃ contentLen', outcome = .inl contentLen' ∧
      ∀ length ∈ contentLen', length = response.body.length := by
  have other : header ++ crlf ≠ [] := by simp
  have text : fromLatin1 (header ++ crlf) = fromLatin1 header ++ ['\r', '\n'] := by
    rw [fromLatin1_append, fromLatin1_crlf]
  rw [responseHeader, if_neg other, blankLine_line (response.headers_free header inside).1,
    if_neg Bool.false_ne_true, text] at read
  by_cases colon : ':' ∈ fromLatin1 header
  · obtain ⟨key, value, decoded, free⟩ := List.eq_append_cons_of_mem colon
    rw [decoded, List.append_assoc, List.cons_append, partition_append free] at read
    simp only at read
    split at read
    next named =>
      have gives := response.framed header inside key value decoded free named
      split at read
      next length parsed =>
        cases read
        refine ⟨_, rfl, ?_⟩
        rintro _ ⟨⟩
        exact int_lengthValue gives parsed
      next => cases read
    next =>
      cases read
      exact ⟨_, rfl, known⟩
  · -- without a colon the line end belongs to the key
    have no_colon : ':' ∉ fromLatin1 header ++ ['\r', '\n'] := by
      simp [colon]
    rw [partition_solid no_colon] at read
    simp only at read
    split at read
    next named =>
      have line_end : '\n' ∈ lowerLatin1 (fromLatin1 header ++ ['\r', '\n']) :=
        List.mem_map.mpr ⟨'\n', by simp, rfl⟩
      rw [named] at line_end
      exact absurd line_end (by decide)
    next =>
      cases read
      exact ⟨_, rfl, known⟩

theorem fits_brief (brief : response.Brief) {line : Bytes}
    (inside : line ∈ response.statusLine :: response.headers) : Fits (some lineLimit) line := by
  refine ⟨?_, ?_⟩
  · rcases List.mem_cons.mp inside with rfl | header
    · exact response.statusLine_free
    · exact (response.headers_free line header).2
  · rintro limit ⟨⟩
    exact brief line inside

/-- The header loop ends at the body of a framed response, with no length but that of the body. -/
theorem headers_framed (brief : response.Brief) {headers : List Bytes} {body : Bytes}
    (part : ∀ header ∈ headers, header ∈ response.headers) {contentLen found : Option ℤ}
    (known : ∀ length ∈ contentLen, length = response.body.length)
    (ended : foldLines (.os failure) (some lineLimit) responseHeader contentLen
      ⟨headBytes headers ++ body, .pending⟩ = some (.ok found, rest)) :
    rest = ⟨body, .pending⟩ ∧ ∀ length ∈ found, length = response.body.length := by
  induction headers generalizing contentLen with
  | nil =>
      have room : Fits (some lineLimit) [] := ⟨List.not_mem_nil, by rintro limit ⟨⟩; decide⟩
      rw [foldLines_head_stop room (responseHeader_blank contentLen)] at ended
      cases ended
      exact ⟨rfl, known⟩
  | cons header headers ih =>
      have inside := part header (by simp)
      have fits := fits_brief brief (List.mem_cons_of_mem _ inside)
      rcases read : responseHeader contentLen (header ++ crlf) with error | outcome
      · rw [foldLines_head_error fits read] at ended
        cases ended
      · obtain ⟨contentLen', rfl, known'⟩ := responseHeader_framed known inside read
        rw [foldLines_head_next fits read] at ended
        exact ih (fun header inside => part header (by simp [inside])) known' ended

/-- Data which is read from a whole response is its body, and nothing is left. -/
theorem readResponse_whole (brief : response.Brief)
    (ended : readResponse failure start stop ⟨response.bytes, .pending⟩ = some (.ok data, rest)) :
    response.status = .ok 206 ∧ data = response.body ∧ rest.bytes = [] := by
  have line : response.statusLine ++ crlf ≠ [] := by simp
  rw [readResponse, Response.bytes, bind_ok (readLine_head (fits_brief brief (by simp))),
    if_neg line] at ended
  rcases bind_cases ended with ⟨_, _, failed⟩ | ⟨status, _, parsed, ended⟩
  · cases failed
  simp only [ofExcept_apply, Option.some.injEq, Prod.mk.injEq] at parsed
  obtain ⟨parsed, rfl⟩ := parsed
  rcases bind_cases ended with ⟨_, _, failed⟩ | ⟨contentLen, _, head, ended⟩
  · cases failed
  obtain ⟨rfl, known⟩ := headers_framed brief (fun _ => id) (by simp) head
  split at ended
  next => cases ended
  next partly =>
    split at ended
    next => cases ended
    next same =>
      have length := known _ (not_not.mp same)
      have whole := @readUpTo_append FetchError (.os failure) response.body [] .pending
      rw [List.append_nil] at whole
      rw [length, Int.toNat_natCast, bind_ok whole, if_neg (by simp)] at ended
      cases ended
      have accepted : status = 206 := not_not.mp partly
      exact ⟨parsed.trans (accepted ▸ rfl), rfl, rfl⟩

theorem stable_readResponse : Stable (readResponse failure start stop) := by
  apply Stable.bind stable_readLine
  intro statusLine
  split
  · exact Stable.raise
  · apply Stable.bind (Stable.ofExcept _)
    intro status
    apply Stable.bind stable_foldLines
    intro contentLen
    split
    · exact Stable.raise
    · split
      · exact Stable.raise
      · apply Stable.bind stable_readUpTo
        intro data
        split
        · exact Stable.raise
        · exact Stable.pure

/-- The header loop does not return at the end of the stream. -/
theorem headers_none {contentLen found : Option ℤ} {ending : Ending} {left : ByteStream}
    (ended : foldLines (.os failure) (some lineLimit) responseHeader contentLen ⟨[], ending⟩ =
      some (.ok found, left)) : False := by
  have waits := foldLines_whole responseHeader_nil responseHeader_whole ended
  rw [foldLines] at waits
  cases waits

/-- Data is returned only once the whole of it has arrived. -/
theorem readResponse_pending {bytes : Bytes} {ending : Ending}
    (ended : readResponse failure start stop ⟨bytes, ending⟩ = some (.ok data, rest)) :
    readResponse failure start stop ⟨bytes, .pending⟩ =
      some (.ok data, ⟨rest.bytes, .pending⟩) := by
  rw [readResponse] at ended ⊢
  rcases bind_cases ended with ⟨_, _, failed⟩ | ⟨statusLine, ⟨middle, still⟩, line, ended⟩
  · cases failed
  split at ended
  next => cases ended
  next nonempty =>
    rcases bind_cases ended with ⟨_, _, failed⟩ | ⟨status, _, parsed, ended⟩
    · cases failed
    simp only [ofExcept_apply, Option.some.injEq, Prod.mk.injEq] at parsed
    obtain ⟨parsed, rfl⟩ := parsed
    rcases bind_cases ended with ⟨_, _, failed⟩ | ⟨contentLen, ⟨left, later⟩, head, ended⟩
    · cases failed
    rcases readLine_cases line with ⟨line, same⟩ | ⟨same, _⟩
    · have status_ok : ofExcept (parseStatus statusLine) ⟨middle, .pending⟩ =
          some (.ok status, ⟨middle, .pending⟩) := by rw [ofExcept_apply, parsed]
      have head := foldLines_whole responseHeader_nil responseHeader_whole head
      rw [bind_ok line, if_neg nonempty, bind_ok status_ok, bind_ok head]
      split at ended
      next => cases ended
      next partly =>
        split at ended
        next => cases ended
        next expected =>
          rw [if_neg partly, if_neg expected]
          rcases bind_cases ended with ⟨_, _, failed⟩ | ⟨body, ⟨behind, _⟩, block, ended⟩
          · cases failed
          split at ended
          next => cases ended
          next full =>
            cases ended
            have count : data.length = (stop - start + 1).toNat := by
              rw [← not_not.mp full, Int.toNat_natCast]
            rw [bind_ok (readUpTo_full count block), if_neg full]
            rfl
    · cases same
      exact (headers_none head).elim

theorem readResponse_none {ending : Ending}
    (ended : readResponse failure start stop ⟨[], ending⟩ = some (.ok data, rest)) : False := by
  have waits := readResponse_pending ended
  rw [readResponse, bind_none rfl] at waits
  cases waits

/-- However much of a response arrives, data which is read from it is its body. -/
theorem readResponse_received {attempt : Attempt} (brief : attempt.response.Brief)
    (ended : readResponse failure start stop attempt.received = some (.ok data, rest)) :
    attempt.response.status = .ok 206 ∧ data = attempt.response.body ∧ rest.bytes = [] := by
  obtain ⟨seen, later, ending, received, whole⟩ : ∃ seen later ending,
      attempt.received = ⟨seen, ending⟩ ∧ seen ++ later = attempt.response.bytes := by
    unfold Attempt.received
    split
    next => exact ⟨_, [], _, rfl, List.append_nil _⟩
    next => exact ⟨_, _, _, rfl, List.take_append_drop attempt.arrived _⟩
  rw [received] at ended
  obtain ⟨_, extended⟩ := stable_readResponse (readResponse_pending ended)
  have complete := extended later
  rw [whole] at complete
  obtain ⟨status, body, empty⟩ := readResponse_whole brief complete
  exact ⟨status, body, (List.append_eq_nil_iff.mp empty).1⟩

/-- Data has the length of the range. -/
theorem readResponse_length {stream : ByteStream}
    (ended : readResponse failure start stop stream = some (.ok data, rest)) :
    (data.length : ℤ) = stop - start + 1 := by
  rw [readResponse] at ended
  rcases bind_cases ended with ⟨_, _, failed⟩ | ⟨statusLine, _, _, ended⟩
  · cases failed
  split at ended
  next => cases ended
  next =>
    rcases bind_cases ended with ⟨_, _, failed⟩ | ⟨status, _, _, ended⟩
    · cases failed
    rcases bind_cases ended with ⟨_, _, failed⟩ | ⟨contentLen, _, _, ended⟩
    · cases failed
    split at ended
    next => cases ended
    next =>
      split at ended
      next => cases ended
      next =>
        rcases bind_cases ended with ⟨_, _, failed⟩ | ⟨body, _, _, ended⟩
        · cases failed
        split at ended
        next => cases ended
        next full =>
          cases ended
          exact not_not.mp full

end Framed

/-! ### Requests on a connection without unread bytes -/

section Requests

variable {client after : UpstreamRangeClient} {attempt first second : Attempt} {start stop : ℤ}
  {data : Bytes} {result : Except FetchError Bytes} {exchanges : List Exchange}

theorem unread_close (client : UpstreamRangeClient) : client.close.unread = [] :=
  rfl

/-- Data comes from the unread bytes of the connection and from the response. -/
theorem fetchRangeOnce_ok
    (ended : client.fetchRangeOnce attempt start stop = some (.ok data, after)) :
    ∃ rest, readResponse attempt.failure start stop
        ((client.reader.getD ⟨[], .pending⟩).receive attempt.received) = some (.ok data, rest) ∧
      after.unread = rest.bytes := by
  unfold UpstreamRangeClient.fetchRangeOnce at ended
  split at ended
  next => cases ended
  next =>
    simp only at ended
    split at ended
    next => cases ended
    next =>
      split at ended
      next => cases ended
      next =>
        obtain ⟨⟨_, rest⟩, read, same⟩ := Option.map_eq_some_iff.mp ended
        cases same
        exact ⟨rest, read, rfl⟩

/-- On a connection without unread bytes data is the body of the response to the request, and no
byte stays unread. -/
theorem fetchRangeOnce_framed (fresh : client.unread = []) (brief : attempt.response.Brief)
    (ended : client.fetchRangeOnce attempt start stop = some (.ok data, after)) :
    attempt.response.status = .ok 206 ∧ data = attempt.response.body ∧ after.unread = [] := by
  obtain ⟨rest, read, left⟩ := fetchRangeOnce_ok ended
  have empty : (client.reader.getD ⟨[], .pending⟩).bytes = [] := by
    cases held : client.reader with
    | none => rfl
    | some reader => simpa [UpstreamRangeClient.unread, held] using fresh
  rcases reader : client.reader.getD ⟨[], .pending⟩ with ⟨bytes, ending⟩
  rw [reader] at read empty
  subst empty
  rw [left]
  cases ending with
  | pending => exact readResponse_received brief read
  | closed => exact (readResponse_none read).elim
  | broken => exact (readResponse_none read).elim

theorem fetchRangeOnce_length
    (ended : client.fetchRangeOnce attempt start stop = some (.ok data, after)) :
    (data.length : ℤ) = stop - start + 1 := by
  obtain ⟨rest, read, _⟩ := fetchRangeOnce_ok ended
  exact readResponse_length read

theorem fetchRange_length {fetch : Fetch}
    (ended : client.fetchRange first second start stop = some (fetch, after))
    (returned : fetch.result = .ok data) : (data.length : ℤ) = stop - start + 1 := by
  unfold UpstreamRangeClient.fetchRange at ended
  split at ended
  next => cases ended
  next message failed once =>
    obtain ⟨⟨result, left⟩, again, same⟩ := Option.map_eq_some_iff.mp ended
    cases same
    subst returned
    exact fetchRangeOnce_length again
  next result left _ once =>
    cases ended
    subst returned
    exact fetchRangeOnce_length once

/-- An exchange reads only the response to its own request. -/
structure Exchange.Framed (exchange : Exchange) : Prop where
  /-- Nothing is left of an earlier response. -/
  fresh : exchange.unread = []
  /-- Data is the body of a response of status 206 to this request. -/
  data : ∀ data, exchange.result = .ok data →
    exchange.attempt.response.status = .ok 206 ∧ data = exchange.attempt.response.body

/-- The exchanges of a fetch are framed, and the data of one of them is returned. -/
structure Fetch.Framed (fetch : Fetch) : Prop where
  exchanges : ∀ exchange ∈ fetch.exchanges, exchange.Framed ∧ exchange.start = fetch.start ∧
    exchange.stop = fetch.stop
  data : ∀ data, fetch.result = .ok data → ∃ exchange ∈ fetch.exchanges, exchange.result = .ok data

theorem exchange_framed (fresh : client.unread = []) (brief : attempt.response.Brief)
    {result : Except FetchError Bytes}
    (ended : client.fetchRangeOnce attempt start stop = some (result, after)) :
    Exchange.Framed ⟨start, stop, client.unread, attempt, result⟩ := by
  refine ⟨fresh, ?_⟩
  rintro data rfl
  obtain ⟨status, body, _⟩ := fetchRangeOnce_framed fresh brief ended
  exact ⟨status, body⟩

theorem fetchRange_ownResponse (fresh : client.unread = []) (brief : first.response.Brief)
    (brief' : second.response.Brief) {fetch : Fetch}
    (ended : client.fetchRange first second start stop = some (fetch, after)) :
    fetch.Framed ∧ ∀ data, fetch.result = .ok data → after.unread = [] := by
  unfold UpstreamRangeClient.fetchRange at ended
  split at ended
  next => cases ended
  next message failed once =>
    obtain ⟨⟨result, left⟩, again, same⟩ := Option.map_eq_some_iff.mp ended
    cases same
    refine ⟨⟨?_, fun data returned =>
      ⟨_, List.mem_cons_of_mem _ List.mem_cons_self, returned⟩⟩, ?_⟩
    · intro exchange inside
      rcases List.mem_pair.mp inside with rfl | rfl
      · exact ⟨exchange_framed fresh brief once, rfl, rfl⟩
      · exact ⟨exchange_framed (unread_close failed) brief' again, rfl, rfl⟩
    · rintro data rfl
      exact (fetchRangeOnce_framed (unread_close failed) brief' again).2.2
  next result left _ once =>
    cases ended
    refine ⟨⟨?_, fun data returned => ⟨_, List.mem_cons_self, returned⟩⟩, ?_⟩
    · intro exchange inside
      rw [List.mem_singleton.mp inside]
      exact ⟨exchange_framed fresh brief once, rfl, rfl⟩
    · rintro data rfl
      exact (fetchRangeOnce_framed fresh brief once).2.2

end Requests

end Upstream
end Proxy
end HermOS
