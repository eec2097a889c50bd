import HermOS.Proxy.RangeRequest
import HermOS.Uffd.RangeClient

/-!
# One exchange between the range client and the proxy

The proxy reads the request which `HttpRangeClient` prints as the range it asks for, and the client
reads the response which the proxy prints as the bytes in it.  Both leave what follows unread.
-/

namespace HermOS
namespace Proxy

open Codec Http Python Reading
open Uffd (HttpUrl rangeEnd)

/-! ### The request -/

/-- The lines of the client's requests are short enough for the proxy, and no other line is hidden
in the host or the path; a space would end the path. -/
structure Presentable (url : HttpUrl) : Prop where
  path_space : ' ' ∉ url.path
  path_line : '\n' ∉ url.path
  host_line : '\n' ∉ url.hostHeader
  path_short : (utf8 ("GET ".toList ++ url.path ++ " HTTP/1.1".toList)).length + 2 ≤ lineLimit
  host_short : (utf8 ("Host: ".toList ++ url.hostHeader)).length + 2 ≤ lineLimit

def rangeValue (start stop : ℕ) : Text :=
  "bytes=".toList ++ (decimal start ++ '-' :: decimal stop)

theorem rangeValue_eq (start stop : ℕ) :
    rangeValue start stop = "bytes=".toList ++ (decimal start ++ '-' :: decimal stop) :=
  rfl

/-- What the proxy reads of a request. -/
def seenRequest (url : HttpUrl) (offset len : UInt64) : Request where
  method := "GET".toList
  path := fromLatin1 (utf8 url.path)
  version := "HTTP/1.1".toList
  headers :=
    [("connection".toList, "keep-alive".toList),
      ("range".toList, rangeValue offset.toNat (rangeEnd offset len).toNat),
      ("host".toList, strip (' ' :: fromLatin1 (utf8 url.hostHeader) ++ ['\r', '\n']))]

section Request

variable {url : HttpUrl} {offset len : UInt64} {text : Text} {bytes : List UInt8}

/-- Decoding a line of a head which begins with ASCII text. -/
theorem fromLatin1_line {front : Text} (front_ascii : Ascii front) :
    fromLatin1 (utf8 (front ++ text) ++ crlf) =
      front ++ fromLatin1 (utf8 text) ++ ['\r', '\n'] := by
  rw [fromLatin1_append, utf8_append, fromLatin1_append, fromLatin1_utf8 front_ascii,
    fromLatin1_crlf]

theorem parseRequestLine_get (space : ' ' ∉ url.path) :
    parseRequestLine (utf8 ("GET ".toList ++ url.path ++ " HTTP/1.1".toList) ++ crlf) =
      .ok ("GET".toList, fromLatin1 (utf8 url.path), "HTTP/1.1".toList) := by
  have seen_space : ' ' ∉ fromLatin1 (utf8 url.path) := fun inside =>
    space (mem_fromLatin1_utf8 inside (by decide))
  have decoded : fromLatin1 (utf8 ("GET ".toList ++ url.path ++ " HTTP/1.1".toList) ++ crlf) =
      [] ++ ("GET".toList ++ ' ' :: (fromLatin1 (utf8 url.path) ++ ' ' :: "HTTP/1.1".toList)) ++
        ['\r', '\n'] := by
    have get : Ascii "GET ".toList := by decide
    have version : fromLatin1 (utf8 " HTTP/1.1".toList) = " HTTP/1.1".toList :=
      fromLatin1_utf8 (by decide)
    rw [List.append_assoc "GET ".toList, fromLatin1_line get, utf8_append, fromLatin1_append,
      version]
    simp
  have stripped : strip ([] ++ ("GET".toList ++ ' ' :: (fromLatin1 (utf8 url.path) ++
      ' ' :: "HTTP/1.1".toList)) ++ ['\r', '\n']) =
      "GET".toList ++ ' ' :: (fromLatin1 (utf8 url.path) ++ ' ' :: "HTTP/1.1".toList) := by
    apply trim_pad
    · simp
    · exact List.forall_mem_cons.mpr ⟨rfl, List.forall_mem_singleton.mpr rfl⟩
    · rintro c ⟨⟩
      decide
    · simp [List.getLast?_append, List.getLast?_cons]
      decide
  rw [parseRequestLine, decoded, stripped, splitAtMost_cons (by decide),
    splitAtMost_cons seen_space]
  rfl

theorem fits_line {line : Text} (free : '\n' ∉ line) (short : (utf8 line).length + 2 ≤ lineLimit) :
    Fits (some lineLimit) (utf8 line) := by
  refine ⟨lineFeed_not_mem_utf8 free, ?_⟩
  rintro count ⟨⟩
  exact short

theorem headerLine_line {key value : Text} {headers : Headers} (ascii : Ascii key)
    (free : ':' ∉ key) :
    headerLine headers (utf8 (key ++ ": ".toList ++ value) ++ crlf) =
      .ok (.inl ((lowerLatin1 (strip key),
        strip (' ' :: fromLatin1 (utf8 value) ++ ['\r', '\n'])) :: headers)) := by
  have front : Ascii (key ++ ": ".toList) := ascii_append ascii (by decide)
  have decoded : fromLatin1 (utf8 (key ++ ": ".toList ++ value) ++ crlf) =
      key ++ ':' :: (' ' :: fromLatin1 (utf8 value) ++ ['\r', '\n']) := by
    rw [fromLatin1_line front]
    simp
  have some_byte : utf8 (key ++ ": ".toList ++ value) ≠ [] := by
    intro empty
    have none_left := congrArg fromLatin1 empty
    rw [utf8_append, fromLatin1_append, fromLatin1_utf8 front] at none_left
    simp [fromLatin1] at none_left
  exact headerLine_eq (by simp) (blankLine_line some_byte) free decoded

theorem decimal_length (n : UInt64) : (decimal n.toNat).length ≤ 20 :=
  (Nat.length_toDigits_le_iff (by decide) (by decide)).mpr
    (Nat.lt_of_lt_of_le n.toNat_lt (by decide))

theorem ascii_decimal (n : ℕ) : Ascii (decimal n) := by
  intro c inside
  have bounds : 48 ≤ c.toNat ∧ c.toNat ≤ 57 := by
    simpa [Char.isDigit, UInt32.le_iff_toNat_le] using isDigit_decimal c inside
  omega

theorem ascii_rangeValue (start stop : ℕ) : Ascii (rangeValue start stop) := by
  apply ascii_append
  · decide
  · have dash : Ascii ['-'] := by decide
    exact ascii_append (ascii_decimal start) (ascii_append dash (ascii_decimal stop))

theorem not_mem_decimal {n : ℕ} {c : Char} (other : c.isDigit = false) : c ∉ decimal n := by
  intro inside
  rw [isDigit_decimal c inside] at other
  exact Bool.noConfusion other

/-- The proxy finds the range value between the colon and the end of the line. -/
theorem strip_rangeValue (start stop : ℕ) :
    strip (' ' :: fromLatin1 (utf8 (rangeValue start stop)) ++ ['\r', '\n']) =
      rangeValue start stop := by
  have padded : ' ' :: rangeValue start stop ++ ['\r', '\n'] =
      [' '] ++ rangeValue start stop ++ ['\r', '\n'] := rfl
  rw [fromLatin1_utf8 (ascii_rangeValue start stop), padded]
  apply trim_pad
  · exact List.forall_mem_singleton.mpr rfl
  · exact List.forall_mem_cons.mpr ⟨rfl, List.forall_mem_singleton.mpr rfl⟩
  · intro c same
    have first : (rangeValue start stop).head? = some 'b' := rfl
    rw [first] at same
    obtain rfl := Option.some.inj same
    decide
  · obtain ⟨last, found, digit⟩ := getLast?_decimal stop
    intro c same
    have ends : (rangeValue start stop).getLast? = some last := by
      rw [rangeValue_eq, List.getLast?_append, List.getLast?_append, List.getLast?_cons, found]
      rfl
    rw [ends] at same
    obtain rfl := Option.some.inj same
    exact isSpace_isDigit digit

theorem range_line_eq (start stop : ℕ) :
    "Range: bytes=".toList ++ decimal start ++ "-".toList ++ decimal stop =
        "Range".toList ++ ": ".toList ++ rangeValue start stop := by
  simp [rangeValue_eq]

theorem fits_range {start stop : ℕ} (start_short : (decimal start).length ≤ 20)
    (stop_short : (decimal stop).length ≤ 20) : Fits (some lineLimit)
      (utf8 ("Range".toList ++ ": ".toList ++ rangeValue start stop)) := by
  have no_feed {n : ℕ} : '\n' ∉ decimal n := not_mem_decimal rfl
  apply fits_line
  · simp [rangeValue_eq, no_feed]
  · have line_ascii : Ascii ("Range".toList ++ ": ".toList ++ rangeValue start stop) :=
      ascii_append (by decide) (ascii_rangeValue start stop)
    rw [utf8_ascii line_ascii]
    simp [ascii, lineLimit, rangeValue_eq]
    omega

theorem fits_short {line : List UInt8} (free : lineFeed ∉ line) (short : line.length ≤ 100) :
    Fits (some lineLimit) line := by
  refine ⟨free, ?_⟩
  rintro count ⟨⟩
  exact Nat.le_trans (Nat.add_le_add_right short 2) (by decide)

theorem requestLine_line {line : List UInt8} (nonempty : line ≠ []) :
    requestLine () (line ++ crlf) = .ok (.inr (some (line ++ crlf))) := by
  rw [requestLine, if_neg (by simp), blankLine_line nonempty, if_neg Bool.false_ne_true]

theorem headers_request (presentable : Presentable url) {start stop : ℕ}
    (start_short : (decimal start).length ≤ 20) (stop_short : (decimal stop).length ≤ 20)
    (ending : Ending) :
    foldLines .connection (some lineLimit) headerLine []
        ⟨headBytes [utf8 ("Host".toList ++ ": ".toList ++ url.hostHeader),
          utf8 ("Range".toList ++ ": ".toList ++ rangeValue start stop),
          utf8 ("Connection".toList ++ ": ".toList ++ "keep-alive".toList)] ++ bytes, ending⟩ =
      some (.ok [("connection".toList, "keep-alive".toList),
        ("range".toList, rangeValue start stop),
        ("host".toList, strip (' ' :: fromLatin1 (utf8 url.hostHeader) ++ ['\r', '\n']))],
          ⟨bytes, ending⟩) := by
  have host_line : Fits (some lineLimit)
      (utf8 ("Host".toList ++ ": ".toList ++ url.hostHeader)) := by
    apply fits_line _ presentable.host_short
    simp [presentable.host_line]
  have connection_line : Fits (some lineLimit)
      (utf8 ("Connection".toList ++ ": ".toList ++ "keep-alive".toList)) :=
    fits_short (by decide) (by decide)
  have connection : headerLine [("range".toList, rangeValue start stop),
      ("host".toList, strip (' ' :: fromLatin1 (utf8 url.hostHeader) ++ ['\r', '\n']))]
        (utf8 ("Connection".toList ++ ": ".toList ++ "keep-alive".toList) ++ crlf) =
      .ok (.inl [("connection".toList, "keep-alive".toList),
        ("range".toList, rangeValue start stop),
        ("host".toList, strip (' ' :: fromLatin1 (utf8 url.hostHeader) ++ ['\r', '\n']))]) := by
    have value : strip (' ' :: fromLatin1 (utf8 "keep-alive".toList) ++ ['\r', '\n']) =
        "keep-alive".toList := by decide
    have key : lowerLatin1 (strip "Connection".toList) = "connection".toList := by decide
    rw [headerLine_line (by decide) (by decide), value, key]
  have range : headerLine
      [("host".toList, strip (' ' :: fromLatin1 (utf8 url.hostHeader) ++ ['\r', '\n']))]
        (utf8 ("Range".toList ++ ": ".toList ++ rangeValue start stop) ++ crlf) =
      .ok (.inl [("range".toList, rangeValue start stop),
        ("host".toList, strip (' ' :: fromLatin1 (utf8 url.hostHeader) ++ ['\r', '\n']))]) := by
    have key : lowerLatin1 (strip "Range".toList) = "range".toList := by decide
    rw [headerLine_line (by decide) (by decide), strip_rangeValue, key]
  have host : headerLine [] (utf8 ("Host".toList ++ ": ".toList ++ url.hostHeader) ++ crlf) =
      .ok (.inl [("host".toList,
        strip (' ' :: fromLatin1 (utf8 url.hostHeader) ++ ['\r', '\n']))]) := by
    have key : lowerLatin1 (strip "Host".toList) = "host".toList := by decide
    rw [headerLine_line (by decide) (by decide), key]
  rw [foldLines_head_next host_line host,
    foldLines_head_next (fits_range start_short stop_short) range,
    foldLines_head_next connection_line connection]
  exact foldLines_head_stop (fits_short (by decide) (by decide)) rfl

/-- The proxy reads the request which the client has written. -/
theorem readRequest_request (presentable : Presentable url) (ending : Ending) :
    readRequest ⟨url.request offset len ++ bytes, ending⟩ =
      some (.ok (some (seenRequest url offset len)), ⟨bytes, ending⟩) := by
  have request_line : Fits (some lineLimit)
      (utf8 ("GET ".toList ++ url.path ++ " HTTP/1.1".toList)) := by
    apply fits_line _ presentable.path_short
    simp [presentable.path_line]
  have some_byte : utf8 ("GET ".toList ++ url.path ++ " HTTP/1.1".toList) ≠ [] := by
    rw [List.append_assoc, utf8_append]
    intro empty
    exact absurd (List.append_eq_nil_iff.mp empty).1 (by decide)
  have lines : (url.requestLines offset len).map utf8 =
      [utf8 ("GET ".toList ++ url.path ++ " HTTP/1.1".toList),
        utf8 ("Host".toList ++ ": ".toList ++ url.hostHeader),
        utf8 ("Range".toList ++ ": ".toList ++
          rangeValue offset.toNat (rangeEnd offset len).toNat),
        utf8 ("Connection".toList ++ ": ".toList ++ "keep-alive".toList)] := by
    rw [← range_line_eq]
    rfl
  rw [HttpUrl.request, utf8_headText, lines, readRequest,
    bind_ok (foldLines_head_take request_line (requestLine_line some_byte))]
  dsimp only
  rw [parseRequestLine_get presentable.path_space, bind_ok ofExcept_apply]
  dsimp only
  rw [bind_ok (headers_request presentable (decimal_length offset)
    (decimal_length (rangeEnd offset len)) ending)]
  rfl

/-- The requests for a URL without blanks and line ends are short if the URL is. -/
theorem presentable_of_spelled (spelled : url.Spelled text) (space : ' ' ∉ text)
    (line : '\n' ∉ text) (short : (utf8 text).length + 8 ≤ lineLimit) : Presentable url := by
  have request : (utf8 "GET ".toList).length = 4 ∧ (utf8 " HTTP/1.1".toList).length = 9 ∧
      (utf8 "Host: ".toList).length = 6 ∧ (utf8 "http://".toList).length = 7 := by decide
  obtain ⟨get, version, host, scheme⟩ := request
  rcases spelled.text with ⟨rfl, path⟩ | ⟨rfl, _⟩
  · rw [utf8_append, List.length_append, scheme] at short
    simp only [List.mem_append, not_or] at space line
    refine ⟨by rw [path]; decide, by rw [path]; decide, line.2, by rw [path]; decide, ?_⟩
    rw [utf8_append, List.length_append, host]
    omega
  · simp only [utf8_append, List.length_append, scheme] at short
    simp only [List.mem_append, not_or] at space line
    refine ⟨space.2.2, line.2.2, line.2.1, ?_, ?_⟩
    · simp only [utf8_append, List.length_append, get, version]
      omega
    · rw [utf8_append, List.length_append, host]
      omega

/-- The proxy fetches the range for which the client asks. -/
theorem answer_seenRequest (intError : Text → Text) (stats : List UInt8)
    (other : url.path ≠ "/__stats".toList)
    (ordered : offset.toNat ≤ (rangeEnd offset len).toNat) :
    answer intError stats (seenRequest url offset len) =
      .fetch offset.toNat (rangeEnd offset len).toNat false := by
  have no_stats : (seenRequest url offset len).path ≠ "/__stats".toList := fun same =>
    other (eq_of_fromLatin1_utf8 same (by decide))
  have short : (rangeEnd offset len).toNat < 10 ^ maxStrDigits :=
    Nat.lt_of_lt_of_le (rangeEnd offset len).toNat_lt
      (Nat.le_trans (by decide : 2 ^ 64 ≤ 10 ^ 20) (Nat.pow_le_pow_right (by decide) (by decide)))
  have parsed : parseRangeHeader intError
      (rangeValue offset.toNat (rangeEnd offset len).toNat) =
        .ok (offset.toNat, (rangeEnd offset len).toNat) :=
    parseRangeHeader_decimal intError ordered short
  have range : (seenRequest url offset len).headers.lookup "range".toList =
      some (rangeValue offset.toNat (rangeEnd offset len).toNat) := rfl
  have keeps : (seenRequest url offset len).close = false := rfl
  rw [answer, if_neg (by simp [seenRequest]), if_neg no_stats, range]
  split
  next empty => simp [rangeValue_eq] at empty
  next empty => simp [rangeValue_eq] at empty
  next value _ same =>
    obtain rfl := Option.some.inj same
    rw [parsed, keeps]

end Request

/-! ### The response -/

section Response

variable {start stop : ℕ} {data bytes : List UInt8} {len : UInt64} {ending : Ending}

theorem lineText_line (line : Text) :
    Uffd.lineText (utf8 line ++ crlf) = .ok (line ++ ['\r', '\n']) := by
  have encoded : utf8 line ++ crlf = utf8 (line ++ ['\r', '\n']) := by
    rw [utf8_append]
    rfl
  rw [encoded, Uffd.lineText, fromUtf8_utf8]

theorem line_not_blank {line : Text} (nonempty : line ≠ []) :
    ¬ (line ++ ['\r', '\n'] = "\r\n".toList ∨ line ++ ['\r', '\n'] = "\n".toList) := by
  rintro (same | same)
  · exact nonempty (List.append_left_eq_self.mp same)
  · have length := congrArg List.length same
    simp at length

/-- The client passes over a header other than the content length. -/
theorem headerLine_other {contentLen : Option ℕ} {line : Text} (nonempty : line ≠ [])
    (other : Rust.stripPrefix "content-length:".toList
      (Rust.toAsciiLowercase (line ++ ['\r', '\n'])) = none) :
    Uffd.headerLine contentLen (utf8 line ++ crlf) = .ok (.inl contentLen) := by
  simp only [Uffd.headerLine, lineText_line, Bind.bind, Except.bind]
  rw [if_neg (line_not_blank nonempty), other]
  rfl

theorem toLower_digit {c : Char} (digit : c.isDigit = true) : c.toLower = c := by
  have bounds : 48 ≤ c.toNat ∧ c.toNat ≤ 57 := by
    simpa [Char.isDigit, UInt32.le_iff_toNat_le] using digit
  have not_upper : ¬ (c.val ≥ 'A'.val ∧ c.val ≤ 'Z'.val) := by
    rintro ⟨upper, _⟩
    have upper : 65 ≤ c.toNat := UInt32.le_iff_toNat_le.mp upper
    omega
  exact dif_neg not_upper

theorem parseUnsigned_decimal {n bound : ℕ} (inside : n < bound) :
    Rust.parseUnsigned bound (decimal n) = some n := by
  have nonempty : decimal n ≠ [] := Nat.toDigits_ne_nil
  have digits : Rust.digits? (decimal n) = some ((decimal n).map fun c => c.toNat - 48) := by
    rw [Rust.digits?, if_pos]
    exact ⟨nonempty, by simpa [List.all_eq_true] using fun c => isDigit_decimal c⟩
  rw [Rust.parseUnsigned]
  · simp [digits, ofDigits_decimal, inside]
  · intro rest same
    have sign := isDigit_decimal '+' (by rw [same]; exact List.mem_cons_self)
    cases sign

theorem headerLine_contentLength {contentLen : Option ℕ} {length : ℕ}
    (inside : length < Uffd.usizeSize) :
    Uffd.headerLine contentLen (utf8 ("Content-Length: ".toList ++ decimal length) ++ crlf) =
      .ok (.inl (some length)) := by
  have lower : Rust.toAsciiLowercase ("Content-Length: ".toList ++ decimal length ++
      ['\r', '\n']) = "content-length:".toList ++ (' ' :: decimal length ++ ['\r', '\n']) := by
    have digits : (decimal length).map Char.toLower = decimal length := by
      apply (List.map_congr_left _).trans (List.map_id _)
      intro c inside
      exact toLower_digit (isDigit_decimal c inside)
    rw [Rust.toAsciiLowercase, List.map_append, List.map_append, digits]
    rfl
  have stripped : Rust.stripPrefix "content-length:".toList
      ("content-length:".toList ++ (' ' :: decimal length ++ ['\r', '\n'])) =
        some (' ' :: decimal length ++ ['\r', '\n']) := by
    rw [Rust.stripPrefix, if_pos (List.prefix_append ..), List.drop_left]
  have trimmed : Rust.trim (' ' :: decimal length ++ ['\r', '\n']) = decimal length := by
    have padded : ' ' :: decimal length ++ ['\r', '\n'] =
        [' '] ++ decimal length ++ ['\r', '\n'] := rfl
    have solid : ∀ c ∈ decimal length, Rust.isWhitespace c = false := by
      intro c inside
      rw [Rust.isWhitespace, isSpace_isDigit (isDigit_decimal c inside), Bool.false_and]
    rw [Rust.trim, padded]
    apply trim_pad
    · exact List.forall_mem_singleton.mpr rfl
    · exact List.forall_mem_cons.mpr ⟨rfl, List.forall_mem_singleton.mpr rfl⟩
    · exact fun c first => solid c (List.mem_of_mem_head? first)
    · exact fun c last => solid c (List.mem_of_mem_getLast? last)
  simp only [Uffd.headerLine, lineText_line, Bind.bind, Except.bind]
  rw [if_neg (line_not_blank (by simp)), lower, stripped]
  simp only [trimmed, parseUnsigned_decimal inside]
  rfl

theorem showInt_cast (n : ℕ) : showInt n = decimal n := by
  simp [showInt]

def contentRange (start stop : ℕ) : Text :=
  decimal start ++ '-' :: (decimal stop ++ "/*".toList)

theorem ascii_contentRange (start stop : ℕ) : Ascii (contentRange start stop) := by
  apply ascii_append (ascii_decimal start)
  have dash : Ascii ['-'] := by decide
  exact ascii_append dash (ascii_append (ascii_decimal stop) (by decide))

theorem rangeHead_eq (start stop length : ℕ) : rangeHead start stop length false =
    ["HTTP/1.1 206 Partial Content".toList, "Content-Length: ".toList ++ decimal length,
      "Content-Range: bytes ".toList ++ contentRange start stop, "Accept-Ranges: bytes".toList,
      "Connection: keep-alive".toList] := by
  rw [rangeHead, showInt_cast, showInt_cast]
  rfl

theorem ascii_rangeHead (start stop length : ℕ) :
    Ascii (headText (rangeHead start stop length false)) := by
  apply ascii_headText
  rw [rangeHead_eq]
  intro line listed
  simp only [List.mem_cons, List.not_mem_nil, or_false] at listed
  rcases listed with rfl | rfl | rfl | rfl | rfl
  · decide
  · exact ascii_append (by decide) (ascii_decimal length)
  · exact ascii_append (by decide) (ascii_contentRange start stop)
  · decide
  · decide

theorem fits_any {line : Text} (free : '\n' ∉ line) : Fits none (utf8 line) :=
  ⟨lineFeed_not_mem_utf8 free, by simp⟩

theorem headers_response {length : ℕ} (inside : length < Uffd.usizeSize) :
    foldLines .socket none Uffd.headerLine none
        ⟨headBytes [utf8 ("Content-Length: ".toList ++ decimal length),
          utf8 ("Content-Range: bytes ".toList ++ contentRange start stop),
          utf8 "Accept-Ranges: bytes".toList, utf8 "Connection: keep-alive".toList] ++ bytes,
            ending⟩ =
      some (.ok (some length), ⟨bytes, ending⟩) := by
  have no_feed {n : ℕ} : '\n' ∉ decimal n := not_mem_decimal rfl
  have length_line : Fits none (utf8 ("Content-Length: ".toList ++ decimal length)) := by
    apply fits_any
    simp [no_feed]
  have range_line : Fits none
      (utf8 ("Content-Range: bytes ".toList ++ contentRange start stop)) := by
    apply fits_any
    simp [contentRange, no_feed]
  have range : Uffd.headerLine (some length)
      (utf8 ("Content-Range: bytes ".toList ++ contentRange start stop) ++ crlf) =
        .ok (.inl (some length)) := by
    apply headerLine_other (by simp)
    rw [Rust.stripPrefix, if_neg]
    rw [Rust.toAsciiLowercase, List.append_assoc, List.map_append]
    intro front
    have same := List.prefix_of_prefix_length_le front (List.prefix_append ..) (by decide)
    exact absurd same (by decide)
  have ranges : Uffd.headerLine (some length) (utf8 "Accept-Ranges: bytes".toList ++ crlf) =
      .ok (.inl (some length)) :=
    headerLine_other (by decide) (by decide)
  have connection : Uffd.headerLine (some length) (utf8 "Connection: keep-alive".toList ++ crlf) =
      .ok (.inl (some length)) :=
    headerLine_other (by decide) (by decide)
  have blank : Uffd.headerLine (some length) crlf = .ok (.inr (some length)) := by
    have decoded : Uffd.lineText crlf = .ok "\r\n".toList := by decide
    rw [Uffd.headerLine, decoded]
    rfl
  rw [foldLines_head_next length_line (headerLine_contentLength inside),
    foldLines_head_next range_line range,
    foldLines_head_next (fits_any (by decide)) ranges,
    foldLines_head_next (fits_any (by decide)) connection]
  exact foldLines_head_stop ⟨by decide, by simp⟩ blank

/-- The client reads the response which the proxy has written. -/
theorem readResponse_range (length : data.length = len.toNat) :
    Uffd.readResponse len ⟨rangeResponse start stop data false ++ bytes, ending⟩ =
      some (.ok data, ⟨bytes, ending⟩) := by
  have encoded : rangeResponse start stop data false ++ bytes =
      headBytes ((rangeHead start stop data.length false).map utf8) ++ (data ++ bytes) := by
    rw [rangeResponse, ← utf8_ascii (ascii_rangeHead start stop data.length), utf8_headText,
      List.append_assoc]
  have status : Uffd.lineText (utf8 "HTTP/1.1 206 Partial Content".toList ++ crlf) >>=
      Uffd.parseStatus = .ok 206 := by
    rw [lineText_line]
    decide
  have body : Uffd.readExact len.toNat ⟨data ++ bytes, ending⟩ =
      some (.ok data, ⟨bytes, ending⟩) := by
    rw [Uffd.readExact, ← length, bind_ok readUpTo_append, if_pos rfl]
    rfl
  rw [encoded, rangeHead_eq, Uffd.readResponse]
  simp only [List.map_cons, List.map_nil]
  rw [bind_ok (readLine_head (fits_any (by decide))), status, bind_ok ofExcept_apply,
    bind_ok (headers_response (length ▸ len.toNat_lt)), if_neg (by decide), length,
    if_neg (by simp)]
  exact body

end Response

end Proxy
end HermOS
