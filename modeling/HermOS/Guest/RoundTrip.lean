import HermOS.Guest.Reply
import HermOS.Guest.RgScan

/-!
# From the daemon to the host

For every request the host either has what the daemon has measured, or raises with the status of the
answer or with the report of the workload.
-/

namespace HermOS
namespace Guest

open Codec Python WorkloadRun
open Json (Fields assign foldl_assign)

/-- `json.loads` takes no text for JSON which begins with a letter that no constant begins with. -/
def RejectsWords (loads : Text → Loaded) : Prop :=
  ∀ c rest, c.isAlpha = true → c ∉ ['t', 'f', 'n', 'N', 'I'] → loads (c :: rest) = .invalid

/-! ### Any answer -/

theorem unlines_eq_join {lines : List Text} (nonempty : lines ≠ []) :
    unlines lines = join '\n' lines ++ ['\n'] := by
  obtain ⟨front, last, rfl⟩ := List.eq_nil_or_concat lines |>.resolve_left nonempty
  rw [List.concat_eq_append, join_concat]
  simp [unlines]

theorem plain_unlines {lines : List Text} (solid : ∀ line ∈ lines, Solid line) :
    '\r' ∉ unlines lines := by
  intro inside
  obtain ⟨line, member, inside⟩ := List.mem_flatMap.mp inside
  rcases List.mem_append.mp inside with within | at_end
  · exact (solid line member).1 within
  · exact absurd (List.mem_singleton.mp at_end) (by decide)

/-- The text of an answer falls into its head and its lines. -/
theorem rpartition_reply {head lines : List Text} (some_line : head ≠ [])
    (head_solid : ∀ line ∈ head, Solid line) (solid : ∀ line ∈ lines, line ≠ [] ∧ Solid line) :
    rpartition "\n\n".toList
        (replaceLineEnds (universalNewlines (Http.headText head ++ unlines lines))) =
      (join '\n' head, unlines lines) := by
  have plain := plain_unlines fun line inside => (solid line inside).2
  have head_plain := plain_unlines head_solid
  have text : '\r' ∉ unlines head ++ '\n' :: unlines lines := by
    simp [head_plain, plain]
  have separated : unlines head ++ '\n' :: unlines lines =
      join '\n' head ++ '\n' :: '\n' :: unlines lines := by
    rw [unlines_eq_join some_line, List.append_assoc]
    rfl
  rw [universalNewlines_headText head_solid plain, replaceLineEnds_eq text, separated]
  exact rpartition_head solid

/-- A body which begins with a word is read line by line. -/
theorem parseCurlOutput_reply {loads : Text → Loaded} (rejects : RejectsWords loads)
    {head lines : List Text} (some_line : head ≠ []) (head_solid : ∀ line ∈ head, Solid line)
    (solid : ∀ line ∈ lines, line ≠ [] ∧ Solid line) {c : Char} {rest : Text}
    (body : strip (unlines lines) = c :: rest) (letter : c.isAlpha = true)
    (word : c ∉ ['t', 'f', 'n', 'N', 'I']) :
    parseCurlOutput loads (universalNewlines (Http.headText head ++ unlines lines)) =
      some (bodyFields (httpStatus (join '\n' head)) (strip (unlines lines))) := by
  have parts := rpartition_reply some_line head_solid solid
  have invalid : loads (strip (unlines lines)) = .invalid := body ▸ rejects c rest letter word
  have nonempty : strip (unlines lines) ≠ [] := body ▸ List.cons_ne_nil c rest
  rw [parseCurlOutput, parts]
  dsimp only
  rw [if_neg nonempty, invalid]

/-! ### The answer of a workload -/

/-- Keys and values in the body of an answer. -/
def answerPairs (id : Text) (measured : Measured) (result : WorkloadResult) : List (Text × Text) :=
  [("workload".toList, id), ("elapsed_ns".toList, str measured.elapsedNs.toInt),
    ("minflt".toList, str measured.minflt.toInt), ("majflt".toList, str measured.majflt.toInt),
    ("status".toList, if result.ok then "ok".toList else "error".toList)] ++
    if result.detail = [] then [] else [("detail".toList, result.detail)]

theorem answerLines_eq (id : Text) (measured : Measured) (result : WorkloadResult) :
    answerLines id measured result = (answerPairs id measured result).map keyLine := by
  unfold answerLines answerPairs
  split <;> split <;> rfl

def okHead : List Text :=
  ["HTTP/1.1 200 OK".toList, "Content-Type: text/plain".toList, "Connection: close".toList]

theorem httpOk_eq : httpOk = Http.headText okHead := by
  decide

theorem httpStatus_ok : httpStatus (join '\n' okHead) = 200 := by
  decide

theorem solid_printable {text : Text} (printable : Printable text) : Solid text := by
  constructor
  · intro inside
    exact absurd (printable _ inside) (by decide)
  · intro inside
    exact absurd (printable _ inside) (by decide)

def answerKeys : List Text :=
  ["workload".toList, "elapsed_ns".toList, "minflt".toList, "majflt".toList, "status".toList,
    "detail".toList]

theorem answerPairs_keys (id : Text) (measured : Measured) (result : WorkloadResult) :
    ((answerPairs id measured result).map Prod.fst).Sublist answerKeys := by
  unfold answerPairs
  by_cases none : result.detail = []
  · rw [if_pos none]
    exact (List.prefix_append _ ["detail".toList]).sublist
  · rw [if_neg none]
    exact List.Sublist.refl _

theorem plainKey_answerPairs (id : Text) (measured : Measured) (result : WorkloadResult) :
    ∀ pair ∈ answerPairs id measured result, PlainKey pair.1 := by
  have nonempty : ∀ key ∈ answerKeys, key ≠ [] := by decide
  have plain : answerKeys.flatten.all (fun c => c ≠ '=' ∧ isSpace c = false) = true := rfl
  intro pair inside
  have listed := (answerPairs_keys id measured result).subset (List.mem_map_of_mem inside)
  have each : ∀ c ∈ pair.1, c ≠ '=' ∧ isSpace c = false := fun c within =>
    of_decide_eq_true (List.all_eq_true.mp plain c (List.mem_flatten.mpr ⟨_, listed, within⟩))
  exact ⟨nonempty _ listed, fun within => (each _ within).1 rfl, fun c within => (each c within).2⟩

/-- The body of an answer without the white space around it. -/
def answerBody (id : Text) (measured : Measured) (result : WorkloadResult) : Text :=
  strip (unlines (answerLines id measured result))

/-- What the host makes of an answer. -/
def answerFields (id : Text) (measured : Measured) (result : WorkloadResult) : Fields :=
  [("http_status".toList, .int 200), ("raw_body".toList, .str (answerBody id measured result)),
    ("workload".toList, .str id), ("elapsed_ns".toList, .str (str measured.elapsedNs.toInt)),
    ("minflt".toList, .str (str measured.minflt.toInt)),
    ("majflt".toList, .str (str measured.majflt.toInt)),
    ("status".toList, .str (if result.ok then "ok".toList else "error".toList))] ++
    if result.detail = [] then [] else [("detail".toList, .str (strip result.detail))]

theorem strip_id (workload : Workload) : strip workload.id = workload.id := by
  cases workload <;> decide

theorem foldl_answerPairs (workload : Workload) (measured : Measured) (result : WorkloadResult) :
    (answerPairs workload.id measured result).foldl
        (fun result pair => assign pair.1 (.str (strip pair.2)) result)
        [("http_status".toList, .int 200),
          ("raw_body".toList, .str (answerBody workload.id measured result))] =
      answerFields workload.id measured result := by
  have word : strip (if result.ok then "ok".toList else "error".toList) =
      if result.ok then "ok".toList else "error".toList := by
    cases result.ok <;> decide
  have distinct : ("http_status".toList :: "raw_body".toList :: answerKeys).Nodup := by decide
  rw [foldl_assign fun text => .str (strip text)]
  · unfold answerPairs answerFields
    by_cases none : result.detail = []
    · rw [if_pos none, if_pos none]
      simp only [List.map_cons, List.map_nil, List.append_nil, strip_id, strip_str, word]
      rfl
    · rw [if_neg none, if_neg none]
      simp only [List.map_cons, List.map_nil, List.map_append, strip_id, strip_str, word]
      rfl
  · exact distinct.sublist (((answerPairs_keys _ measured result).cons_cons _).cons_cons _)

theorem parseCurlOutput_answer {loads : Text → Loaded} (rejects : RejectsWords loads)
    (workload : Workload) (measured : Measured) (result : WorkloadResult) :
    parseCurlOutput loads (universalNewlines (answerText workload.id measured result)) =
      some (answerFields workload.id measured result) := by
  have plain := plainKey_answerPairs workload.id measured result
  have printable := printable_answerLines (workload_id workload).1 measured result
  have lines := answerLines_eq workload.id measured result
  obtain ⟨pairs, pair, split⟩ : ∃ pairs pair, answerPairs workload.id measured result =
      pairs ++ [pair] := by
    have some_pair : answerPairs workload.id measured result ≠ [] := List.cons_ne_nil _ _
    obtain ⟨pairs, pair, whole⟩ := (List.eq_nil_or_concat _).resolve_left some_pair
    exact ⟨pairs, pair, by rw [whole, List.concat_eq_append]⟩
  have head_solid : ∀ line ∈ okHead, Solid line := by
    have printable_head : ∀ line ∈ okHead, Printable line := by decide
    exact fun line inside => solid_printable (printable_head line inside)
  have solid : ∀ line ∈ answerLines workload.id measured result, line ≠ [] ∧ Solid line := by
    intro line inside
    refine ⟨?_, solid_printable (printable line inside)⟩
    rw [lines] at inside
    obtain ⟨pair, _, rfl⟩ := List.mem_map.mp inside
    simp [keyLine]
  have letter : ∃ rest, unlines (answerLines workload.id measured result) = 'w' :: rest :=
    ⟨_, rfl⟩
  obtain ⟨rest, text⟩ := letter
  have body : strip (unlines (answerLines workload.id measured result)) = 'w' :: rstrip rest := by
    rw [text, strip_cons (by decide)]
  have parsed := parseCurlOutput_reply rejects (by decide) head_solid solid body (by decide)
    (by decide)
  rw [answerText, httpOk_eq, parsed, httpStatus_ok, ← foldl_answerPairs, split]
  rw [lines, split] at printable
  rw [split] at plain
  have fields := bodyFields_keyLines 200 plain fun pair inside =>
    printable _ (List.mem_map_of_mem inside)
  rw [answerBody, lines, split]
  exact congrArg some fields

/-! ### What the host does with an answer -/

section Host

variable {loads : Text → Loaded} (floats : Floats) (printer : Printer) (sandbox : ℕ)
  (started ended : ℤ) (stderr : Text)

theorem runWorkload_refused {stdout : Text} {agent : Fields} {error : RunError}
    (parsed : parseCurlOutput loads stdout = some agent)
    (refused : checkAgent floats printer (sandboxLabel sandbox) agent = .error error) :
    runWorkload loads floats printer sandbox started ended ⟨0, stdout, stderr⟩ = .error error := by
  rw [runWorkload, if_neg (not_not.mpr rfl), parsed]
  dsimp only
  rw [refused]

theorem lookup_detail (id : Text) (measured : Measured) (result : WorkloadResult) :
    Json.getOr (answerFields id measured result) "detail"
        (Json.getOr (answerFields id measured result) "raw_body" (.str [])) =
      .str (if result.detail = [] then answerBody id measured result else strip result.detail) := by
  unfold answerFields
  by_cases none : result.detail = []
  · rw [if_pos none, if_pos none]
    rfl
  · rw [if_neg none, if_neg none]
    rfl

theorem lookup_flag (id : Text) (measured : Measured) (result : WorkloadResult) :
    Json.get (answerFields id measured result) "ok" = .null := by
  unfold answerFields
  by_cases none : result.detail = []
  · rw [if_pos none]
    rfl
  · rw [if_neg none]
    rfl

/-- The answer of a workload which has succeeded is returned, and any other one raises. -/
theorem checkAgent_answer (label id : Text) (measured : Measured) (result : WorkloadResult) :
    checkAgent floats printer label (answerFields id measured result) =
      if result.ok then .ok (answerFields id measured result)
      else .error (.runtime (label ++ "workload error: ".toList ++
        if result.detail = [] then answerBody id measured result else strip result.detail)) := by
  have answered : Json.getOr (answerFields id measured result) "http_status" (.int 0) =
      .int 200 := rfl
  have reported : Json.get (answerFields id measured result) "status" =
      .str (if result.ok then "ok".toList else "error".toList) := rfl
  have body : strip (answerBody id measured result) = answerBody id measured result :=
    strip_strip _
  have detail : strip (if result.detail = [] then answerBody id measured result
      else strip result.detail) = if result.detail = [] then answerBody id measured result
        else strip result.detail := by
    split
    · exact body
    · exact strip_strip _
  have success : (200 : ℤ) ≤ 200 ∧ (200 : ℤ) < 300 := by omega
  have unflagged : holdsFalse .null = false := rfl
  rw [checkAgent, answered, lookup_flag, lookup_detail, reported, unflagged]
  cases ok : result.ok with
  | false =>
      have error : (Json.str (if false = true then "ok".toList else "error".toList)).asStr =
          some "error".toList := rfl
      dsimp only [Json.asInt]
      rw [if_neg (not_not.mpr success), if_neg Bool.false_ne_true, if_pos error, raiseStripped,
        detail]
      rfl
  | true =>
      have other : (Json.str (if true = true then "ok".toList else "error".toList)).asStr ≠
          some "error".toList := by decide
      dsimp only [Json.asInt]
      rw [if_neg (not_not.mpr success), if_neg Bool.false_ne_true, if_neg other]
      rfl

/-- What `run_workload` returns for a workload which has succeeded. -/
def hostResult (id : Text) (measured : Measured) (result : WorkloadResult) :
    Fields × Json × Json :=
  ([("sandbox".toList, .int sandbox),
      ("workload_ms".toList, floats.elapsed measured.elapsedNs.toInt),
      ("guest_process_ms".toList, floats.elapsed measured.elapsedNs.toInt),
      ("client_round_trip_ms".toList, floats.roundTrip started ended),
      ("status".toList, .str "ok".toList), ("workload".toList, .str id),
      ("minflt".toList, .str (str measured.minflt.toInt)),
      ("majflt".toList, .str (str measured.majflt.toInt))] ++
      if result.detail = [] then [] else [("detail".toList, .str (strip result.detail))],
    .int started, .int ended)

theorem addTimes_answer (id : Text) (measured : Measured) (result : WorkloadResult) :
    addTimes floats started ended (answerFields id measured result) =
      answerFields id measured result ++ [("request_start_ns".toList, .int started),
        ("request_end_ns".toList, .int ended),
        ("client_round_trip_ms".toList, floats.roundTrip started ended)] := by
  unfold addTimes answerFields
  by_cases none : result.detail = []
  · rw [if_pos none]
    rfl
  · rw [if_neg none]
    rfl

theorem simplifyResult_answer (id : Text) (measured : Measured) {result : WorkloadResult}
    (ok : result.ok = true) :
    simplifyResult loads floats printer sandbox
        (addTimes floats started ended (answerFields id measured result)) =
      some (hostResult floats sandbox started ended id measured result) := by
  have small : measured.elapsedNs.toInt.natAbs < 2 ^ 64 := by
    have := measured.elapsedNs.toInt_lt
    have := measured.elapsedNs.le_toInt
    omega
  have inner : innerFields loads (splitLines (printer.str (.str []))).reverse = some [] := by
    rw [printer.str_text]
    rfl
  have elapsed : elapsedMillis floats (.str (str measured.elapsedNs.toInt)) =
      some (floats.elapsed measured.elapsedNs.toInt) := by
    rw [elapsedMillis, floats.millis_str _ small]
    nofun
  have reported : (if result.ok then "ok".toList else "error".toList) = "ok".toList := if_pos ok
  rw [addTimes_answer, answerFields, reported, hostResult]
  by_cases none : result.detail = []
  · rw [if_pos none]
    exact Option.bind_eq_some_iff.mpr ⟨_, inner, Option.bind_eq_some_iff.mpr ⟨_, elapsed, rfl⟩⟩
  · rw [if_neg none]
    exact Option.bind_eq_some_iff.mpr ⟨_, inner, Option.bind_eq_some_iff.mpr ⟨_, elapsed, rfl⟩⟩

theorem runWorkload_answer {stdout id : Text} {measured : Measured} {result : WorkloadResult}
    (parsed : parseCurlOutput loads stdout = some (answerFields id measured result)) :
    runWorkload loads floats printer sandbox started ended ⟨0, stdout, stderr⟩ =
      if result.ok then .ok (hostResult floats sandbox started ended id measured result)
      else .error (.runtime (sandboxLabel sandbox ++ "workload error: ".toList ++
        if result.detail = [] then answerBody id measured result else strip result.detail)) := by
  have checked := checkAgent_answer floats printer (sandboxLabel sandbox) id measured result
  cases ok : result.ok with
  | false =>
      rw [ok, if_neg Bool.false_ne_true] at checked
      exact runWorkload_refused floats printer sandbox started ended stderr parsed checked
  | true =>
      rw [ok, if_pos rfl] at checked
      rw [runWorkload, if_neg (not_not.mpr rfl), parsed]
      dsimp only
      rw [checked]
      dsimp only
      rw [simplifyResult_answer floats printer sandbox started ended id measured ok]
      rfl

/-- An answer without a workload raises with its status. -/
theorem runWorkload_word (rejects : RejectsWords loads) {head : List Text} (some_line : head ≠ [])
    (head_solid : ∀ line ∈ head, Solid line) {c : Char} {rest : Text} {status : ℤ}
    (answered : httpStatus (join '\n' head) = status) (refused : ¬ (200 ≤ status ∧ status < 300))
    (letter : c.isAlpha = true) (word : c ∉ ['t', 'f', 'n', 'N', 'I'])
    (solid : Solid (c :: rest)) (kept : strip (unlines [c :: rest]) = c :: rest)
    (free : bodyFields status (c :: rest) =
      [("http_status".toList, .int status), ("raw_body".toList, .str (c :: rest))])
    (stripped : strip (c :: rest) = c :: rest) :
    runWorkload loads floats printer sandbox started ended
        ⟨0, universalNewlines (Http.headText head ++ unlines [c :: rest]), stderr⟩ =
      .error (.runtime (sandboxLabel sandbox ++ "HTTP ".toList ++ str status ++ ": ".toList ++
        (c :: rest))) := by
  have solid_line : ∀ line ∈ [c :: rest], line ≠ [] ∧ Solid line := by simpa using solid
  have parsed := parseCurlOutput_reply rejects some_line head_solid solid_line kept letter word
  rw [kept, answered, free] at parsed
  have own : Json.getOr [("http_status".toList, .int status), ("raw_body".toList, .str (c :: rest))]
      "http_status" (.int 0) = .int status := rfl
  have body : Json.getOr [("http_status".toList, .int status),
      ("raw_body".toList, .str (c :: rest))] "raw_body" (.str []) = .str (c :: rest) := rfl
  refine runWorkload_refused floats printer sandbox started ended stderr parsed ?_
  rw [checkAgent, own, body]
  dsimp only [Json.asInt]
  rw [if_pos refused, raiseStripped, stripped]

def badHead : List Text :=
  ["HTTP/1.1 400 Bad Request".toList, "Content-Type: text/plain".toList,
    "Connection: close".toList]

def unknownHead : List Text :=
  ["HTTP/1.1 404 Not Found".toList, "Content-Type: text/plain".toList,
    "Connection: close".toList]

theorem runWorkload_bad (rejects : RejectsWords loads) :
    runWorkload loads floats printer sandbox started ended ⟨0, universalNewlines httpBad, stderr⟩ =
      .error (.runtime (sandboxLabel sandbox ++ "HTTP ".toList ++ str 400 ++ ": ".toList ++
        "bad request".toList)) := by
  have text : httpBad = Http.headText badHead ++ unlines ["bad request".toList] := by decide
  have printable : ∀ line ∈ badHead, Printable line := by decide
  have solid : Solid "bad request".toList := solid_printable (by decide)
  rw [text]
  exact runWorkload_word floats printer sandbox started ended stderr rejects (by decide)
    (fun line inside => solid_printable (printable line inside)) (by decide) (by decide) (by decide)
    (by decide) solid (by decide) rfl (by decide)

theorem runWorkload_unknown (rejects : RejectsWords loads) :
    runWorkload loads floats printer sandbox started ended
      ⟨0, universalNewlines httpUnknown, stderr⟩ =
      .error (.runtime (sandboxLabel sandbox ++ "HTTP ".toList ++ str 404 ++ ": ".toList ++
        "unknown workload".toList)) := by
  have text : httpUnknown = Http.headText unknownHead ++ unlines ["unknown workload".toList] := by
    decide
  have printable : ∀ line ∈ unknownHead, Printable line := by decide
  have solid : Solid "unknown workload".toList := solid_printable (by decide)
  rw [text]
  exact runWorkload_word floats printer sandbox started ended stderr rejects (by decide)
    (fun line inside => solid_printable (printable line inside)) (by decide) (by decide) (by decide)
    (by decide) solid (by decide) rfl (by decide)

variable {State : Type} (world : World State) (files : List File)

/-- What the host should end with for the bytes of a request. -/
def hostOutcome (floats : Floats) (sandbox : ℕ) (started ended : ℤ) (state : State)
    (arrived : Bytes) : Except RunError (Fields × Json × Json) :=
  match (parseWorkloadId (arrived.take 4095) 256).map workloadFind with
  | none =>
      .error (.runtime (sandboxLabel sandbox ++ "HTTP ".toList ++ str 400 ++ ": ".toList ++
        "bad request".toList))
  | some none =>
      .error (.runtime (sandboxLabel sandbox ++ "HTTP ".toList ++ str 404 ++ ": ".toList ++
        "unknown workload".toList))
  | some (some workload) =>
      let done := (measure world files workload state).1
      if done.2.ok then .ok (hostResult floats sandbox started ended workload.id done.1 done.2)
      else .error (.runtime (sandboxLabel sandbox ++ "workload error: ".toList ++
        if done.2.detail = [] then answerBody workload.id done.1 done.2
        else strip done.2.detail))

/-- Whatever arrives at the daemon, the host reads its answer and ends as it should: with the values
which were measured for the workload of the request, if this has succeeded, or else with the
reason. -/
theorem run_of_request (rejects : RejectsWords loads) (state : State) (arrived beyond : Bytes)
    {sent : Bytes} (answered : (handleConnection world files state arrived beyond).1 = some sent) :
    ∃ stdout, readText sent = some stdout ∧
      runWorkload loads floats printer sandbox started ended ⟨0, stdout, stderr⟩ =
        hostOutcome world files floats sandbox started ended state arrived := by
  have read : ∀ text : Text, readText (utf8 text) = some (universalNewlines text) := fun text => by
    rw [readText, fromUtf8_utf8]
    rfl
  unfold handleConnection at answered
  unfold hostOutcome
  dsimp only at answered
  split at answered
  next => cases answered
  next =>
    cases parsed : parseWorkloadId (arrived.take 4095) 256 with
    | none =>
        rw [parsed] at answered
        obtain rfl := Option.some.inj answered
        exact ⟨_, read httpBad, runWorkload_bad floats printer sandbox started ended stderr rejects⟩
    | some id =>
        rw [parsed] at answered
        dsimp only at answered
        cases found : workloadFind id with
        | none =>
            rw [found] at answered
            obtain rfl := Option.some.inj answered
            refine ⟨_, read httpUnknown, ?_⟩
            rw [Option.map_some, found]
            exact runWorkload_unknown floats printer sandbox started ended stderr rejects
        | some workload =>
            rw [found] at answered
            dsimp only at answered
            rw [sendFormatted_response found] at answered
            obtain rfl := Option.some.inj answered
            refine ⟨_, read _, ?_⟩
            rw [Option.map_some, found]
            have agent := parseCurlOutput_answer rejects workload
              (measure world files workload state).1.1 (measure world files workload state).1.2
            exact runWorkload_answer floats printer sandbox started ended stderr agent

end Host

/-- The text of a text, and nothing of another value. -/
def samplePrinter : Printer where
  str
    | .str text => text
    | _ => []
  str_text _ := rfl

/-- Floats as literals with an exponent. -/
def sampleFloats : Floats where
  is literal n := int literal = some n
  millis
    | .str text =>
        match int text with
        | some n => .value (.float (str n ++ "e-6".toList))
        | none => .refused
    | _ => .refused
  elapsed n := .float (str n ++ "e-6".toList)
  millis_str n small := by
    have large : 2 ^ 64 < 10 ^ maxStrDigits :=
      lt_of_lt_of_le (by decide : 2 ^ 64 < 10 ^ 20) (Nat.pow_le_pow_right (by decide) (by decide))
    simp only [int_str (small.trans large)]
  roundTrip started ended := .float (str (ended - started) ++ "e-6".toList)

theorem run_of_request_sample : ∃ sent stdout,
    (handleConnection sampleWorld [] 0 (utf8 "GET /health-daemon HTTP/1.1".toList) []).1 =
        some sent ∧
      readText sent = some stdout ∧
      runWorkload (fun _ => .invalid) sampleFloats samplePrinter 7 1000 5000 ⟨0, stdout, []⟩ =
        hostOutcome sampleWorld [] sampleFloats 7 1000 5000 0
          (utf8 "GET /health-daemon HTTP/1.1".toList) := by
  have handled : (handleConnection sampleWorld [] 0
      (utf8 "GET /health-daemon HTTP/1.1".toList) []).1.isSome = true := by decide
  obtain ⟨sent, answered⟩ := Option.isSome_iff_exists.mp handled
  have rejects : RejectsWords fun _ => .invalid := fun _ _ _ _ => rfl
  obtain ⟨stdout, read, ran⟩ := run_of_request sampleFloats samplePrinter 7 1000 5000 [] sampleWorld
    [] rejects 0 (utf8 "GET /health-daemon HTTP/1.1".toList) [] answered
  exact ⟨sent, stdout, answered, read, ran⟩

end Guest
end HermOS
