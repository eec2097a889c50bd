import HermOS.Guest.Workloads

/-!
# The daemon of the guest

`motivation-daemon.c` reads a request, runs the workload which the path names, and sends what it has
measured.  The answer is formatted into 512 bytes of the stack, and as many bytes are sent as the
format has, whether or not they are in the buffer.
-/

namespace HermOS
namespace Guest

open Codec Python

/-! ### Requests -/

/-- `parse_workload_id`: the bytes which it copies to the buffer. -/
def parseWorkloadId (req : Bytes) (idBufSize : ℕ) : Option Bytes :=
  if req.length < 16 then none
  else if req.take 5 ≠ utf8 "GET /".toList then none
  else
    let path := req.drop 5
    let id := path.takeWhile (· ≠ 32)
    -- `memchr` has found no blank
    if id.length = path.length then none
    else if id = [] ∨ idBufSize ≤ id.length then none
    else some id

/-! ### Answers -/

def httpOk : Text :=
  "HTTP/1.1 200 OK\r\nContent-Type: text/plain\r\nConnection: close\r\n\r\n".toList

def httpBad : Text :=
  "HTTP/1.1 400 Bad Request\r\nContent-Type: text/plain\r\nConnection: close\r\n\r\n".toList ++
    "bad request\n".toList

def httpUnknown : Text :=
  "HTTP/1.1 404 Not Found\r\nContent-Type: text/plain\r\nConnection: close\r\n\r\n".toList ++
    "unknown workload\n".toList

/-- What is measured around a workload. -/
structure Measured where
  elapsedNs : BitVec 64
  minflt : BitVec 64
  majflt : BitVec 64

/-- The lines after `workload=`. -/
def measuredText (measured : Measured) (result : WorkloadResult) : Text :=
  "\nelapsed_ns=".toList ++ str measured.elapsedNs.toInt ++
    "\nminflt=".toList ++ str measured.minflt.toInt ++
    "\nmajflt=".toList ++ str measured.majflt.toInt ++
    "\nstatus=".toList ++ (if result.ok then "ok".toList else "error".toList) ++ ['\n'] ++
    if result.detail = [] then [] else "detail=".toList ++ result.detail ++ ['\n']

/-- The format of the answer, with `%s` for the buffer of the identifier. -/
def response (id : Bytes) (measured : Measured) (result : WorkloadResult) : Bytes :=
  utf8 httpOk ++ utf8 "workload=".toList ++ cstr id ++ utf8 (measuredText measured result)

/-- `send(fd, resp, snprintf(resp, size, …), …)`, where `beyond` is what the memory holds after the
end of the string in the buffer. -/
def sendFormatted (size : ℕ) (text beyond : Bytes) : Bytes :=
  (text.take (size - 1) ++ 0 :: beyond).take text.length

section Connection

variable {State : Type} (world : World State) (files : List File)

/-- Run a workload between two looks at the faults and the clock. -/
def measure (workload : Workload) (state : State) : (Measured × WorkloadResult) × State :=
  let faultsBefore := world.selfFaults state
  let start := world.nowNs faultsBefore.2
  let ran := workload.run world files start.2
  let stop := world.nowNs ran.2
  let faultsAfter := world.selfFaults stop.2
  ((⟨stop.1 - start.1, faultsAfter.1.1 - faultsBefore.1.1, faultsAfter.1.2 - faultsBefore.1.2⟩,
    ran.1), faultsAfter.2)

/-- `handle_connection`: the bytes which it sends, if it sends any. -/
def handleConnection (state : State) (arrived beyond : Bytes) : Option Bytes × State :=
  let req := arrived.take 4095
  if req = [] then (none, state)
  else
    match parseWorkloadId req 256 with
    | none => (some (utf8 httpBad), state)
    | some id =>
        match workloadFind id with
        | none => (some (utf8 httpUnknown), state)
        | some workload =>
            let done := measure world files workload state
            (some (sendFormatted 512 (response id done.1.1 done.1.2) beyond), done.2)

end Connection

/-! ### The size of an answer -/

theorem ascii_of_printable {text : Text} (printable : Printable text) : Ascii text := by
  intro c inside
  have bounds := printable c inside
  omega

theorem length_utf8 {text : Text} (ascii_text : Ascii text) : (utf8 text).length = text.length := by
  rw [utf8_ascii ascii_text, ascii, List.length_map]

theorem length_decimal_le {n count : ℕ} (positive : 0 < count) (small : n < 10 ^ count) :
    (decimal n).length ≤ count :=
  (Nat.length_toDigits_le_iff (by decide) positive).mpr small

/-- The longest number is `-9223372036854775808`. -/
theorem length_str_le (value : BitVec 64) : (str value.toInt).length ≤ 20 := by
  have low := BitVec.le_toInt value
  have high := value.toInt_lt
  cases number : value.toInt with
  | ofNat n =>
      rw [Int.ofNat_eq_natCast] at number ⊢
      have short : (decimal n).length ≤ 19 := length_decimal_le (by decide) (by omega)
      rw [str_natCast]
      omega
  | negSucc n =>
      have short : (decimal (n + 1)).length ≤ 19 := length_decimal_le (by decide) (by omega)
      rw [str_negSucc, List.length_cons]
      omega

theorem printable_status (ok : Bool) :
    Printable (if ok then "ok".toList else "error".toList) := by
  cases ok <;> decide

def answerLines (id : Text) (measured : Measured) (result : WorkloadResult) : List Text :=
  ["workload=".toList ++ id, "elapsed_ns=".toList ++ str measured.elapsedNs.toInt,
    "minflt=".toList ++ str measured.minflt.toInt, "majflt=".toList ++ str measured.majflt.toInt,
    "status=".toList ++ if result.ok then "ok".toList else "error".toList] ++
    if result.detail = [] then [] else ["detail=".toList ++ result.detail]

/-- Lines with their ends. -/
def unlines (lines : List Text) : Text :=
  lines.flatMap (· ++ ['\n'])

def answerText (id : Text) (measured : Measured) (result : WorkloadResult) : Text :=
  httpOk ++ unlines (answerLines id measured result)

theorem response_eq {buffer : Bytes} {id : Text} (named : utf8 id = cstr buffer)
    (measured : Measured) (result : WorkloadResult) :
    response buffer measured result = utf8 (answerText id measured result) := by
  have elapsed : "\nelapsed_ns=".toList = '\n' :: "elapsed_ns=".toList := rfl
  have minor : "\nminflt=".toList = '\n' :: "minflt=".toList := rfl
  have major : "\nmajflt=".toList = '\n' :: "majflt=".toList := rfl
  have status : "\nstatus=".toList = '\n' :: "status=".toList := rfl
  have body : "workload=".toList ++ id ++ measuredText measured result =
      unlines (answerLines id measured result) := by
    unfold measuredText answerLines unlines
    rw [elapsed, minor, major, status]
    by_cases none : result.detail = []
    · rw [if_pos none, if_pos none]
      simp only [List.append_assoc, List.cons_append, List.nil_append, List.append_nil,
        List.flatMap_cons, List.flatMap_nil]
    · rw [if_neg none, if_neg none]
      simp only [List.append_assoc, List.cons_append, List.nil_append, List.append_nil,
        List.flatMap_cons, List.flatMap_nil]
  rw [response, ← named, answerText, ← body]
  simp only [utf8_append, List.append_assoc]

theorem printable_answerLines {id : Text} (printable : Printable id) (measured : Measured)
    (result : WorkloadResult) : ∀ line ∈ answerLines id measured result, Printable line := by
  have keys : Printable "workload=".toList ∧ Printable "elapsed_ns=".toList ∧
      Printable "minflt=".toList ∧ Printable "majflt=".toList ∧ Printable "status=".toList ∧
        Printable "detail=".toList := by decide
  obtain ⟨workload, elapsed, minor, major, status, detail⟩ := keys
  intro line inside
  rcases List.mem_append.mp inside with early | late
  · simp only [List.mem_cons, List.not_mem_nil, or_false] at early
    rcases early with rfl | rfl | rfl | rfl | rfl
    · exact printable_append workload printable
    · exact printable_append elapsed (printable_str _)
    · exact printable_append minor (printable_str _)
    · exact printable_append major (printable_str _)
    · exact printable_append status (printable_status _)
  · split at late
    · exact absurd late List.not_mem_nil
    · rw [List.mem_singleton.mp late]
      exact printable_append detail result.printable

theorem ascii_unlines {lines : List Text} (each : ∀ line ∈ lines, Printable line) :
    Ascii (unlines lines) := by
  intro c inside
  obtain ⟨line, member, inside⟩ := List.mem_flatMap.mp inside
  have line_end : Ascii ['\n'] := by decide
  exact ascii_append (ascii_of_printable (each line member)) line_end c inside

theorem workload_id (workload : Workload) :
    Printable workload.id ∧ workload.id.length ≤ 22 := by
  cases workload <;> decide

theorem ascii_answerText (workload : Workload) (measured : Measured) (result : WorkloadResult) :
    Ascii (answerText workload.id measured result) := by
  have head : Ascii httpOk := by decide
  exact ascii_append head (ascii_unlines (printable_answerLines (workload_id workload).1 _ _))

theorem length_answerText (workload : Workload) (measured : Measured) (result : WorkloadResult) :
    (answerText workload.id measured result).length ≤ 460 := by
  have head : httpOk.length = 64 := by decide
  have keys : "workload=".toList.length = 9 ∧ "elapsed_ns=".toList.length = 11 ∧
      "minflt=".toList.length = 7 ∧ "majflt=".toList.length = 7 ∧
        "status=".toList.length = 7 ∧ "detail=".toList.length = 7 := by decide
  obtain ⟨_, _, _, _, _, _⟩ := keys
  have name := (workload_id workload).2
  have elapsed := length_str_le measured.elapsedNs
  have minor := length_str_le measured.minflt
  have major := length_str_le measured.majflt
  have short := result.short
  have status : (if result.ok then "ok".toList else "error".toList).length ≤ 5 := by
    cases result.ok <;> decide
  unfold answerText answerLines unlines
  generalize (if result.ok then "ok".toList else "error".toList) = word at status ⊢
  split <;>
    simp only [List.length_append, List.flatMap_append, List.flatMap_cons, List.flatMap_nil,
      List.length_cons, List.length_nil] <;>
    omega

theorem sendFormatted_eq {size : ℕ} {text : Bytes} (short : text.length < size)
    (beyond : Bytes) : sendFormatted size text beyond = text := by
  have whole : text.take (size - 1) = text := List.take_of_length_le (by omega)
  rw [sendFormatted, whole, List.take_left]

/-- A workload which is found has the identifier up to the first zero byte. -/
theorem workloadFind_eq_some {buffer : Bytes} {workload : Workload}
    (found : workloadFind buffer = some workload) : utf8 workload.id = cstr buffer := by
  have named := List.find?_some found
  exact of_decide_eq_true named

section Connection

variable {State : Type} (world : World State) (files : List File)

/-- What is sent for a workload is its whole answer. -/
theorem sendFormatted_response {buffer : Bytes} {workload : Workload}
    (found : workloadFind buffer = some workload) (measured : Measured) (result : WorkloadResult)
    (beyond : Bytes) : sendFormatted 512 (response buffer measured result) beyond =
      utf8 (answerText workload.id measured result) := by
  have text := response_eq (workloadFind_eq_some found) measured result
  have length := length_utf8 (ascii_answerText workload measured result)
  have bound := length_answerText workload measured result
  rw [text, sendFormatted_eq (by omega)]

/-- Nothing of the stack beyond an answer is sent, and an answer is shorter than its buffer. -/
theorem handleConnection_contained (state : State) (arrived beyond other : Bytes) :
    handleConnection world files state arrived beyond =
        handleConnection world files state arrived other ∧
      ∀ sent ∈ (handleConnection world files state arrived beyond).1, sent.length < 512 := by
  have bad : (utf8 httpBad).length < 512 := by decide
  have unknown : (utf8 httpUnknown).length < 512 := by decide
  unfold handleConnection
  dsimp only
  split
  next => exact ⟨rfl, by simp⟩
  next =>
    split
    next => exact ⟨rfl, by simpa using bad⟩
    next id _ =>
      split
      next => exact ⟨rfl, by simpa using unknown⟩
      next workload found =>
        rw [sendFormatted_response found, sendFormatted_response found]
        refine ⟨rfl, ?_⟩
        have length := length_utf8 (ascii_answerText workload
          (measure world files workload state).1.1 (measure world files workload state).1.2)
        have bound := length_answerText workload
          (measure world files workload state).1.1 (measure world files workload state).1.2
        intro sent inside
        obtain rfl := Option.mem_some_iff.mp inside
        omega

end Connection

end Guest
end HermOS
