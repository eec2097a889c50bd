import HermOS.Library.PythonText
import HermOS.Library.TextCodec
import Mathlib.Data.UInt
import Mathlib.Logic.Function.Iterate

/-!
# The workloads of the guest

`workloads.c` runs programs and reads a file for the daemon of the guest, and reports how they went
in a buffer of 256 bytes.  The scan with `rg` chooses its files and patterns with a congruential
generator.
-/

namespace HermOS
namespace Guest

open Codec Python

abbrev Bytes :=
  List UInt8

/-- The string at the start of a buffer. -/
def cstr (buffer : Bytes) : Bytes :=
  buffer.takeWhile (· ≠ 0)

theorem cstr_append {front back : Bytes} (free : 0 ∉ front)
    (ended : back = [] ∨ back.head? = some 0) : cstr (front ++ back) = front := by
  have solid : ∀ byte ∈ front, decide (byte ≠ 0) = true := by
    intro byte inside
    have other : byte ≠ 0 := fun same => free (same ▸ inside)
    simpa using other
  rw [cstr, List.takeWhile_append_of_pos solid]
  rcases ended with rfl | zero
  · simp
  · obtain ⟨rest, rfl⟩ := List.head?_eq_some_iff.mp zero
    simp

/-- Text whose characters are printed as they are. -/
def Printable (text : Text) : Prop :=
  ∀ c ∈ text, 32 ≤ c.toNat ∧ c.toNat < 127

instance (text : Text) : Decidable (Printable text) :=
  List.decidableBAll (fun c : Char => 32 ≤ c.toNat ∧ c.toNat < 127) text

structure WorkloadResult where
  ok : Bool
  detail : Text
  short : detail.length < 256
  printable : Printable detail

/-- `snprintf` into `detail`. -/
def WorkloadResult.report (ok : Bool) (text : Text) (printable : Printable text) :
    WorkloadResult where
  ok := ok
  detail := text.take 255
  short := Nat.lt_succ_of_le (List.length_take_le 255 text)
  printable c inside := printable c (List.mem_of_mem_take inside)

def WorkloadResult.plain (ok : Bool) : WorkloadResult :=
  ⟨ok, [], by decide, by decide⟩

/-! ### The system of the guest -/

/-- What the system does for the daemon. -/
structure World (State : Type) where
  /-- `run_execv`: the exit status of a program, or -1. -/
  exec : State → List Bytes → ℤ × State
  /-- The seed which `/dev/urandom` gives, or what stands for it. -/
  seed : State → UInt32 × State
  /-- The sizes of the reads of `read-list.bin` and whether the last read failed, or the message of
  the failure to open it. -/
  readList : State → Except Text (List ℕ × Bool) × State
  strerror_printable : ∀ state message, (readList state).1 = .error message → Printable message
  /-- `CLOCK_MONOTONIC`. -/
  nowNs : State → BitVec 64 × State
  /-- The fields `minflt` and `majflt` of `/proc/self/stat`. -/
  selfFaults : State → (BitVec 64 × BitVec 64) × State

/-! ### Texts -/

theorem printable_append {front back : Text} (front_printable : Printable front)
    (back_printable : Printable back) : Printable (front ++ back) := by
  intro c inside
  rcases List.mem_append.mp inside with early | late
  · exact front_printable c early
  · exact back_printable c late

theorem printable_decimal (n : ℕ) : Printable (decimal n) := by
  intro c inside
  have digit := Char.isDigit_iff_toNat.mp (isDigit_decimal c inside)
  have low : '0'.toNat = 48 := rfl
  have high : '9'.toNat = 57 := rfl
  omega

theorem printable_str (n : ℤ) : Printable (str n) := by
  cases n with
  | ofNat n => exact str_natCast n ▸ printable_decimal n
  | negSucc n =>
      have sign : Printable ['-'] := by decide
      rw [str_negSucc]
      exact printable_append sign (printable_decimal (n + 1))

/-! ### The list of files -/

/-- A path which `workloads_init` has stored. -/
structure File where
  path : Bytes
  nonempty : path ≠ []
  short : path.length < 4096
  free : 0 ∉ path

/-- `fgets`: the bytes which it stores, and the rest of the file. -/
def fgets (size : ℕ) (content : Bytes) : Bytes × Bytes :=
  let window := content.take (size - 1)
  let line := window.takeWhile (· ≠ 10) ++ (window.dropWhile (· ≠ 10)).take 1
  (line, content.drop line.length)

/-- The line without its end. -/
def chomp (line : Bytes) : Bytes :=
  if line.getLast? = some 10 then line.dropLast else line

theorem length_fgets (size : ℕ) (content : Bytes) : (fgets size content).1.length ≤ size - 1 := by
  have parts := List.takeWhile_append_dropWhile (p := (· ≠ 10)) (l := content.take (size - 1))
  have lengths := congrArg List.length parts
  rw [List.length_append] at lengths
  have window := List.length_take_le (size - 1) content
  simp only [fgets, List.length_append, List.length_take]
  omega

theorem length_fgets_rest {size : ℕ} {content : Bytes} (room : 2 ≤ size)
    (some_byte : content ≠ []) : (fgets size content).2.length < content.length := by
  obtain ⟨byte, rest, rfl⟩ := List.exists_cons_of_ne_nil some_byte
  obtain ⟨count, rfl⟩ := Nat.exists_eq_add_of_le' room
  have positive : 0 < (fgets (count + 2) (byte :: rest)).1.length := by
    by_cases newline : byte = 10 <;> simp [fgets, newline]
  have length : (fgets (count + 2) (byte :: rest)).2.length =
      (byte :: rest).length - (fgets (count + 2) (byte :: rest)).1.length := List.length_drop
  rw [length, List.length_cons]
  omega

theorem prefix_chomp (line : Bytes) : chomp line <+: line := by
  unfold chomp
  split
  · exact List.dropLast_prefix line
  · exact List.prefix_rfl

/-- The path on a line, if there is one. -/
def File.ofLine (line : Bytes) (short : line.length < 4096) : Option File :=
  let path := chomp (cstr line)
  if nonempty : path ≠ [] then
    some {
      path := path
      nonempty := nonempty
      short :=
        ((prefix_chomp _).length_le.trans (List.takeWhile_prefix _).length_le).trans_lt short
      free := fun inside => by
        have byte := List.mem_takeWhile_imp ((prefix_chomp _).subset inside)
        simp at byte }
  else none

/-- The loop of `workloads_init`. -/
def initFiles (content : Bytes) : List File :=
  if some_byte : content ≠ [] then
    have short : (fgets 4096 content).1.length < 4096 :=
      Nat.lt_succ_of_le (length_fgets 4096 content)
    have shorter := length_fgets_rest (by decide : 2 ≤ 4096) some_byte
    (File.ofLine (fgets 4096 content).1 short).toList ++ initFiles (fgets 4096 content).2
  else []
termination_by content.length

/-- `workloads_init`, whose file may not be there. -/
def workloadsInit (content : Option Bytes) : List File :=
  (content.map initFiles).getD []

/-! ### The scan -/

def lcgNext (state : UInt32) : UInt32 :=
  state * 1664525 + 1013904223

def rgPatterns : List Text :=
  ["import".toList, "def".toList, "class".toList, "return".toList, "self".toList, "None".toList,
    "True".toList, "raise".toList, "yield".toList, "lambda".toList]

/-- The pattern of a number of the generator. -/
def rgPattern (state : UInt32) : Text :=
  rgPatterns.getD (state.toNat % 10) []

/-- The file of a number of the generator. -/
def filePath (files : List File) (rng : UInt32) : Bytes :=
  (files[rng.toNat % files.length]?.map File.path).getD []

/-- The command line of a scan, in its buffer of 8192 bytes. -/
def rgCommand (pattern : Text) (path : Bytes) : Bytes :=
  (utf8 "rg -l '".toList ++ utf8 pattern ++ utf8 "' '".toList ++ path ++
    utf8 "' > /dev/null 2>&1".toList).take 8191

/-- The arguments of `run_shell`. -/
def shell (command : Bytes) : List Bytes :=
  [utf8 "/bin/sh".toList, utf8 "-c".toList, command]

section Scan

variable {State : Type} (world : World State)

/-- The local variables of `rg_scan`. -/
structure Scan (State : Type) where
  rng : UInt32
  errors : ℕ
  world : State

/-- The inner loop of `rg_scan`. -/
def scanPattern (path : Bytes) (scan : Scan State) : Scan State :=
  let rng := lcgNext scan.rng
  let done := world.exec scan.world (shell (rgCommand (rgPattern rng) path))
  ⟨rng, if done.1 ≠ 0 ∧ done.1 ≠ 1 then scan.errors + 1 else scan.errors, done.2⟩

/-- The outer loop of `rg_scan`. -/
def scanFile (files : List File) (scan : Scan State) : Scan State :=
  let rng := lcgNext scan.rng
  (scanPattern world (filePath files rng))^[3] { scan with rng := rng }

theorem printable_errors (count : ℕ) : Printable ("errors=".toList ++ str count) := by
  have label : Printable "errors=".toList := by decide
  exact printable_append label (printable_str count)

/-- Both loops of `rg_scan`. -/
def scanAll (files : List File) (seed : UInt32) (state : State) : Scan State :=
  (scanFile world files)^[5] ⟨seed, 0, state⟩

def scanReport (errors : ℕ) : WorkloadResult :=
  if errors = 0 then .plain true else .report false _ (printable_errors errors)

def rgScan (files : List File) (seed : UInt32) (state : State) : WorkloadResult × State :=
  if files.isEmpty then
    (.report false "filelist empty, run setup.sh".toList (by decide), state)
  else
    let scan := scanAll world files seed state
    (scanReport scan.errors, scan.world)

end Scan

/-! ### The registry -/

inductive Workload
  | healthDaemon
  | healthExec
  | pythonJsonTool
  | cliPipeline
  | randomRgScanFixed
  | randomRgScanRandom
  | readList
  | agentToolReplay
  deriving DecidableEq

/-- `workload_t.id`. -/
def Workload.id : Workload → Text
  | .healthDaemon => "health-daemon".toList
  | .healthExec => "health-exec".toList
  | .pythonJsonTool => "python-json-tool".toList
  | .cliPipeline => "cli-pipeline".toList
  | .randomRgScanFixed => "random-rg-scan-fixed".toList
  | .randomRgScanRandom => "random-rg-scan-random".toList
  | .readList => "read-list".toList
  | .agentToolReplay => "agent-tool-replay".toList

def workloads : List Workload :=
  [.healthDaemon, .healthExec, .pythonJsonTool, .cliPipeline, .randomRgScanFixed,
    .randomRgScanRandom, .readList, .agentToolReplay]

/-- `workload_find`, which compares with `strcmp`. -/
def workloadFind (id : Bytes) : Option Workload :=
  workloads.find? fun workload => utf8 workload.id = cstr id

theorem printable_exit (code : ℤ) : Printable ("exit=".toList ++ str code) := by
  have label : Printable "exit=".toList := by decide
  exact printable_append label (printable_str code)

theorem printable_bytes (count : ℤ) : Printable ("bytes=".toList ++ str count) := by
  have label : Printable "bytes=".toList := by decide
  exact printable_append label (printable_str count)

theorem printable_openFailed {message : Text} (printable : Printable message) :
    Printable ("open failed: ".toList ++ message) := by
  have label : Printable "open failed: ".toList := by decide
  exact printable_append label printable

def exitReport (code : ℤ) : WorkloadResult :=
  if code = 0 then .plain true else .report false _ (printable_exit code)

def python3 : Bytes :=
  utf8 "/usr/bin/python3".toList

section Run

variable {State : Type} (world : World State)

def wlReadList (state : State) : WorkloadResult × State :=
  match opened : (world.readList state).1 with
  | .error message =>
      (.report false _ (printable_openFailed (world.strerror_printable state message opened)),
        (world.readList state).2)
  | .ok (sizes, failed) =>
      (.report (!failed) _ (printable_bytes (BitVec.ofNat 64 sizes.sum).toInt),
        (world.readList state).2)

/-- Run a program and report its exit status. -/
def execReport (argv : List Bytes) (state : State) : WorkloadResult × State :=
  let done := world.exec state argv
  (exitReport done.1, done.2)

/-- The functions of the workloads. -/
def Workload.run (files : List File) (state : State) : Workload → WorkloadResult × State
  | .healthDaemon => (.plain true, state)
  | .healthExec =>
      let done := world.exec state [utf8 "/bin/true".toList]
      (.plain (done.1 = 0), done.2)
  | .pythonJsonTool =>
      execReport world [python3, utf8 "/opt/bench/json_tool.py".toList,
        utf8 "/opt/bench/data/data.json".toList] state
  | .cliPipeline =>
      execReport world (shell (utf8 ("find /opt/bench/data/astropy -name '*.py' -type f".toList ++
        " | xargs rg -l 'import'".toList ++ " | sort".toList ++ " | head -20".toList ++
        " > /dev/null".toList))) state
  | .randomRgScanFixed => rgScan world files 0 state
  | .randomRgScanRandom =>
      let seed := world.seed state
      rgScan world files seed.1 seed.2
  | .readList => wlReadList world state
  | .agentToolReplay =>
      execReport world [python3, utf8 "/opt/bench/agent_replay.py".toList,
        utf8 "/opt/bench/data/replay.json".toList, utf8 "/opt/bench/data/astropy".toList] state

end Run

end Guest
end HermOS
