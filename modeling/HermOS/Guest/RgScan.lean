import HermOS.Guest.Workloads
import Mathlib.Data.List.Chain

/-!
# The scan with `rg`

The daemon reads back a list of files with one path on each line.  A scan runs a plan which its seed
determines.  The lowest bit of the generator alternates, and the number of patterns is even, so
neighbouring patterns of a file always differ.
-/

namespace HermOS
namespace Guest

open Codec Python

/-! ### The list of files -/

theorem takeWhile_line {path : Bytes} (free : 10 ∉ path) (rest : Bytes) :
    (path ++ 10 :: rest).takeWhile (· ≠ 10) = path ∧
      (path ++ 10 :: rest).dropWhile (· ≠ 10) = 10 :: rest := by
  have solid : ∀ byte ∈ path, decide (byte ≠ 10) = true := by
    intro byte inside
    have other : byte ≠ 10 := fun same => free (same ▸ inside)
    simpa using other
  rw [List.takeWhile_append_of_pos solid, List.dropWhile_append_of_pos solid]
  simp

/-- A line which fits in the buffer is read with its end. -/
theorem fgets_line {size : ℕ} {path : Bytes} (free : 10 ∉ path) (fits : path.length + 2 ≤ size)
    (rest : Bytes) : fgets size (path ++ 10 :: rest) = (path ++ [10], rest) := by
  have window : (path ++ 10 :: rest).take (size - 1) =
      path ++ 10 :: rest.take (size - 2 - path.length) := by
    have count : size - 1 = path.length + (size - 2 - path.length + 1) := by omega
    rw [count, List.take_length_add_append, List.take_succ_cons]
  obtain ⟨front, back⟩ := takeWhile_line free (rest.take (size - 2 - path.length))
  unfold fgets
  dsimp only
  rw [window, front, back]
  simp

/-- A line as long as the buffer is read without its end. -/
theorem fgets_full {size : ℕ} {path : Bytes} (free : 10 ∉ path) (full : path.length = size - 1)
    (rest : Bytes) : fgets size (path ++ rest) = (path, rest) := by
  have window : (path ++ rest).take (size - 1) = path := List.take_left' full
  have solid : ∀ byte ∈ path, decide (byte ≠ 10) = true := by
    intro byte inside
    have other : byte ≠ 10 := fun same => free (same ▸ inside)
    simpa using other
  have front : path.takeWhile (· ≠ 10) = path := List.takeWhile_eq_self_iff.mpr solid
  have back : path.dropWhile (· ≠ 10) = [] := List.dropWhile_eq_nil_iff.mpr solid
  unfold fgets
  dsimp only
  rw [window, front, back]
  simp

theorem initFiles_cons {content line rest : Bytes} (some_byte : content ≠ [])
    (read : fgets 4096 content = (line, rest)) (short : line.length < 4096) :
    initFiles content = (File.ofLine line short).toList ++ initFiles rest := by
  rw [initFiles, dif_pos some_byte]
  simp only [read]

/-- The path of a file is read back from its line, with or without the end of the line. -/
theorem ofLine_path (file : File) (free : 10 ∉ file.path) {line : Bytes}
    (short : line.length < 4096) (ended : line = file.path ∨ line = file.path ++ [10]) :
    File.ofLine line short = some file := by
  have path : chomp (cstr line) = file.path := by
    rcases ended with rfl | rfl
    · have text : cstr file.path = file.path := by
        simpa using cstr_append file.free (.inl rfl : ([] : Bytes) = [] ∨ _)
      have unended : file.path.getLast? ≠ some 10 :=
        fun last => free (List.mem_of_getLast? last)
      rw [text, chomp, if_neg unended]
    · have solid : 0 ∉ file.path ++ [10] := by
        simp [file.free]
      have text : cstr (file.path ++ [10]) = file.path ++ [10] := by
        simpa using cstr_append solid (.inl rfl : ([] : Bytes) = [] ∨ _)
      have ended : (file.path ++ [10]).getLast? = some 10 := List.getLast?_concat
      rw [text, chomp, if_pos ended, List.dropLast_concat]
  have nonempty : chomp (cstr line) ≠ [] := path ▸ file.nonempty
  unfold File.ofLine
  dsimp only
  rw [dif_pos nonempty]
  simp only [path]

/-- A line without a path is passed over. -/
theorem initFiles_blank (rest : Bytes) : initFiles (10 :: rest) = initFiles rest := by
  have read : fgets 4096 ([] ++ 10 :: rest) = ([] ++ [10], rest) :=
    fgets_line List.not_mem_nil (by decide) rest
  have blank : File.ofLine [10] (by decide) = none := rfl
  rw [initFiles_cons (List.cons_ne_nil _ _) read (by decide)]
  exact congrArg (fun file : Option File => file.toList ++ initFiles rest) blank

theorem initFiles_lines (files : List File) (free : ∀ file ∈ files, 10 ∉ file.path) :
    initFiles (files.flatMap fun file => file.path ++ [10]) = files := by
  induction files with
  | nil => rw [List.flatMap_nil, initFiles, dif_neg (not_not.mpr rfl)]
  | cons file files ih =>
      have own := free file List.mem_cons_self
      have later := ih fun file inside => free file (List.mem_cons_of_mem _ inside)
      have some_byte (rest : Bytes) : file.path ++ rest ≠ [] :=
        List.append_ne_nil_of_left_ne_nil file.nonempty rest
      rw [List.flatMap_cons, List.append_assoc, List.singleton_append]
      generalize files.flatMap (fun file => file.path ++ [10]) = rest at later ⊢
      by_cases fits : file.path.length + 2 ≤ 4096
      · have short : (file.path ++ [10]).length < 4096 := by
          rw [List.length_append, List.length_singleton]
          omega
        rw [initFiles_cons (some_byte _) (fgets_line own fits rest) short,
          ofLine_path file own short (.inr rfl), later]
        rfl
      · have full : file.path.length = 4096 - 1 := by
          have short := file.short
          omega
        rw [initFiles_cons (some_byte _) (fgets_full own full (10 :: rest)) file.short,
          ofLine_path file own file.short (.inl rfl), initFiles_blank, later]
        rfl

/-- The files of a list with one path on each line are read back.  A path which fills the buffer is
read without the end of its line, which is then read as a line of its own. -/
theorem workloadsInit_lines (files : List File) (free : ∀ file ∈ files, 10 ∉ file.path) :
    workloadsInit (some (files.flatMap fun file => file.path ++ [10])) = files := by
  rw [workloadsInit, Option.map_some, Option.getD_some, initFiles_lines files free]

def sampleFile : File :=
  ⟨[97], by decide, by decide, by decide⟩

theorem workloadsInit_lines_sample :
    workloadsInit (some [97, 10, 97, 10]) = [sampleFile, sampleFile] :=
  workloadsInit_lines [sampleFile, sampleFile] (by simp [sampleFile])

/-! ### The plan of a scan -/

section Scan

variable {State : Type} (world : World State)

/-- The lowest bit of the generator alternates. -/
theorem lcgNext_mod_two (state : UInt32) :
    (lcgNext state).toNat % 2 = (state.toNat + 1) % 2 := by
  rw [lcgNext, UInt32.toNat_add, UInt32.toNat_mul]
  simp only [UInt32.toNat_ofNat]
  omega

/-- Run commands in order. -/
def execAll (state : State) : List (List Bytes) → List ℤ × State
  | [] => ([], state)
  | argv :: rest =>
      let done := world.exec state argv
      let later := execAll done.2 rest
      (done.1 :: later.1, later.2)

theorem execAll_append (state : State) (front back : List (List Bytes)) :
    execAll world state (front ++ back) =
      ((execAll world state front).1 ++ (execAll world (execAll world state front).2 back).1,
        (execAll world (execAll world state front).2 back).2) := by
  induction front generalizing state with
  | nil => rfl
  | cons argv front ih => simp [execAll, ih]

/-- The patterns which the generator gives next. -/
def patternsFrom : ℕ → UInt32 → List Text
  | 0, _ => []
  | count + 1, rng => rgPattern (lcgNext rng) :: patternsFrom count (lcgNext rng)

/-- The files which the generator gives next, each with the patterns which follow it. -/
def planFrom (files : List File) : ℕ → UInt32 → List (Bytes × List Text)
  | 0, _ => []
  | count + 1, rng =>
      let next := lcgNext rng
      (filePath files next, patternsFrom 3 next) :: planFrom files count (lcgNext^[3] next)

/-- What a scan runs for a file and a pattern. -/
def scanCommand (path : Bytes) (pattern : Text) : List Bytes :=
  shell (utf8 "rg -l '".toList ++ utf8 pattern ++ utf8 "' '".toList ++ path ++
    utf8 "' > /dev/null 2>&1".toList)

def planCommands (plan : List (Bytes × List Text)) : List (List Bytes) :=
  plan.flatMap fun item => item.2.map (scanCommand item.1)

/-- Exit statuses which count as errors. -/
def failures (codes : List ℤ) : ℕ :=
  codes.countP fun code => code ≠ 0 ∧ code ≠ 1

theorem failures_cons (code : ℤ) (codes : List ℤ) :
    failures (code :: codes) = (if code ≠ 0 ∧ code ≠ 1 then 1 else 0) + failures codes := by
  rw [failures, List.countP_cons, Nat.add_comm]
  congr 1
  by_cases failed : code ≠ 0 ∧ code ≠ 1 <;> simp [failed]

theorem failures_append (front back : List ℤ) :
    failures (front ++ back) = failures front + failures back :=
  List.countP_append

theorem execAll_cons (state : State) (argv : List Bytes) (rest : List (List Bytes)) :
    execAll world state (argv :: rest) =
      ((world.exec state argv).1 :: (execAll world (world.exec state argv).2 rest).1,
        (execAll world (world.exec state argv).2 rest).2) :=
  rfl

theorem scanPattern_iterate (path : Bytes) (count : ℕ) (scan : Scan State) :
    (scanPattern world path)^[count] scan =
      let done := execAll world scan.world
        ((patternsFrom count scan.rng).map fun pattern => shell (rgCommand pattern path))
      ⟨lcgNext^[count] scan.rng, scan.errors + failures done.1, done.2⟩ := by
  induction count generalizing scan with
  | zero => rfl
  | succ count ih =>
      rw [Function.iterate_succ_apply, ih]
      dsimp only [patternsFrom, scanPattern]
      rw [List.map_cons, execAll_cons, failures_cons, Function.iterate_succ_apply]
      congr 1
      split <;> omega

/-- No command is cut. -/
theorem rgCommand_eq (rng : UInt32) {path : Bytes} (short : path.length < 4096) :
    shell (rgCommand (rgPattern rng) path) = scanCommand path (rgPattern rng) := by
  have pattern : (utf8 (rgPattern rng)).length ≤ 6 := by
    have all : ∀ number < 10, (utf8 (rgPatterns.getD number [])).length ≤ 6 := by decide
    exact all _ (Nat.mod_lt _ (by decide))
  unfold rgCommand scanCommand
  rw [List.take_of_length_le]
  have front : (utf8 "rg -l '".toList).length = 7 := by decide
  have middle : (utf8 "' '".toList).length = 3 := by decide
  have back : (utf8 "' > /dev/null 2>&1".toList).length = 18 := by decide
  simp only [List.length_append, front, middle, back]
  omega

theorem map_rgCommand {path : Bytes} (short : path.length < 4096) (count : ℕ) (rng : UInt32) :
    ((patternsFrom count rng).map fun pattern => shell (rgCommand pattern path)) =
      (patternsFrom count rng).map (scanCommand path) := by
  induction count generalizing rng with
  | zero => rfl
  | succ count ih =>
      rw [patternsFrom, List.map_cons, List.map_cons, ih, rgCommand_eq (lcgNext rng) short]

theorem length_filePath (files : List File) (rng : UInt32) :
    (filePath files rng).length < 4096 := by
  unfold filePath
  cases files[rng.toNat % files.length]? with
  | none => decide
  | some file => exact file.short

theorem filePath_mem {files : List File} (some_file : files ≠ []) (rng : UInt32) :
    filePath files rng ∈ files.map File.path := by
  have below : rng.toNat % files.length < files.length :=
    Nat.mod_lt _ (List.length_pos_of_ne_nil some_file)
  rw [filePath, List.getElem?_eq_getElem below]
  exact List.mem_map_of_mem (List.getElem_mem below)

theorem planCommands_cons (path : Bytes) (patterns : List Text)
    (plan : List (Bytes × List Text)) : planCommands ((path, patterns) :: plan) =
      patterns.map (scanCommand path) ++ planCommands plan :=
  rfl

/-- One file after the other, the scan runs its plan. -/
theorem scanFile_iterate (files : List File) (count : ℕ) (scan : Scan State) :
    (scanFile world files)^[count] scan =
      let done := execAll world scan.world (planCommands (planFrom files count scan.rng))
      ⟨lcgNext^[4 * count] scan.rng, scan.errors + failures done.1, done.2⟩ := by
  induction count generalizing scan with
  | zero => rfl
  | succ count ih =>
      have chosen := scanPattern_iterate world (filePath files (lcgNext scan.rng)) 3
        { scan with rng := lcgNext scan.rng }
      rw [map_rgCommand (length_filePath files _)] at chosen
      have begun : scanFile world files scan =
          (scanPattern world (filePath files (lcgNext scan.rng)))^[3]
            { scan with rng := lcgNext scan.rng } := rfl
      have numbers : lcgNext^[4 * (count + 1)] scan.rng =
          lcgNext^[4 * count] (lcgNext^[3] (lcgNext scan.rng)) := by
        rw [Nat.mul_succ, Function.iterate_add_apply, Function.iterate_succ_apply lcgNext 3]
      have plan : planFrom files (count + 1) scan.rng =
          (filePath files (lcgNext scan.rng), patternsFrom 3 (lcgNext scan.rng)) ::
            planFrom files count (lcgNext^[3] (lcgNext scan.rng)) := rfl
      rw [Function.iterate_succ_apply, ih, begun, chosen, plan, planCommands_cons, execAll_append,
        numbers]
      dsimp only
      rw [failures_append, Nat.add_assoc]

/-- The number of a pattern is below ten. -/
theorem rgPattern_eq (rng : UInt32) : ∃ below : rng.toNat % 10 < rgPatterns.length,
    rgPattern rng = rgPatterns[rng.toNat % 10] := by
  have ten : rgPatterns.length = 10 := rfl
  have below : rng.toNat % 10 < rgPatterns.length := by omega
  refine ⟨below, ?_⟩
  rw [rgPattern, List.getD_eq_getElem?_getD, List.getElem?_eq_getElem below, Option.getD_some]

theorem rgPattern_ne {first second : UInt32} (parity : first.toNat % 2 ≠ second.toNat % 2) :
    rgPattern first ≠ rgPattern second := by
  have distinct : rgPatterns.Nodup := by decide
  obtain ⟨_, first_eq⟩ := rgPattern_eq first
  obtain ⟨_, second_eq⟩ := rgPattern_eq second
  intro same
  rw [first_eq, second_eq] at same
  have numbers := (distinct.getElem_inj_iff).mp same
  omega

/-- Patterns which follow each other differ, since the lowest bits of their numbers do. -/
theorem isChain_patternsFrom (count : ℕ) (rng : UInt32) :
    (patternsFrom count rng).IsChain (· ≠ ·) := by
  induction count generalizing rng with
  | zero => exact .nil
  | succ count ih =>
      cases count with
      | zero => exact .singleton _
      | succ count =>
          have parity := lcgNext_mod_two (lcgNext rng)
          have differ : rgPattern (lcgNext rng) ≠ rgPattern (lcgNext (lcgNext rng)) :=
            rgPattern_ne (by omega)
          exact .cons_cons differ (ih (lcgNext rng))

theorem mem_patternsFrom {count : ℕ} {rng : UInt32} {pattern : Text}
    (inside : pattern ∈ patternsFrom count rng) : pattern ∈ rgPatterns := by
  induction count generalizing rng with
  | zero => exact absurd inside List.not_mem_nil
  | succ count ih =>
      rw [patternsFrom] at inside
      rcases List.mem_cons.mp inside with chosen | later
      · obtain ⟨below, pattern_eq⟩ := rgPattern_eq (lcgNext rng)
        rw [chosen, pattern_eq]
        exact List.getElem_mem below
      · exact ih later

theorem length_patternsFrom (count : ℕ) (rng : UInt32) :
    (patternsFrom count rng).length = count := by
  induction count generalizing rng with
  | zero => rfl
  | succ count ih => rw [patternsFrom, List.length_cons, ih]

theorem length_planFrom (files : List File) (count : ℕ) (rng : UInt32) :
    (planFrom files count rng).length = count := by
  induction count generalizing rng with
  | zero => rfl
  | succ count ih => rw [planFrom, List.length_cons, ih]

/-- A file of the list with three patterns, of which no two neighbours are equal. -/
def Planned (files : List File) (item : Bytes × List Text) : Prop :=
  item.1 ∈ files.map File.path ∧ item.2.length = 3 ∧ (∀ pattern ∈ item.2, pattern ∈ rgPatterns) ∧
    item.2.IsChain (· ≠ ·)

theorem planned_of_mem {files : List File} (some_file : files ≠ []) {count : ℕ} {rng : UInt32}
    {item : Bytes × List Text} (inside : item ∈ planFrom files count rng) : Planned files item := by
  induction count generalizing rng with
  | zero => exact absurd inside List.not_mem_nil
  | succ count ih =>
      rw [planFrom] at inside
      rcases List.mem_cons.mp inside with rfl | later
      · exact ⟨filePath_mem some_file _, length_patternsFrom 3 _, fun _ => mem_patternsFrom,
          isChain_patternsFrom 3 _⟩
      · exact ih later

theorem scanReport_ok (errors : ℕ) : (scanReport errors).ok = decide (errors = 0) := by
  unfold scanReport
  split
  next none => simp [WorkloadResult.plain, none]
  next some_error => simp [WorkloadResult.report, some_error]

/-- For every seed a scan runs fifteen whole commands, three for each of five files, and fails
exactly if one of them ends otherwise than `rg` with or without a match.  No command is run twice
in a row for the same file. -/
theorem rgScan_plan {files : List File} (some_file : files ≠ []) (seed : UInt32) (state : State) :
    let plan := planFrom files 5 seed
    let done := execAll world state (planCommands plan)
    (rgScan world files seed state).2 = done.2 ∧
      ((rgScan world files seed state).1.ok = true ↔ ∀ code ∈ done.1, code = 0 ∨ code = 1) ∧
      plan.length = 5 ∧ ∀ item ∈ plan, Planned files item := by
  have all := scanFile_iterate world files 5 ⟨seed, 0, state⟩
  have ran : rgScan world files seed state =
      (scanReport (scanAll world files seed state).errors,
        (scanAll world files seed state).world) :=
    if_neg (by simpa using some_file)
  rw [ran, scanAll, all, scanReport_ok]
  refine ⟨rfl, ?_, length_planFrom files 5 seed, fun item => planned_of_mem some_file⟩
  simp only [Nat.zero_add, decide_eq_true_eq, failures, List.countP_eq_zero, not_and_or, not_not]

/-- A world which counts its programs, all of which exit with 1. -/
def sampleWorld : World ℕ where
  exec count _ := (1, count + 1)
  seed count := (0, count)
  readList count := (.ok ([65536, 17], false), count)
  strerror_printable _ _ failed := by cases failed
  nowNs count := (1000, count)
  selfFaults count := ((3, 0), count)

theorem rgScan_plan_sample :
    let done := execAll sampleWorld 0 (planCommands (planFrom [sampleFile] 5 0))
    (rgScan sampleWorld [sampleFile] 0 0).2 = done.2 ∧
      ((rgScan sampleWorld [sampleFile] 0 0).1.ok = true ↔ ∀ code ∈ done.1, code = 0 ∨ code = 1) ∧
      (planFrom [sampleFile] 5 0).length = 5 ∧
      ∀ item ∈ planFrom [sampleFile] 5 0, Planned [sampleFile] item :=
  rgScan_plan sampleWorld (by simp) 0 0

end Scan
end Guest
end HermOS
