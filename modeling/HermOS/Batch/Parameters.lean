import HermOS.Batch.ExitCode

/-!
# The parameters of a batch

The checks before the first fork pass exactly when the three numbers are texts of digits and stand
for at least one in 64 bits.  A batch which then exits with code 0 has run every named line of the
task file.
-/

namespace HermOS
namespace Batch

open Python

variable {args : Args} {state : State} {trace : List Label} {parameters : List Text}
  {taskFile text fcBatchJobs fcBatchStartRun : Text} {count : Count}

/-! ### Numbers -/

/-- Decimal digits whose number in 64 bits is the count. -/
structure CountText (text : Text) (count : Count) : Prop where
  nonempty : text ≠ []
  digits : ∀ c ∈ text, c.isDigit = true
  value : (count.value : ℤ) = arith (Nat.ofDigitChars 10 text 0)

theorem isNumber_iff : isNumber text = true ↔ text ≠ [] ∧ ∀ c ∈ text, c.isDigit = true := by
  simp [isNumber]

theorem read_eq_some_iff :
    Count.read text = some count ↔ (count.value : ℤ) = arith (Nat.ofDigitChars 10 text 0) := by
  have positive := count.positive
  rw [← ofDigits_digits, Count.read]
  dsimp only
  split
  next big =>
    rw [Option.some.injEq]
    constructor
    · rintro rfl
      exact Int.toNat_of_nonneg (by omega)
    · intro value
      obtain ⟨number, _, _⟩ := count
      simp only at value
      simp [← value]
  next small =>
    constructor
    · intro read
      cases read
    · intro value
      omega

/-- A number passes both of its checks. -/
theorem countText_iff :
    CountText text count ↔ isNumber text = true ∧ Count.read text = some count := by
  rw [isNumber_iff, read_eq_some_iff]
  exact ⟨fun counts => ⟨⟨counts.nonempty, counts.digits⟩, counts.value⟩,
    fun ⟨⟨nonempty, digits⟩, value⟩ => ⟨nonempty, digits, value⟩⟩

/-! ### Parameters -/

/-- The parameters, the environment and the task file give these arguments. -/
structure Parsed (taskFile : Text) (parameters : List Text) (fcBatchJobs fcBatchStartRun : Text)
    (args : Args) : Prop where
  number : 2 ≤ parameters.length ∧ parameters.length ≤ 4
  repeatCount : CountText (parameters.getD 1 []) args.repeatCount
  jobs : CountText (orDefault (parameters.getD 2 []) fcBatchJobs) args.jobs
  startRun : CountText (orDefault (parameters.getD 3 []) fcBatchStartRun) args.startRun
  tasks : args.tasks = readTasks taskFile

/-- The script goes on with exactly the arguments which its parameters stand for. -/
theorem parse_ok_iff : Args.parse taskFile parameters fcBatchJobs fcBatchStartRun = .ok args ↔
    Parsed taskFile parameters fcBatchJobs fcBatchStartRun args := by
  obtain ⟨tasks, repeats, parallel, first⟩ := args
  constructor
  · intro parsed
    unfold Args.parse at parsed
    simp only [bind, Except.bind, pure, Except.pure, throw, throwThe, MonadExceptOf.throw] at parsed
    split_ifs at parsed with number repeats_bad jobs_bad start_bad
    split at parsed
    next found repeats_read =>
      split at parsed
      next found_jobs jobs_read =>
        split at parsed
        next found_start start_read =>
          cases parsed
          have number : 2 ≤ parameters.length ∧ parameters.length ≤ 4 := by omega
          simp only [Bool.not_eq_true', Bool.not_eq_false] at repeats_bad jobs_bad start_bad
          exact ⟨number, countText_iff.mpr ⟨repeats_bad, repeats_read⟩,
            countText_iff.mpr ⟨jobs_bad, jobs_read⟩, countText_iff.mpr ⟨start_bad, start_read⟩, rfl⟩
        next => cases parsed
      next => cases parsed
    next => cases parsed
  · rintro ⟨number, repeatCount, jobs, startRun, rfl⟩
    have outside : ¬ (parameters.length < 2 ∨ 4 < parameters.length) := by omega
    obtain ⟨digits, read⟩ := countText_iff.mp repeatCount
    obtain ⟨jobs_digits, jobs_read⟩ := countText_iff.mp jobs
    obtain ⟨start_digits, start_read⟩ := countText_iff.mp startRun
    simp only at read jobs_read start_read
    simp only [Args.parse, if_neg outside, digits, jobs_digits, start_digits, read, jobs_read,
      start_read]
    rfl

/-! ### The task file -/

/-- The named lines of a task file. -/
theorem readTasks_join {lines : List Text} (some_line : lines ≠ [])
    (plain : ∀ line ∈ lines, '\n' ∉ line ∧ Char.ofNat 0 ∉ line) :
    readTasks (join '\n' lines) =
      lines.filter fun line => line ≠ [] ∧ ¬ startsWith ['#'] line := by
  rw [readTasks, split_intercalate some_line fun line inside => (plain line inside).1]
  congr 1
  refine (List.map_congr_left fun line inside => ?_).trans (List.map_id lines)
  refine List.filter_eq_self.mpr fun c member => decide_eq_true fun zero => ?_
  exact (plain line inside).2 (zero ▸ member)

/-- A batch which ends with code 0 has called every line of the task file which is neither empty
nor a comment, once for each of the runs from the first one on, and all these calls have
succeeded. -/
theorem calls_of_file {lines : List Text} (some_line : lines ≠ [])
    (plain : ∀ line ∈ lines, '\n' ∉ line ∧ Char.ofNat 0 ∉ line)
    (parsed : Args.parse (join '\n' lines) parameters fcBatchJobs fcBatchStartRun = .ok args)
    (run : (batch args).Run trace state) (exited : state.pc = .exited 0) :
    (state.calls.map fun call => args.argv call.task call.round).Perm
        ((lines.filter fun line => line ≠ [] ∧ line.head? ≠ some '#').flatMap fun line =>
          (List.range args.repeatCount.value).map fun round : ℕ =>
            some (line, "run-".toList ++ str (arith (args.startRun.value + round)))) ∧
      ∀ call ∈ state.calls, call.status = 0 := by
  have complete := complete_of_exited run exited
  refine ⟨?_, complete.succeed⟩
  have named : (lines.filter fun line => line ≠ [] ∧ line.head? ≠ some '#') = args.tasks := by
    rw [(parse_ok_iff.mp parsed).tasks, readTasks_join some_line plain]
    refine List.filter_congr fun line _ => ?_
    have mark : line.head? = some '#' ↔ startsWith ['#'] line = true := by
      cases line with
      | nil => simp [startsWith]
      | cons first rest => simpa [startsWith_iff, List.cons_prefix_cons] using eq_comm
    simp only [ne_eq, mark]
  have planned := complete.calls
  rw [Args.plan, List.map_flatMap] at planned
  rw [named]
  simpa only [List.map_map, Function.comp_def, Args.runId] using planned

def sampleFile : List Text :=
  ["a".toList, "# b".toList, [], "b".toList, "c".toList, []]

theorem sample_parsed :
    Args.parse (join '\n' sampleFile) ["tasks.txt".toList, "02".toList] "2".toList
    [] = .ok sampleArgs := by
  refine parse_ok_iff.mpr ⟨by decide, ?_, ?_, ?_, ?_⟩
  · exact countText_iff.mpr ⟨by decide, rfl⟩
  · exact countText_iff.mpr ⟨by decide, rfl⟩
  · exact countText_iff.mpr ⟨by decide, rfl⟩
  · rw [readTasks_join (by decide) (by decide)]
    decide

theorem calls_of_file_sample :
    (sampleEnd.calls.map fun call => sampleArgs.argv call.task call.round).Perm
        ((sampleFile.filter fun line => line ≠ [] ∧ line.head? ≠ some '#').flatMap fun line =>
          (List.range 2).map fun round : ℕ =>
            some (line, "run-".toList ++ str (arith (1 + round)))) ∧
      ∀ call ∈ sampleEnd.calls, call.status = 0 :=
  calls_of_file (by decide) (by decide) sample_parsed sample_run rfl

end Batch
end HermOS
