import HermOS.Guest.Daemon
import Mathlib.Data.List.TakeWhile

/-!
# Requests which run a workload

The path of a request ends at its first blank and is compared up to its first zero byte, so a
workload is run for its own name and for its name with a zero byte and anything else behind it.
-/

namespace HermOS
namespace Guest

open Codec

/-- The bytes of a request which names the workload. -/
structure Names (req : Bytes) (workload : Workload) (junk rest : Bytes) : Prop where
  bytes : req = utf8 "GET /".toList ++ (utf8 workload.id ++ junk) ++ 32 :: rest
  solid : 32 ∉ junk
  ended : junk = [] ∨ junk.head? = some 0
  short : (utf8 workload.id ++ junk).length < 256
  long : 16 ≤ req.length

theorem span_blank {path : Bytes} (blank : (path.takeWhile (· ≠ 32)).length ≠ path.length) :
    ∃ rest, path = path.takeWhile (· ≠ 32) ++ 32 :: rest := by
  have parts := List.takeWhile_append_dropWhile (p := (· ≠ 32)) (l := path)
  cases left : path.dropWhile (· ≠ 32) with
  | nil =>
      rw [left, List.append_nil] at parts
      exact absurd (congrArg List.length parts) blank
  | cons byte rest =>
      have stopped : byte = 32 := by
        have first := List.head?_dropWhile_not (· ≠ 32) path
        rw [left, List.head?_cons] at first
        simpa using first
      rw [stopped] at left
      exact ⟨rest, by rw [← left, parts]⟩

theorem parseWorkloadId_eq_some {req id : Bytes} (parsed : parseWorkloadId req 256 = some id) :
    16 ≤ req.length ∧ id ≠ [] ∧ id.length < 256 ∧ 32 ∉ id ∧
      ∃ rest, req = utf8 "GET /".toList ++ id ++ 32 :: rest := by
  unfold parseWorkloadId at parsed
  dsimp only at parsed
  split at parsed
  next => cases parsed
  next long =>
    split at parsed
    next => cases parsed
    next start =>
      split at parsed
      next => cases parsed
      next blank =>
        split at parsed
        next => cases parsed
        next size =>
          obtain rfl := Option.some.inj parsed
          obtain ⟨nonempty, short⟩ := not_or.mp size
          obtain ⟨rest, path⟩ := span_blank blank
          have front := not_not.mp start
          refine ⟨not_lt.mp long, nonempty, not_le.mp short, ?_, rest, ?_⟩
          · intro inside
            have other := List.mem_takeWhile_imp inside
            simp at other
          · rw [← front, List.append_assoc, ← path, List.take_append_drop]

theorem parseWorkloadId_names {req id rest : Bytes} (long : 16 ≤ req.length) (nonempty : id ≠ [])
    (short : id.length < 256) (solid : 32 ∉ id)
    (bytes : req = utf8 "GET /".toList ++ id ++ 32 :: rest) :
    parseWorkloadId req 256 = some id := by
  have five : (utf8 "GET /".toList).length = 5 := by decide
  have front : req.take 5 = utf8 "GET /".toList := by
    rw [bytes, List.append_assoc, List.take_left' five]
  have path : req.drop 5 = id ++ 32 :: rest := by
    rw [bytes, List.append_assoc, List.drop_left' five]
  have name : (req.drop 5).takeWhile (· ≠ 32) = id := by
    rw [path, List.takeWhile_append_of_pos]
    · simp
    · intro byte inside
      have other : byte ≠ 32 := fun same => solid (same ▸ inside)
      simpa using other
  have blank : id.length ≠ (req.drop 5).length := by
    rw [path, List.length_append, List.length_cons]
    omega
  have size : ¬ (id = [] ∨ 256 ≤ id.length) := not_or.mpr ⟨nonempty, not_le.mpr short⟩
  unfold parseWorkloadId
  dsimp only
  rw [if_neg (not_lt.mpr long), if_neg (not_not.mpr front), name, if_neg blank, if_neg size]

theorem workload_bytes (workload : Workload) :
    utf8 workload.id ≠ [] ∧ 0 ∉ utf8 workload.id ∧ 32 ∉ utf8 workload.id := by
  cases workload <;> decide

/-- No two workloads have the same name. -/
theorem workloadFind_id (workload : Workload) {buffer : Bytes}
    (named : cstr buffer = utf8 workload.id) : workloadFind buffer = some workload := by
  unfold workloadFind
  rw [named]
  cases workload <;> decide

theorem request_runs_iff (arrived : Bytes) (workload : Workload) :
    (parseWorkloadId (arrived.take 4095) 256).bind workloadFind = some workload ↔
      ∃ junk rest, Names (arrived.take 4095) workload junk rest := by
  constructor
  · intro found
    obtain ⟨id, parsed, found⟩ := Option.bind_eq_some_iff.mp found
    obtain ⟨long, _, short, solid, rest, bytes⟩ := parseWorkloadId_eq_some parsed
    have named := workloadFind_eq_some found
    have parts : utf8 workload.id ++ id.dropWhile (· ≠ 0) = id := by
      rw [named]
      exact List.takeWhile_append_dropWhile
    refine ⟨id.dropWhile (· ≠ 0), rest, by rw [parts]; exact bytes, ?_, ?_, by rwa [parts], long⟩
    · exact fun inside => solid ((List.dropWhile_suffix _).subset inside)
    · cases left : id.dropWhile (· ≠ 0) with
      | nil => exact .inl rfl
      | cons byte junk =>
          have first := List.head?_dropWhile_not (· ≠ 0) id
          rw [left, List.head?_cons] at first
          refine .inr ?_
          rw [List.head?_cons]
          simpa using first
  · rintro ⟨junk, rest, names⟩
    obtain ⟨nonempty, free, blank⟩ := workload_bytes workload
    have solid : 32 ∉ utf8 workload.id ++ junk := by
      simp [blank, names.solid]
    have some_byte : utf8 workload.id ++ junk ≠ [] := by simp [nonempty]
    rw [parseWorkloadId_names names.long some_byte names.short solid names.bytes, Option.bind_some]
    exact workloadFind_id workload (cstr_append free names.ended)

end Guest
end HermOS
