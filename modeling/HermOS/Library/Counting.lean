import Mathlib.Data.Nat.Count

/-!
# Counting flags below a bound

A shared counter which every participant raises once equals the number of participants past that
point.  Raising one flag raises the count by one, and a count short of its bound leaves somebody
to raise it.
-/

namespace HermOS
namespace Counting

variable {before after : ℕ → Bool} {bound : ℕ}

/-- Number of participants below `bound` whose flag is raised. -/
def raised (flag : ℕ → Bool) (bound : ℕ) : ℕ :=
  Nat.count (flag · = true) bound

theorem raised_congr (same : ∀ index < bound, after index = before index) :
    raised after bound = raised before bound := by
  induction bound with
  | zero => rfl
  | succ bound ih =>
      have shorter := ih fun index below => same index (by omega)
      unfold raised at shorter ⊢
      rw [Nat.count_succ, Nat.count_succ, shorter, same bound (by omega)]

theorem raised_succ {chosen : ℕ} (below : chosen < bound) (lowered : before chosen = false)
    (raises : after chosen = true)
    (others : ∀ index < bound, index ≠ chosen → after index = before index) :
    raised after bound = raised before bound + 1 := by
  induction bound with
  | zero => omega
  | succ bound ih =>
      unfold raised at ih ⊢
      rw [Nat.count_succ, Nat.count_succ]
      rcases Nat.lt_succ_iff_lt_or_eq.mp below with inside | rfl
      · rw [ih inside fun index less => others index (by omega), others bound (by omega) (by omega)]
        omega
      · have same : raised after chosen = raised before chosen :=
          raised_congr fun index less => others index (by omega) (by omega)
        unfold raised at same
        rw [same, lowered, raises]
        rfl

/-- Nobody's flag is raised exactly if the count is zero. -/
theorem raised_eq_zero (none : ∀ index < bound, before index = false) :
    raised before bound = 0 :=
  Nat.count_iff_forall_not.mpr fun index below => by simp [none index below]

section Update

variable {Slot : Type*} {slots : ℕ → Slot} {slot : Slot} {chosen : ℕ} (flag : Slot → Bool)

/-- A write which keeps the flag of its slot keeps the count. -/
theorem raised_update (same : flag slot = flag (slots chosen)) :
    raised (fun index => flag (Function.update slots chosen slot index)) bound =
      raised (fun index => flag (slots index)) bound := by
  refine raised_congr fun index _ => ?_
  rcases eq_or_ne index chosen with rfl | ne
  · rw [Function.update_self, same]
  · rw [Function.update_of_ne ne]

/-- A write which raises the flag of its slot adds one. -/
theorem raised_update_succ (below : chosen < bound) (lowered : flag (slots chosen) = false)
    (raises : flag slot = true) :
    raised (fun index => flag (Function.update slots chosen slot index)) bound =
      raised (fun index => flag (slots index)) bound + 1 := by
  refine raised_succ below lowered ?_ fun index _ ne => ?_
  · rw [Function.update_self, raises]
  · rw [Function.update_of_ne ne]

/-- A write which lowers the flag of its slot takes one away. -/
theorem raised_update_pred (below : chosen < bound) (raises : flag (slots chosen) = true)
    (lowered : flag slot = false) :
    raised (fun index => flag (slots index)) bound =
      raised (fun index => flag (Function.update slots chosen slot index)) bound + 1 := by
  refine raised_succ below ?_ raises fun index _ ne => ?_
  · rw [Function.update_self, lowered]
  · rw [Function.update_of_ne ne]

end Update

theorem raised_mono (sub : ∀ index < bound, after index = true → before index = true) :
    raised after bound ≤ raised before bound :=
  Nat.count_mono_left sub

theorem exists_raised (positive : 0 < raised before bound) :
    ∃ index < bound, before index = true := by
  by_contra none
  refine positive.ne' (raised_eq_zero fun index below => ?_)
  exact Bool.eq_false_iff.mpr fun raises => none ⟨index, below, raises⟩

/-- A set of raised flags below the bound is no larger than their count. -/
theorem card_le_raised {chosen : Finset ℕ} (below : ∀ index ∈ chosen, index < bound)
    (raises : ∀ index ∈ chosen, before index = true) : chosen.card ≤ raised before bound := by
  rw [raised, Nat.count_eq_card_filter_range]
  refine Finset.card_le_card fun index member => ?_
  exact Finset.mem_filter.mpr ⟨Finset.mem_range.mpr (below index member), raises index member⟩

theorem forall_of_le_raised (full : bound ≤ raised before bound) :
    ∀ index < bound, before index = true :=
  Nat.count_iff_forall.mp (le_antisymm (Nat.count_le _) full)

theorem exists_lowered (short : raised before bound < bound) :
    ∃ index < bound, before index = false := by
  by_contra none
  have full : ∀ index < bound, before index = true := by
    intro index below
    by_contra lowered
    exact none ⟨index, below, Bool.eq_false_iff.mpr lowered⟩
  exact short.ne (Nat.count_iff_forall.mpr full)

end Counting
end HermOS
