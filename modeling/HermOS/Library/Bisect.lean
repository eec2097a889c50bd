import Mathlib.Order.Defs.LinearOrder
import Mathlib.Data.List.Sort

/-!
# Binary search

Python's `bisect_left`: the place before which everything is smaller.  In an ordered list, an item
is at that place if it is in the list at all.
-/

namespace HermOS
namespace Bisect

variable {Item : Type*} [LinearOrder Item] {items : List Item} {item : Item} {lo hi : ℕ}

/-- The loop of `bisect_left` between two positions. -/
def bisectLeftFrom (items : List Item) (item : Item) (lo hi : ℕ) : ℕ :=
  if lo < hi then
    let mid := (lo + hi) / 2
    if items[mid]?.any (· < item) then
      bisectLeftFrom items item (mid + 1) hi
    else
      bisectLeftFrom items item lo mid
  else
    lo
termination_by hi - lo

def bisectLeft (items : List Item) (item : Item) : ℕ :=
  bisectLeftFrom items item 0 items.length

/-- The place is between the two positions. -/
structure Brackets (items : List Item) (item : Item) (lo hi : ℕ) : Prop where
  ordered : lo ≤ hi
  bounded : hi ≤ items.length
  below : ∀ index (inside : index < items.length), index < lo → items[index] < item
  above : ∀ index (inside : index < items.length), hi ≤ index → item ≤ items[index]

theorem brackets_bisectLeftFrom (sorted : items.SortedLE) (brackets : Brackets items item lo hi) :
    Brackets items item (bisectLeftFrom items item lo hi) (bisectLeftFrom items item lo hi) := by
  fun_induction bisectLeftFrom items item lo hi with
  | case1 lo hi open_range mid smaller ih =>
      have inside : mid < items.length := by
        have := brackets.bounded
        omega
      refine ih ⟨by omega, brackets.bounded, fun index below_length early => ?_, brackets.above⟩
      rw [List.getElem?_eq_getElem inside] at smaller
      refine lt_of_le_of_lt (sorted.getElem_le_getElem_of_le (by omega)) (of_decide_eq_true smaller)
  | case2 lo hi open_range mid larger ih =>
      have inside : mid < items.length := by
        have := brackets.bounded
        omega
      refine ih ⟨by omega, inside.le, brackets.below, fun index below_length late => ?_⟩
      rw [List.getElem?_eq_getElem inside] at larger
      have reached : item ≤ items[mid] := by simpa using larger
      exact reached.trans (sorted.getElem_le_getElem_of_le late)
  | case3 lo hi closed => 
      have same : lo = hi := by
        have := brackets.ordered
        omega
      subst same
      exact brackets

/-- An item of an ordered list is where `bisect_left` says. -/
theorem getElem?_bisectLeft (sorted : items.SortedLE) :
    items[bisectLeft items item]? = some item ↔ item ∈ items := by
  constructor
  · exact List.mem_of_getElem?
  · intro inside
    have place := brackets_bisectLeftFrom sorted
      (⟨Nat.zero_le _, le_rfl, fun _ _ early => absurd early (Nat.not_lt_zero _),
        fun _ inside late => absurd inside (not_lt.mpr late)⟩ : Brackets items item 0 items.length)
    obtain ⟨index, bound, rfl⟩ := List.mem_iff_getElem.mp inside
    have reached : bisectLeft items items[index] ≤ index := by
      by_contra early
      exact lt_irrefl _ (place.below index bound (not_le.mp early))
    have inside_place : bisectLeft items items[index] < items.length := lt_of_le_of_lt reached bound
    rw [List.getElem?_eq_getElem inside_place]
    congr 1
    exact le_antisymm (sorted.getElem_le_getElem_of_le reached)
      (place.above _ inside_place le_rfl)

end Bisect
end HermOS
