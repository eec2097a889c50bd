import Mathlib.Algebra.Order.BigOperators.Group.List
import Mathlib.Algebra.Order.Field.Basic

/-!
# Mean, least and greatest of a list

Least and greatest values commute with the minimum and the maximum of two families.  Means do so
only where one family is below the other.
-/

namespace HermOS
namespace Aggregate

variable {Item K : Type} [LinearOrder K] {first second : Item → K} {items : List Item}

/-- One family is below the other. -/
def Below (first second : Item → K) (items : List Item) : Prop :=
  ∀ item ∈ items, first item ≤ second item

theorem Below.map_max (below : Below first second items) :
    (items.map fun item => max (first item) (second item)) = items.map second :=
  List.map_congr_left fun item inside => max_eq_right (below item inside)

theorem Below.map_min (below : Below first second items) :
    (items.map fun item => min (first item) (second item)) = items.map first :=
  List.map_congr_left fun item inside => min_eq_left (below item inside)

variable [Field K]

/-- The least value, or zero if there is none. -/
def least (values : List K) : K :=
  values.min?.getD 0

/-- The greatest value, or zero if there is none. -/
def greatest (values : List K) : K :=
  values.max?.getD 0

/-- The mean, or zero if there is no value. -/
def mean (values : List K) : K :=
  values.sum / values.length

@[simp] theorem least_nil : least ([] : List K) = 0 :=
  rfl

@[simp] theorem least_singleton (value : K) : least [value] = value :=
  rfl

@[simp] theorem least_cons_cons (value next : K) (values : List K) :
    least (value :: next :: values) = min value (least (next :: values)) := by
  rw [least, least, List.min?_cons, List.min?_cons]
  rfl

@[simp] theorem greatest_nil : greatest ([] : List K) = 0 :=
  rfl

@[simp] theorem greatest_singleton (value : K) : greatest [value] = value :=
  rfl

@[simp] theorem greatest_cons_cons (value next : K) (values : List K) :
    greatest (value :: next :: values) = max value (greatest (next :: values)) := by
  rw [greatest, greatest, List.max?_cons, List.max?_cons]
  rfl

variable (first second items)

theorem greatest_map_max :
    greatest (items.map fun item => max (first item) (second item)) =
      max (greatest (items.map first)) (greatest (items.map second)) := by
  induction items with
  | nil => simp
  | cons item items ih =>
      cases items with
      | nil => simp
      | cons next items =>
          simp only [List.map_cons, greatest_cons_cons] at ih ⊢
          rw [ih, max_max_max_comm]

theorem least_map_min :
    least (items.map fun item => min (first item) (second item)) =
      min (least (items.map first)) (least (items.map second)) := by
  induction items with
  | nil => simp
  | cons item items ih =>
      cases items with
      | nil => simp
      | cons next items =>
          simp only [List.map_cons, least_cons_cons] at ih ⊢
          rw [ih, min_min_min_comm]

variable {first second items}

theorem Below.greatest_le (below : Below first second items) :
    greatest (items.map first) ≤ greatest (items.map second) := by
  have both := greatest_map_max first second items
  rw [below.map_max] at both
  exact max_eq_right_iff.mp both.symm

theorem Below.least_le (below : Below first second items) :
    least (items.map first) ≤ least (items.map second) := by
  have both := least_map_min first second items
  rw [below.map_min] at both
  exact min_eq_left_iff.mp both.symm

/-- One of two families is below the other. -/
def Ordered (first second : Item → K) (items : List Item) : Prop :=
  Below first second items ∨ Below second first items

theorem Ordered.least_max (ordered : Ordered first second items) :
    least (items.map fun item => max (first item) (second item)) =
      max (least (items.map first)) (least (items.map second)) := by
  rcases ordered with below | below
  · rw [below.map_max, max_eq_right below.least_le]
  · rw [max_eq_left below.least_le, ← below.map_max]
    simp only [max_comm]

theorem Ordered.greatest_min (ordered : Ordered first second items) :
    greatest (items.map fun item => min (first item) (second item)) =
      min (greatest (items.map first)) (greatest (items.map second)) := by
  rcases ordered with below | below
  · rw [below.map_min, min_eq_left below.greatest_le]
  · rw [min_eq_right below.greatest_le, ← below.map_min]
    simp only [min_comm]

variable [IsStrictOrderedRing K]

theorem mean_le_iff :
    mean (items.map first) ≤ mean (items.map second) ↔
      (items.map first).sum ≤ (items.map second).sum := by
  cases items with
  | nil => simp [mean]
  | cons item items =>
      have positive : (0 : K) < (item :: items).length := by simp [Nat.cast_add_one_pos]
      rw [mean, mean, List.length_map, List.length_map, div_le_div_iff_of_pos_right positive]

theorem Below.mean_le (below : Below first second items) :
    mean (items.map first) ≤ mean (items.map second) :=
  mean_le_iff.mpr (List.sum_le_sum below)

theorem Ordered.mean_min (ordered : Ordered first second items) :
    mean (items.map fun item => min (first item) (second item)) =
      min (mean (items.map first)) (mean (items.map second)) := by
  rcases ordered with below | below
  · rw [below.map_min, min_eq_left below.mean_le]
  · rw [min_eq_right below.mean_le, ← below.map_min]
    simp only [min_comm]

/-- A mean which is not raised by taking the greater values was greater everywhere. -/
theorem below_of_mean_max (greater : mean (items.map first) ≤ mean (items.map second))
    (same : mean (items.map fun item => max (first item) (second item)) =
      max (mean (items.map first)) (mean (items.map second))) : Below first second items := by
  rw [max_eq_right greater] at same
  intro item inside
  by_contra above
  have more : (items.map second).sum <
      (items.map fun item => max (first item) (second item)).sum :=
    List.sum_lt_sum _ _ (fun item _ => le_max_right _ _)
      ⟨item, inside, lt_max_of_lt_left (not_le.mp above)⟩
  exact not_le.mpr more (mean_le_iff.mp same.le)

/-- The mean of the greater values is the greater mean where one family is below the other. -/
theorem mean_max_iff :
    mean (items.map fun item => max (first item) (second item)) =
        max (mean (items.map first)) (mean (items.map second)) ↔
      Ordered first second items := by
  constructor
  · intro same
    rcases le_total (mean (items.map first)) (mean (items.map second)) with greater | greater
    · exact .inl (below_of_mean_max greater same)
    · refine .inr (below_of_mean_max greater ?_)
      simpa only [max_comm] using same
  · rintro (below | below)
    · rw [below.map_max, max_eq_right below.mean_le]
    · rw [max_eq_left below.mean_le, ← below.map_max]
      simp only [max_comm]

end Aggregate
end HermOS
