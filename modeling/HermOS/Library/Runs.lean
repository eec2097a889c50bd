import Mathlib.Data.List.SplitBy
import Mathlib.Order.Bounds.Basic

/-!
# Cutting a list into runs

A run is a list in which each item is related to the next.  `List.splitBy` cuts a list between all
neighbours which are not related, and nowhere else.  Every cut into runs has to cut there, so no cut
has fewer pieces.
-/

namespace HermOS
namespace Runs

variable {Item : Type*} (related : Item → Item → Bool)

/-- The runs, one after the other, are the list. -/
structure Cuts (items : List Item) (runs : List (List Item)) : Prop where
  flatten : runs.flatten = items
  nonempty : ∀ run ∈ runs, run ≠ []
  chain : ∀ run ∈ runs, run.IsChain fun item next => related item next

theorem cuts_splitBy (items : List Item) : Cuts related items (items.splitBy related) where
  flatten := List.flatten_splitBy related items
  nonempty _ := List.ne_nil_of_mem_splitBy
  chain _ := List.isChain_of_mem_splitBy

/-- Number of neighbours which are not related. -/
def breaks : List Item → ℕ
  | [] => 0
  | [_] => 0
  | item :: next :: items => (if related item next then 0 else 1) + breaks (next :: items)

variable {related} {front back : List Item}

theorem breaks_of_chain {run : List Item}
    (chain : run.IsChain fun item next => related item next) : breaks related run = 0 := by
  induction chain with
  | nil | singleton => rfl
  | cons_cons holds _ ih => simp [breaks, holds, ih]

/-- Where two lists meet there is at most one break. -/
theorem breaks_append_le :
    breaks related (front ++ back) ≤ breaks related front + 1 + breaks related back := by
  induction front with
  | nil => simp
  | cons item front ih =>
      cases front with
      | cons next front =>
          simp only [List.cons_append, breaks] at ih ⊢
          omega
      | nil =>
          cases back with
          | nil => simp [breaks]
          | cons next back =>
              simp only [List.cons_append, List.nil_append, breaks]
              split <;> omega

/-- There is one if the neighbours are not related. -/
theorem breaks_append (some_item : front ≠ []) (some_next : back ≠ [])
    (apart : related (front.getLast some_item) (back.head some_next) = false) :
    breaks related (front ++ back) = breaks related front + 1 + breaks related back := by
  induction front with
  | nil => exact absurd rfl some_item
  | cons item front ih =>
      cases front with
      | cons next front =>
          have later := ih (List.cons_ne_nil next front) apart
          simp only [List.cons_append, breaks] at later ⊢
          omega
      | nil =>
          obtain ⟨next, back, rfl⟩ := List.exists_cons_of_ne_nil some_next
          have apart : related item next = false := apart
          simp [breaks, apart]

/-- Every cut separates the neighbours which are not related. -/
theorem breaks_lt_length {runs : List (List Item)}
    (chain : ∀ run ∈ runs, run.IsChain fun item next => related item next)
    (some_run : runs ≠ []) : breaks related runs.flatten < runs.length := by
  induction runs with
  | nil => exact absurd rfl some_run
  | cons run runs ih =>
      have quiet := breaks_of_chain (chain run List.mem_cons_self)
      rw [List.flatten_cons, List.length_cons]
      rcases eq_or_ne runs [] with rfl | more
      · simp [quiet]
      · have later := ih (fun other inside => chain other (List.mem_cons_of_mem _ inside)) more
        have whole : breaks related (run ++ runs.flatten) ≤
            breaks related run + 1 + breaks related runs.flatten := breaks_append_le
        omega

/-- A cut which separates no others has one run more than there are breaks. -/
theorem length_eq_breaks {runs : List (List Item)} (nonempty : ∀ run ∈ runs, run ≠ [])
    (chain : ∀ run ∈ runs, run.IsChain fun item next => related item next)
    (apart : runs.IsChain fun run next => ∃ some_item some_next,
      related (run.getLast some_item) (next.head some_next) = false)
    (some_run : runs ≠ []) : runs.length = breaks related runs.flatten + 1 := by
  induction runs with
  | nil => exact absurd rfl some_run
  | cons run runs ih =>
      have quiet := breaks_of_chain (chain run List.mem_cons_self)
      rw [List.flatten_cons, List.length_cons]
      cases runs with
      | nil => simp [quiet]
      | cons next runs =>
          have later := ih (fun other inside => nonempty other (List.mem_cons_of_mem _ inside))
            (fun other inside => chain other (List.mem_cons_of_mem _ inside)) apart.tail
            (List.cons_ne_nil _ _)
          obtain ⟨some_item, some_next, unrelated⟩ := (List.isChain_cons_cons.mp apart).1
          have meets : next ++ runs.flatten ≠ [] := List.append_ne_nil_of_left_ne_nil some_next _
          have border : related (run.getLast some_item) ((next ++ runs.flatten).head meets) =
              false := by
            rw [List.head_append_of_ne_nil]
            exact unrelated
          rw [List.flatten_cons] at later ⊢
          rw [breaks_append some_item meets border, later, quiet]
          omega

/-- No cut into runs has fewer pieces than `splitBy`. -/
theorem isLeast_length_splitBy (related : Item → Item → Bool) (items : List Item) :
    IsLeast {count | ∃ runs, Cuts related items runs ∧ runs.length = count}
      (items.splitBy related).length := by
  have split := cuts_splitBy related items
  refine ⟨⟨_, split, rfl⟩, ?_⟩
  rintro _ ⟨runs, cuts, rfl⟩
  rcases eq_or_ne runs [] with rfl | some_run
  · obtain rfl := cuts.flatten
    simp
  · have lower := breaks_lt_length cuts.chain some_run
    rcases eq_or_ne (items.splitBy related) [] with none | some_piece
    · simp [none]
    · have exactly := length_eq_breaks split.nonempty split.chain
        (List.isChain_getLast_head_splitBy related items) some_piece
      rw [split.flatten] at exactly
      rw [cuts.flatten] at lower
      omega

end Runs
end HermOS
