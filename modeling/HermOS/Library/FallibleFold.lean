import Mathlib.Data.List.Forall2

/-!
# Loops which may raise

A loop over a list whose body may raise is a `foldlM` in `Except`.  What holds of a loop that ended
is an invariant of the elements already visited.
-/

namespace HermOS
namespace FallibleFold

variable {State Item Error : Type}

theorem bind_ok {Value Result : Type} {first : Except Error Value}
    {next : Value → Except Error Result} {result : Result} (ended : first >>= next = .ok result) :
    ∃ value, first = .ok value ∧ next value = .ok result := by
  cases first with
  | error error => cases ended
  | ok value => exact ⟨value, rfl, ended⟩

theorem bind_eq_ok_iff {Value Result : Type} {first : Except Error Value}
    {next : Value → Except Error Result} {result : Result} :
    first >>= next = .ok result ↔ ∃ value, first = .ok value ∧ next value = .ok result := by
  constructor
  · exact bind_ok
  · rintro ⟨value, rfl, ended⟩
    exact ended

theorem map_ok {Value Result : Type} {first : Except Error Value} {make : Value → Result}
    {result : Result} (mapped : first.map make = .ok result) :
    ∃ value, first = .ok value ∧ make value = result := by
  cases first with
  | error error => cases mapped
  | ok value => exact ⟨value, rfl, Except.ok.inj mapped⟩

variable {body : State → Item → Except Error State} {items : List Item} {state after : State}

private theorem invariant_from (Inv : List Item → State → Prop) {visited later : List Item}
    (whole : items = visited ++ later)
    (closed : ∀ {past item rest state after}, items = past ++ item :: rest → Inv past state →
      body state item = .ok after → Inv (past ++ [item]) after)
    (start : Inv visited state) (ended : later.foldlM body state = .ok after) :
    Inv items after := by
  induction later generalizing visited state with
  | nil =>
      cases ended
      simpa [whole] using start
  | cons item later ih =>
      rw [List.foldlM_cons] at ended
      obtain ⟨middle, step, ended⟩ := bind_ok ended
      exact ih (by simpa using whole) (closed whole start step) ended

/-- An invariant of the visited elements holds of all elements once the loop has ended. -/
theorem invariant (Inv : List Item → State → Prop)
    (closed : ∀ {past item rest state after}, items = past ++ item :: rest → Inv past state →
      body state item = .ok after → Inv (past ++ [item]) after)
    (start : Inv [] state) (ended : items.foldlM body state = .ok after) : Inv items after :=
  invariant_from Inv rfl closed start ended

/-- A loop ends if its body does not raise. -/
theorem ends (total : ∀ state, ∀ item ∈ items, ∃ after, body state item = .ok after)
    (state : State) : ∃ after, items.foldlM body state = .ok after := by
  induction items generalizing state with
  | nil => exact ⟨state, rfl⟩
  | cons item items ih =>
      obtain ⟨middle, step⟩ := total state item (by simp)
      obtain ⟨after, rest⟩ := ih (fun state later inside => total state later (by simp [inside]))
        middle
      exact ⟨after, by rw [List.foldlM_cons, step]; exact rest⟩

theorem raised (Raised : Error → Prop)
    (raises : ∀ {state item error}, body state item = .error error → Raised error) {error : Error}
    (ended : items.foldlM body state = .error error) : Raised error := by
  induction items generalizing state with
  | nil => cases ended
  | cons item items ih =>
      rw [List.foldlM_cons] at ended
      cases step : body state item with
      | error other =>
          rw [step] at ended
          cases ended
          exact raises step
      | ok middle =>
          rw [step] at ended
          exact ih ended

/-! ### A call for each element -/

variable {Value : Type} {call : Item → Except Error Value} {results : List Value}

theorem mapM_ok_iff :
    items.mapM call = .ok results ↔
      List.Forall₂ (fun item result => call item = .ok result) items results := by
  induction items generalizing results with
  | nil =>
      rw [List.mapM_nil, List.forall₂_nil_left_iff]
      exact ⟨fun ended => (Except.ok.inj ended).symm, fun none => none ▸ rfl⟩
  | cons item items ih =>
      rw [List.mapM_cons, List.forall₂_cons_left_iff]
      constructor
      · intro ended
        obtain ⟨result, first, ended⟩ := bind_ok ended
        obtain ⟨others, rest, ended⟩ := bind_ok ended
        cases ended
        exact ⟨result, others, first, ih.mp rest, rfl⟩
      · rintro ⟨result, others, first, rest, rfl⟩
        rw [first, ih.mpr rest]
        rfl

/-- Calls which all return have a result for each element. -/
theorem mapM_ok (Related : Item → Value → Prop)
    (returns : ∀ item ∈ items, ∃ result, call item = .ok result ∧ Related item result) :
    ∃ results, items.mapM call = .ok results ∧ List.Forall₂ Related items results := by
  induction items with
  | nil => exact ⟨[], rfl, .nil⟩
  | cons item items ih =>
      obtain ⟨result, first, related⟩ := returns item List.mem_cons_self
      obtain ⟨others, rest, all⟩ := ih fun later inside =>
        returns later (List.mem_cons_of_mem _ inside)
      refine ⟨result :: others, ?_, .cons related all⟩
      rw [List.mapM_cons, first, rest]
      rfl

/-- Lists which are related element by element have a partner for each element. -/
theorem partners {Related : Item → Value → Prop} (all : List.Forall₂ Related items results) :
    (∀ item ∈ items, ∃ result ∈ results, Related item result) ∧
      ∀ result ∈ results, ∃ item ∈ items, Related item result := by
  induction all with
  | nil => simp
  | @cons item result items results first _ ih =>
      obtain ⟨right, left⟩ := ih
      constructor
      · intro other inside
        rcases List.mem_cons.mp inside with rfl | inside
        · exact ⟨result, List.mem_cons_self, first⟩
        · obtain ⟨partner, member, related⟩ := right other inside
          exact ⟨partner, List.mem_cons_of_mem _ member, related⟩
      · intro other inside
        rcases List.mem_cons.mp inside with rfl | inside
        · exact ⟨item, List.mem_cons_self, first⟩
        · obtain ⟨partner, member, related⟩ := left other inside
          exact ⟨partner, List.mem_cons_of_mem _ member, related⟩

theorem returns_of_mapM (ended : items.mapM call = .ok results) :
    (∀ item ∈ items, ∃ result, call item = .ok result) ∧
      ∀ result ∈ results, ∃ item ∈ items, call item = .ok result := by
  obtain ⟨right, left⟩ := partners (mapM_ok_iff.mp ended)
  refine ⟨fun item inside => ?_, left⟩
  obtain ⟨result, _, called⟩ := right item inside
  exact ⟨result, called⟩

/-! ### Loops which leave a state behind -/

/-- A loop with the state which it leaves behind, and whether it ends without raising. -/
def attempt (body : Item → State → State × Bool) : List Item → State → State × Bool
  | [], state => (state, true)
  | item :: items, state =>
      match body item state with
      | (after, true) => attempt body items after
      | (after, false) => (after, false)

section Attempts

variable {body : Item → State → State × Bool}

private theorem attempt_from (Inv : List Item → State → Prop) {visited later : List Item}
    (whole : items = visited ++ later)
    (step : ∀ {past item rest state}, items = past ++ item :: rest → Inv past state →
      ∃ after, body item state = (after, true) ∧ Inv (past ++ [item]) after)
    (start : Inv visited state) :
    ∃ after, attempt body later state = (after, true) ∧ Inv items after := by
  induction later generalizing visited state with
  | nil => exact ⟨state, rfl, by simpa [whole] using start⟩
  | cons item later ih =>
      obtain ⟨middle, ended, kept⟩ := step whole start
      obtain ⟨after, rest, final⟩ := ih (by simpa using whole) kept
      exact ⟨after, by rw [attempt, ended]; exact rest, final⟩

/-- A loop whose body ends with an invariant of the visited elements ends with it. -/
theorem attempt_ends (Inv : List Item → State → Prop)
    (step : ∀ {past item rest state}, items = past ++ item :: rest → Inv past state →
      ∃ after, body item state = (after, true) ∧ Inv (past ++ [item]) after)
    (start : Inv [] state) :
    ∃ after, attempt body items state = (after, true) ∧ Inv items after :=
  attempt_from Inv rfl step start

/-- A loop whose body changes nothing changes nothing. -/
theorem attempt_still (still : ∀ item ∈ items, body item state = (state, true)) :
    attempt body items state = (state, true) := by
  induction items with
  | nil => rfl
  | cons item items ih =>
      rw [attempt, still item List.mem_cons_self]
      exact ih fun later inside => still later (List.mem_cons_of_mem _ inside)

end Attempts

end FallibleFold
end HermOS
