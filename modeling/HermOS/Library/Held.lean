import HermOS.Library.FallibleFold
import Mathlib.Tactic.Common

/-!
# What a program leaves open

Events open and close resources.  A resource is held behind a sequence of events if some event opens
it and none behind that one closes it.
-/

namespace HermOS

/-- What the events of a program do to resources. -/
structure Brackets (Event Resource : Type) where
  opens : Event → Option Resource
  closes : Event → Option Resource

namespace Brackets

variable {Event Resource Item : Type} (brackets : Brackets Event Resource)

/-- Some event closes the resource. -/
def Closed (events : List Event) (resource : Resource) : Prop :=
  ∃ event ∈ events, brackets.closes event = some resource

/-- The resource is opened and not closed behind that. -/
def Held (events : List Event) (resource : Resource) : Prop :=
  ∃ front event back, events = front ++ event :: back ∧ brackets.opens event = some resource ∧
    ¬ brackets.Closed back resource

variable {brackets} {events more : List Event} {event : Event} {resource : Resource}

theorem not_closed_nil : ¬ brackets.Closed [] resource := by
  rintro ⟨_, inside, _⟩
  cases inside

theorem closed_append :
    brackets.Closed (events ++ more) resource ↔
      brackets.Closed events resource ∨ brackets.Closed more resource := by
  simp only [Closed, List.mem_append, or_and_right, exists_or]

theorem closed_flatMap {program : Item → List Event} {items : List Item} :
    brackets.Closed (items.flatMap program) resource ↔
      ∃ item ∈ items, brackets.Closed (program item) resource := by
  constructor
  · rintro ⟨event, inside, closes⟩
    obtain ⟨item, listed, inside⟩ := List.mem_flatMap.mp inside
    exact ⟨item, listed, event, inside, closes⟩
  · rintro ⟨item, listed, event, inside, closes⟩
    exact ⟨event, List.mem_flatMap.mpr ⟨item, listed, inside⟩, closes⟩

theorem Held.opened (held : brackets.Held events resource) :
    ∃ event ∈ events, brackets.opens event = some resource := by
  obtain ⟨front, event, back, rfl, opened, _⟩ := held
  exact ⟨event, List.mem_append_right _ List.mem_cons_self, opened⟩

/-- Events which close nothing hold what they open. -/
theorem held_of_opened (inside : event ∈ events) (opened : brackets.opens event = some resource)
    (kept : ¬ brackets.Closed events resource) : brackets.Held events resource := by
  obtain ⟨front, back, rfl⟩ := List.append_of_mem inside
  refine ⟨front, event, back, rfl, opened, ?_⟩
  rintro ⟨later, behind, closes⟩
  exact kept ⟨later, List.mem_append_right _ (List.mem_cons_of_mem _ behind), closes⟩

/-- What the second of two programs holds, both hold. -/
theorem Held.append_left (held : brackets.Held more resource) :
    brackets.Held (events ++ more) resource := by
  obtain ⟨front, event, back, rfl, opened, kept⟩ := held
  exact ⟨events ++ front, event, back, by rw [List.append_assoc], opened, kept⟩

/-- What the first of two programs holds, the second may close. -/
theorem Held.append_right (held : brackets.Held events resource)
    (kept : ¬ brackets.Closed more resource) : brackets.Held (events ++ more) resource := by
  obtain ⟨front, event, back, rfl, opened, open_still⟩ := held
  refine ⟨front, event, back ++ more, by rw [List.append_assoc, List.cons_append], opened, ?_⟩
  rw [closed_append, not_or]
  exact ⟨open_still, kept⟩

/-- What two programs hold. -/
theorem held_append :
    brackets.Held (events ++ more) resource ↔
      (brackets.Held events resource ∧ ¬ brackets.Closed more resource) ∨
        brackets.Held more resource := by
  constructor
  · rintro ⟨front, event, back, same, opened, kept⟩
    rcases List.append_eq_append_iff.mp same with
      ⟨between, rfl, rfl⟩ | ⟨between, rfl, behind⟩
    · exact .inr ⟨between, event, back, rfl, opened, kept⟩
    · cases between with
      | nil =>
          rw [List.nil_append] at behind
          exact .inr ⟨[], event, back, behind.symm, opened, kept⟩
      | cons first between =>
          obtain ⟨rfl, rfl⟩ := List.cons.inj behind
          rw [List.append_eq, closed_append, not_or] at kept
          exact .inl ⟨⟨front, event, between, rfl, opened, kept.1⟩, kept.2⟩
  · rintro (⟨held, kept⟩ | held)
    · exact held.append_right kept
    · exact held.append_left

theorem Held.flatMap {program : Item → List Event} {items : List Item}
    (held : brackets.Held (items.flatMap program) resource) :
    ∃ item ∈ items, brackets.Held (program item) resource := by
  induction items with
  | nil =>
      obtain ⟨_, inside, _⟩ := held.opened
      cases inside
  | cons item items ih =>
      rw [List.flatMap_cons] at held
      rcases held_append.mp held with ⟨first, _⟩ | later
      · exact ⟨item, List.mem_cons_self, first⟩
      · obtain ⟨other, listed, held⟩ := ih later
        exact ⟨other, List.mem_cons_of_mem _ listed, held⟩

/-- What one program of a sequence holds and no other one closes, the sequence holds. -/
theorem held_flatMap {program : Item → List Event} {front back : List Item} {item : Item}
    (held : brackets.Held (program item) resource)
    (kept : ∀ later ∈ back, ¬ brackets.Closed (program later) resource) :
    brackets.Held ((front ++ item :: back).flatMap program) resource := by
  rw [List.flatMap_append, List.flatMap_cons]
  refine Held.append_left (held.append_right ?_)
  rw [closed_flatMap]
  rintro ⟨later, listed, closes⟩
  exact kept later listed closes

end Brackets

/-! ### Programs which may raise -/

/-- The events of a program and the value it returns, or `none` where it raises. -/
structure Attempt (Event Value : Type) where
  events : List Event
  value : Option Value

namespace Attempt

variable {Event Value Result Item : Type}

def bind (program : Attempt Event Value) (next : Value → Attempt Event Result) :
    Attempt Event Result :=
  match program.value with
  | none => ⟨program.events, none⟩
  | some value => ⟨program.events ++ (next value).events, (next value).value⟩

instance monadAttempt : Monad (Attempt Event) where
  pure value := ⟨[], some value⟩
  bind := bind

/-- `[program(item) for item in items]`. -/
def comprehension (program : Item → Attempt Event Value) : List Item → Attempt Event (List Value)
  | [] => pure []
  | item :: items => do
      let value ← program item
      let values ← comprehension program items
      pure (value :: values)

theorem bind_some {program : Attempt Event Value} {next : Value → Attempt Event Result}
    {events : List Event} {value : Value} (returns : program = ⟨events, some value⟩) :
    program >>= next = ⟨events ++ (next value).events, (next value).value⟩ := by
  rw [returns]
  rfl

theorem bind_none {program : Attempt Event Value} {next : Value → Attempt Event Result}
    {events : List Event} (raises : program = ⟨events, none⟩) :
    program >>= next = ⟨events, none⟩ := by
  rw [raises]
  rfl

/-- A comprehension returns if its program returns for every item, and raises behind the items
before the first for which it raises. -/
theorem comprehension_cases (program : Item → Attempt Event Value) (items : List Item) :
    (∃ values, comprehension program items =
        ⟨items.flatMap fun item => (program item).events, some values⟩ ∧
          List.Forall₂ (fun item value => (program item).value = some value) items values) ∨
      ∃ front item back, items = front ++ item :: back ∧
        (∀ earlier ∈ front, (program earlier).value ≠ none) ∧ (program item).value = none ∧
          comprehension program items =
            ⟨(front.flatMap fun earlier => (program earlier).events) ++ (program item).events,
              none⟩ := by
  induction items with
  | nil => exact .inl ⟨[], rfl, .nil⟩
  | cons item items ih =>
      rcases outcome : program item with ⟨events, _ | value⟩
      · refine .inr ⟨[], item, items, rfl, by simp, by rw [outcome], ?_⟩
        rw [comprehension, bind_none outcome, outcome]
        rfl
      · rcases ih with ⟨values, rest, each⟩ | ⟨front, failing, back, rfl, returns, raises, rest⟩
        · refine .inl ⟨value :: values, ?_, .cons (by rw [outcome]) each⟩
          rw [comprehension, bind_some outcome, bind_some rest, List.flatMap_cons, outcome]
          exact congrArg₂ Attempt.mk (congrArg (events ++ ·) (List.append_nil _)) rfl
        · refine .inr ⟨item :: front, failing, back, rfl, ?_, raises, ?_⟩
          · intro earlier inside
            rcases List.mem_cons.mp inside with rfl | inside
            · rw [outcome]
              exact Option.some_ne_none value
            · exact returns earlier inside
          · rw [comprehension, bind_some outcome, bind_none rest, List.flatMap_cons, outcome,
              List.append_assoc]

theorem bind_pure (program : Attempt Event Value) (make : Value → Result) :
    (program >>= fun value => pure (make value)) = ⟨program.events, program.value.map make⟩ := by
  rcases outcome : program with ⟨events, _ | value⟩
  · exact bind_none rfl
  · rw [bind_some rfl]
    exact congrArg₂ Attempt.mk (List.append_nil events) rfl

theorem comprehension_returned {program : Item → Attempt Event Value} {items : List Item}
    {values : List Value} (returned : (comprehension program items).value = some values) :
    (comprehension program items).events = items.flatMap (fun item => (program item).events) ∧
      List.Forall₂ (fun item value => (program item).value = some value) items values := by
  rcases comprehension_cases program items with
    ⟨found, same, each⟩ | ⟨front, item, back, _, _, _, raised⟩
  · rw [same] at returned
    obtain rfl : found = values := Option.some.inj returned
    exact ⟨by rw [same], each⟩
  · rw [raised] at returned
    cases returned

/-- What a comprehension which returns holds, one of its values accounts for. -/
theorem held_values {Resource : Type} {brackets : Brackets Event Resource}
    {program : Item → Attempt Event Value} {items : List Item} {values : List Value}
    {resource : Resource} {Accounts : Value → Prop}
    (accounts : ∀ item value, (program item).value = some value →
      brackets.Held (program item).events resource → Accounts value)
    (returned : (comprehension program items).value = some values)
    (held : brackets.Held (comprehension program items).events resource) :
    ∃ value ∈ values, Accounts value := by
  obtain ⟨events, each⟩ := comprehension_returned returned
  rw [events] at held
  obtain ⟨item, listed, inside⟩ := held.flatMap
  obtain ⟨value, known, returns⟩ := (FallibleFold.partners each).1 item listed
  exact ⟨value, known, accounts item value returns inside⟩

/-- A comprehension over numbers raises behind the numbers below the one for which it raises. -/
theorem comprehension_range {program : ℕ → Attempt Event Value} {count : ℕ}
    (raised : (comprehension program (List.range count)).value = none) :
    ∃ i < count, (∀ j < i, (program j).value ≠ none) ∧ (program i).value = none ∧
      (comprehension program (List.range count)).events =
        ((List.range i).flatMap fun j => (program j).events) ++ (program i).events := by
  rcases comprehension_cases program (List.range count) with
    ⟨found, same, _⟩ | ⟨front, item, back, whole, returns, raises, same⟩
  · rw [same] at raised
    cases raised
  · have short : front.length < count := by
      have size := congrArg List.length whole
      simp only [List.length_range, List.length_append, List.length_cons] at size
      omega
    have place : item = front.length := by
      have found : (List.range count)[front.length]? = some item := by simp [whole]
      rw [List.getElem?_range short] at found
      exact (Option.some.inj found).symm
    have below : front = List.range item := by
      have taken := congrArg (List.take front.length) whole
      rw [List.take_left, List.take_range, Nat.min_eq_left (Nat.le_of_lt short)] at taken
      rw [place]
      exact taken.symm
    subst below
    refine ⟨item, place ▸ short,
      fun j smaller => returns j (List.mem_range.mpr smaller), raises, ?_⟩
    rw [same]

end Attempt
end HermOS
