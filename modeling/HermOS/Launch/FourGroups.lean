import HermOS.Library.Json

/-!
# The counts of the groups

`run_four_groups.py` writes the concurrency of a run into the config of every group, and a `finally`
writes the old counts back.  It remembers an old count as an `int` or as nothing, so that a config
gets its value back only when the count was an integer.
-/

namespace HermOS
namespace Launch

open Python (Text)

/-! ### One config -/

/-- A config as `json.load` reads it, or `none` where its text cannot be parsed. -/
abbrev Config :=
  Option Json

def countKey : Text := "count".toList

/-- `original == count`, where `floatIs` compares the float of a literal. -/
def equalsCount (floatIs : Text → ℤ → Bool) (count : ℤ) : Json → Bool
  | .int value => value = count
  | .bool value => (value.toNat : ℤ) = count
  | .float literal => floatIs literal count
  | _ => false

/-- An element of `originals`, without its path. -/
structure Original where
  count : Option ℤ
  changed : Bool

/-- `cfg["count"] = count`. -/
def setCount (fields : Json.Fields) (count : ℤ) : Json :=
  .obj (Json.assign countKey (.int count) fields)

/-- `update_count`: the value which it writes, if any, and its result.  It raises before it writes
when the config is no dictionary. -/
def updateCount (floatIs : Text → ℤ → Bool) (count : ℤ) : Config →
    Option (Option Json × Original)
  | some (.obj fields) =>
      let original := Json.get fields "count"
      let changed := !equalsCount floatIs count original
      some (if changed then some (setCount fields count) else none, ⟨original.asInt, changed⟩)
  | _ => none

/-- `restore_count` for an element of `originals`: the value which it writes, if any. -/
def restoreCount (original : Original) (config : Config) : Option (Option Json) :=
  if original.changed then
    match original.count with
    | none => some none
    | some count =>
        match config with
        | some (.obj fields) => some (some (setCount fields count))
        | _ => none
  else some none

/-! ### Both loops -/

/-- Where an exception strikes a call. -/
inductive Cut
  | unopened
  /-- While it is written: the closing brace is missing. -/
  | cutShort
  | written
  deriving DecidableEq

/-- What a call leaves of a config when an exception strikes it; one which ends has written. -/
def Cut.leaves (cut : Cut) (config : Config) : Option Json → Config
  | none => config
  | some value =>
      match cut with
      | .unopened => config
      | .cutShort => none
      | .written => some value

/-- An exception in a loop, if there is one: how many calls it lets end, and where it strikes the
next. -/
abbrev Interrupt :=
  Option (ℕ × Cut)

/-- Where the first call is struck. -/
def Interrupt.now : Interrupt → Cut
  | some (0, cut) => cut
  | _ => .written

/-- The exception as the calls behind the first see it. -/
def Interrupt.later : Interrupt → Interrupt
  | none => none
  | some (0, _) => some (0, .unopened)
  | some (calls + 1, cut) => some (calls, cut)

/-- The loop of updates: the configs and `originals`. -/
def updateAll (floatIs : Text → ℤ → Bool) (count : ℤ) (interrupt : Interrupt) :
    List Config → List Config × List Original
  | [] => ([], [])
  | config :: configs =>
      match updateCount floatIs count config with
      | none => (config :: configs, [])
      | some (written, original) =>
          let left := interrupt.now.leaves config written
          match interrupt with
          | some (0, _) => (left :: configs, [])
          | _ =>
              let rest := updateAll floatIs count interrupt.later configs
              (left :: rest.1, original :: rest.2)

/-- The loop of the `finally`. -/
def restoreAll (interrupt : Interrupt) : List Config → List Original → List Config
  | config :: configs, original :: originals =>
      match restoreCount original config with
      | none => config :: configs
      | some written =>
          interrupt.now.leaves config written :: restoreAll interrupt.later configs originals
  | configs, _ => configs

/-- The configs when `main` has finished.  The groups run between the loops and leave the configs
alone, whether they succeed, fail or raise. -/
def runFourGroups (floatIs : Text → ℤ → Bool) (count : ℤ) (updates restores : Interrupt)
    (configs : List Config) : List Config :=
  if count ≤ 0 then configs
  else
    let updated := updateAll floatIs count updates configs
    restoreAll restores updated.1 updated.2

/-! ### Where an exception strikes -/

/-- The call at an index ends. -/
def Interrupt.Ends (interrupt : Interrupt) (index : ℕ) : Prop :=
  ∀ calls cut, interrupt = some (calls, cut) → index < calls

/-- The call at an index opens its config for writing, if it writes. -/
def Interrupt.Opens (interrupt : Interrupt) (index : ℕ) : Prop :=
  ∀ calls cut, interrupt = some (calls, cut) → index < calls ∨ index = calls ∧ cut ≠ .unopened

/-- The call at an index writes all of its config, if it writes. -/
def Interrupt.Writes (interrupt : Interrupt) (index : ℕ) : Prop :=
  ∀ calls cut, interrupt = some (calls, cut) → index < calls ∨ index = calls ∧ cut = .written

namespace Interrupt

variable (interrupt : Interrupt) (index : ℕ)

theorem ends_later : interrupt.Ends (index + 1) ↔ interrupt.later.Ends index := by
  rcases interrupt with _ | ⟨_ | calls, cut⟩ <;> simp [Ends, later]

theorem opens_later : interrupt.Opens (index + 1) ↔ interrupt.later.Opens index := by
  rcases interrupt with _ | ⟨_ | calls, cut⟩ <;> simp [Opens, later]

theorem writes_later : interrupt.Writes (index + 1) ↔ interrupt.later.Writes index := by
  rcases interrupt with _ | ⟨_ | calls, cut⟩ <;> simp [Writes, later]

theorem writes_now : interrupt.Writes 0 ↔ interrupt.now = .written := by
  rcases interrupt with _ | ⟨_ | calls, cut⟩ <;> simp [Writes, now]

end Interrupt

/-! ### One config and its restoration -/

variable {floatIs : Text → ℤ → Bool} {count : ℤ} {fields : Json.Fields}

/-- The old count differs from the new one. -/
def Changes (floatIs : Text → ℤ → Bool) (count : ℤ) (fields : Json.Fields) : Prop :=
  equalsCount floatIs count (Json.get fields "count") = false

theorem setCount_eq_iff (fields : Json.Fields) (count : ℤ) :
    setCount fields count = .obj fields ↔ fields.lookup countKey = some (.int count) := by
  constructor
  · intro same
    have held := Json.lookup_assign countKey (.int count) fields
    rwa [Json.obj.inj same] at held
  · intro held
    rw [setCount, Json.assign_lookup held]

theorem get_count {value : Json} (held : fields.lookup countKey = some value) :
    Json.get fields "count" = value := by
  rw [Json.get, show "count".toList = countKey from rfl, held, Option.getD_some]

/-- A changed config is another one. -/
theorem setCount_ne (changes : Changes floatIs count fields) :
    setCount fields count ≠ .obj fields := by
  intro same
  have equal : equalsCount floatIs count (.int count) = true := decide_eq_true rfl
  rw [Changes, get_count ((setCount_eq_iff fields count).mp same), equal] at changes
  cases changes

theorem updateCount_unchanged (stays : ¬ Changes floatIs count fields) :
    updateCount floatIs count (some (.obj fields)) =
      some (none, ⟨(Json.get fields "count").asInt, false⟩) := by
  rw [Changes, Bool.not_eq_false] at stays
  simp [updateCount, stays]

theorem updateCount_changed (changes : Changes floatIs count fields) :
    updateCount floatIs count (some (.obj fields)) =
      some (some (setCount fields count), ⟨(Json.get fields "count").asInt, true⟩) := by
  rw [Changes] at changes
  simp [updateCount, changes]

/-- A changed config is restored when its count was an integer and the write ends. -/
theorem restored_iff (changes : Changes floatIs count fields) (interrupt : Interrupt) :
    ∃ written, restoreCount ⟨(Json.get fields "count").asInt, true⟩
        (some (setCount fields count)) = some written ∧
      (interrupt.now.leaves (some (setCount fields count)) written = some (.obj fields) ↔
        (∃ old, fields.lookup countKey = some (.int old)) ∧ interrupt.Writes 0) := by
  have other : some (setCount fields count) ≠ some (Json.obj fields) := fun same =>
    setCount_ne changes (Option.some.inj same)
  cases known : (Json.get fields "count").asInt with
  | none =>
      refine ⟨none, rfl, iff_of_false other ?_⟩
      rintro ⟨⟨old, held⟩, _⟩
      rw [get_count held] at known
      cases known
  | some old =>
      refine ⟨some (setCount fields old), ?_, ?_⟩
      · simp [restoreCount, setCount, Json.assign_assign]
      · rw [Interrupt.writes_now]
        have whole : some (setCount fields old) = some (Json.obj fields) ↔
            ∃ old, fields.lookup countKey = some (.int old) := by
          rw [Option.some_inj, setCount_eq_iff]
          constructor
          · exact fun held => ⟨old, held⟩
          · rintro ⟨value, held⟩
            rw [get_count held] at known
            cases known
            exact held
        cases interrupt.now with
        | unopened => exact iff_of_false other (by simp)
        | cutShort => exact iff_of_false nofun (by simp)
        | written => simpa [Cut.leaves] using whole

/-! ### All configs -/

/-- The updates open the config at an index for writing: it and those before it are dictionaries,
its count changes, and no exception strikes before. -/
structure Rewrites (floatIs : Text → ℤ → Bool) (count : ℤ) (updates : Interrupt)
    (initial : List Json) (index : ℕ) (fields : Json.Fields) : Prop where
  here : initial[index]? = some (.obj fields)
  before : ∀ earlier < index, ∃ fields, initial[earlier]? = some (.obj fields)
  changes : Changes floatIs count fields
  opens : updates.Opens index

/-- Every config which was rewritten had an integer for a count, was noted in `originals`, and is
written back before an exception strikes the `finally`. -/
def Restorable (floatIs : Text → ℤ → Bool) (count : ℤ) (updates restores : Interrupt)
    (initial : List Json) : Prop :=
  ∀ index fields, Rewrites floatIs count updates initial index fields →
    (∃ old, fields.lookup countKey = some (.int old)) ∧ updates.Ends index ∧ restores.Writes index

variable {updates restores : Interrupt} {config : Json} {initial : List Json}

theorem rewrites_zero : Rewrites floatIs count updates (config :: initial) 0 fields ↔
    config = .obj fields ∧ Changes floatIs count fields ∧ updates.Opens 0 := by
  constructor
  · intro rewrites
    exact ⟨by simpa using rewrites.here, rewrites.changes, rewrites.opens⟩
  · rintro ⟨rfl, changes, opens⟩
    exact ⟨rfl, nofun, changes, opens⟩

theorem rewrites_succ {index : ℕ} :
    Rewrites floatIs count updates (config :: initial) (index + 1) fields ↔
      (∃ first, config = .obj first) ∧
        Rewrites floatIs count updates.later initial index fields := by
  constructor
  · intro rewrites
    obtain ⟨first, same⟩ := rewrites.before 0 (Nat.succ_pos index)
    refine ⟨⟨first, by simpa using same⟩, by simpa using rewrites.here, fun earlier below => ?_,
      rewrites.changes, (updates.opens_later index).mp rewrites.opens⟩
    simpa using rewrites.before (earlier + 1) (Nat.succ_lt_succ below)
  · rintro ⟨⟨first, rfl⟩, rewrites⟩
    refine ⟨by simpa using rewrites.here, fun earlier below => ?_, rewrites.changes,
      (updates.opens_later index).mpr rewrites.opens⟩
    cases earlier with
    | zero => exact ⟨first, rfl⟩
    | succ earlier => simpa using rewrites.before earlier (Nat.lt_of_succ_lt_succ below)

theorem restorable_cons : Restorable floatIs count updates restores (.obj fields :: initial) ↔
    (Changes floatIs count fields → updates.Opens 0 →
        (∃ old, fields.lookup countKey = some (.int old)) ∧ updates.Ends 0 ∧ restores.Writes 0) ∧
      Restorable floatIs count updates.later restores.later initial := by
  constructor
  · intro restorable
    refine ⟨fun changes opens => restorable 0 fields (rewrites_zero.mpr ⟨rfl, changes, opens⟩),
      fun index other rewrites => ?_⟩
    have next := restorable (index + 1) other (rewrites_succ.mpr ⟨⟨fields, rfl⟩, rewrites⟩)
    rwa [updates.ends_later, restores.writes_later] at next
  · rintro ⟨first, rest⟩ index other rewrites
    cases index with
    | zero =>
        obtain ⟨same, changes, opens⟩ := rewrites_zero.mp rewrites
        cases same
        exact first changes opens
    | succ index =>
        rw [updates.ends_later, restores.writes_later]
        exact rest index other (rewrites_succ.mp rewrites).2

/-- A config which is no dictionary ends the updates. -/
theorem restorable_of_not_obj (none : ∀ fields, config ≠ .obj fields) :
    Restorable floatIs count updates restores (config :: initial) := by
  intro index fields rewrites
  cases index with
  | zero => exact absurd (rewrites_zero.mp rewrites).1 (none fields)
  | succ index =>
      obtain ⟨first, same⟩ := (rewrites_succ.mp rewrites).1
      exact absurd same (none first)

theorem restorable_of_unopened :
    Restorable floatIs count (some (0, .unopened)) restores initial := by
  intro index fields rewrites
  have opened := rewrites.opens 0 .unopened rfl
  simp at opened

theorem restoreAll_nil (interrupt : Interrupt) (configs : List Config) :
    restoreAll interrupt configs [] = configs := by
  cases configs <;> rfl

/-- An update which ends is followed by the next. -/
theorem updateAll_next {config : Config} {configs : List Config} {written : Option Json}
    {original : Original} (ends : updates.Ends 0)
    (update : updateCount floatIs count config = some (written, original)) :
    updateAll floatIs count updates (config :: configs) =
      (Cut.written.leaves config written ::
          (updateAll floatIs count updates.later configs).1,
        original :: (updateAll floatIs count updates.later configs).2) := by
  rw [updateAll, update]
  rcases updates with _ | ⟨_ | calls, cut⟩
  · rfl
  · exact absurd (ends 0 cut rfl) (Nat.lt_irrefl 0)
  · rfl

/-- An update which an exception strikes is the last one, and is not noted. -/
theorem updateAll_stop {cut : Cut} {config : Config} {configs : List Config}
    {written : Option Json} {original : Original}
    (update : updateCount floatIs count config = some (written, original)) :
    updateAll floatIs count (some (0, cut)) (config :: configs) =
      (cut.leaves config written :: configs, []) := by
  rw [updateAll, update]
  rfl

def bothLoops (floatIs : Text → ℤ → Bool) (count : ℤ) (updates restores : Interrupt)
    (configs : List Config) : List Config :=
  restoreAll restores (updateAll floatIs count updates configs).1
    (updateAll floatIs count updates configs).2

theorem bothLoops_next (ends : updates.Ends 0) :
    bothLoops floatIs count updates restores (some (.obj fields) :: initial.map some) =
        some (.obj fields) :: initial.map some ↔
      (Changes floatIs count fields →
          (∃ old, fields.lookup countKey = some (.int old)) ∧ restores.Writes 0) ∧
        bothLoops floatIs count updates.later restores.later (initial.map some) =
          initial.map some := by
  by_cases changes : Changes floatIs count fields
  · obtain ⟨written, restore, restored⟩ := restored_iff changes restores
    have left : bothLoops floatIs count updates restores
        (some (.obj fields) :: initial.map some) =
          restores.now.leaves (some (setCount fields count)) written ::
            bothLoops floatIs count updates.later restores.later (initial.map some) := by
      rw [bothLoops, updateAll_next ends (updateCount_changed changes), restoreAll,
        Cut.leaves, restore]
      rfl
    rw [left, List.cons_eq_cons, restored]
    simp [changes]
  · have left : bothLoops floatIs count updates restores
        (some (.obj fields) :: initial.map some) = some (.obj fields) ::
          bothLoops floatIs count updates.later restores.later (initial.map some) := by
      rw [bothLoops, updateAll_next ends (updateCount_unchanged changes)]
      rfl
    rw [left, List.cons_eq_cons]
    simp [changes]

theorem bothLoops_stop (cut : Cut) :
    bothLoops floatIs count (some (0, cut)) restores (some (.obj fields) :: initial.map some) =
        some (.obj fields) :: initial.map some ↔
      (Changes floatIs count fields → cut = .unopened) := by
  by_cases changes : Changes floatIs count fields
  · have other : some (setCount fields count) ≠ some (Json.obj fields) := fun same =>
      setCount_ne changes (Option.some.inj same)
    rw [bothLoops, updateAll_stop (updateCount_changed changes), restoreAll_nil, List.cons_eq_cons]
    cases cut with
    | unopened => simp [Cut.leaves]
    | cutShort => simp [Cut.leaves, changes]
    | written => simpa [Cut.leaves, changes] using other
  · rw [bothLoops, updateAll_stop (updateCount_unchanged changes), restoreAll_nil]
    simp [Cut.leaves, changes]

/-- The configs behind both loops are the initial ones when all are restorable. -/
theorem bothLoops_iff (floatIs : Text → ℤ → Bool) (count : ℤ) (updates restores : Interrupt)
    (initial : List Json) :
    bothLoops floatIs count updates restores (initial.map some) = initial.map some ↔
      Restorable floatIs count updates restores initial := by
  induction initial generalizing updates restores with
  | nil => exact iff_of_true rfl fun index fields rewrites => by cases rewrites.here
  | cons config initial ih =>
      rw [List.map_cons]
      by_cases dictionary : ∃ fields, config = .obj fields
      · obtain ⟨fields, rfl⟩ := dictionary
        rw [restorable_cons]
        by_cases ends : updates.Ends 0
        · have opens : updates.Opens 0 := fun calls cut same => .inl (ends calls cut same)
          rw [bothLoops_next ends, ih]
          simp [ends, opens]
        · simp only [Interrupt.Ends, not_forall] at ends
          obtain ⟨calls, cut, rfl, first⟩ := ends
          obtain rfl : calls = 0 := by omega
          rw [bothLoops_stop]
          have stopped : Restorable floatIs count (Interrupt.later (some (0, cut)))
              restores.later initial := restorable_of_unopened
          simp [Interrupt.Opens, Interrupt.Ends, stopped]
      · have none : ∀ fields, config ≠ .obj fields := fun fields same => dictionary ⟨fields, same⟩
        have update : updateCount floatIs count (some config) = Option.none := by
          cases config with
          | obj fields => exact absurd rfl (none fields)
          | _ => rfl
        refine iff_of_true ?_ (restorable_of_not_obj none)
        rw [bothLoops, updateAll, update]
        exact restoreAll_nil _ _

/-- `main` leaves every config as it was exactly when it can restore what it has rewritten. -/
theorem runFourGroups_iff (positive : 0 < count) (initial : List Json) :
    runFourGroups floatIs count updates restores (initial.map some) = initial.map some ↔
      Restorable floatIs count updates restores initial := by
  have run : runFourGroups floatIs count updates restores (initial.map some) =
      bothLoops floatIs count updates restores (initial.map some) :=
        if_neg (Int.not_le.mpr positive)
  rw [run]
  exact bothLoops_iff floatIs count updates restores initial

def countedConfig : Json := .obj [(countKey, .int 1)]

def plainConfig : Json := .obj [("mem".toList, .int 1)]

theorem runFourGroups_counted :
    runFourGroups (fun _ _ => false) 4 none none ([countedConfig].map some) =
        [countedConfig].map some ↔
      Restorable (fun _ _ => false) 4 none none [countedConfig] :=
  runFourGroups_iff (by decide) [countedConfig]

/-- A config without a count is not restored, even if nothing goes wrong. -/
theorem not_runFourGroups :
    ¬ ∀ (floatIs : Text → ℤ → Bool) (count : ℤ) (updates restores : Interrupt)
      (initial : List Json), 0 < count →
        runFourGroups floatIs count updates restores (initial.map some) = initial.map some := by
  intro all
  have restored := all (fun _ _ => false) 4 none none [plainConfig] (by decide)
  have left : runFourGroups (fun _ _ => false) 4 none none ([plainConfig].map some) =
      [some (.obj [("mem".toList, .int 1), (countKey, .int 4)])] := rfl
  rw [left] at restored
  cases restored

end Launch
end HermOS
