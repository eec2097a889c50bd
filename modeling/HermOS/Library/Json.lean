import HermOS.Library.PythonText
import Mathlib.Data.List.Nodup

/-!
# JSON values

What `json.loads` makes of a text, and how a program that does not trust its input looks at it: a
missing key reads as `None`, and every other look is guarded by `isinstance`.
-/

namespace HermOS

open Python (Text)

/-- A value read by `json.loads`; an object lists each of its keys once. -/
inductive Json
  | null
  | bool (value : Bool)
  | int (value : ℤ)
  | float (literal : Text)
  | str (text : Text)
  | arr (items : List Json)
  | obj (fields : List (Text × Json))

namespace Json

/-- The items of a `dict`. -/
abbrev Fields :=
  List (Text × Json)

def get (fields : Fields) (key : String) : Json :=
  (fields.lookup key.toList).getD .null

/-- `fields.get(key, default)`. -/
def getOr (fields : Fields) (key : String) (default : Json) : Json :=
  (fields.lookup key.toList).getD default

/-- `bool(value)`, where `floatIs` compares the float of a literal. -/
def truthy (floatIs : Text → ℤ → Bool) : Json → Bool
  | .null => false
  | .bool value => value
  | .int value => value ≠ 0
  | .float literal => !floatIs literal 0
  | .str text => !text.isEmpty
  | .arr items => !items.isEmpty
  | .obj fields => !fields.isEmpty

/-- The value, if it is a `str`. -/
def asStr : Json → Option Text
  | .str text => some text
  | _ => none

/-- The value, if it is an `int`; a `bool` is one. -/
def asInt : Json → Option ℤ
  | .int value => some value
  | .bool value => some value.toNat
  | _ => none

/-- The value, if it is a `dict`. -/
def asObj : Json → Option Fields
  | .obj fields => some fields
  | _ => none

/-- The value, if it is a `list`. -/
def asArr : Json → Option (List Json)
  | .arr items => some items
  | _ => none

/-- The value can be looked up in a `set`. -/
def hashable : Json → Bool
  | .arr _ | .obj _ => false
  | _ => true

/-- The fields after `fields[key] = value`; a new key comes last. -/
def assign (key : Text) (value : Json) : Fields → Fields
  | [] => [(key, value)]
  | field :: fields =>
      if field.1 = key then (key, value) :: fields else field :: assign key value fields

theorem lookup_assign (key : Text) (value : Json) (fields : Fields) :
    (assign key value fields).lookup key = some value := by
  induction fields with
  | nil => simp [assign]
  | cons field fields ih =>
      rw [assign]
      split
      next => simp
      next other =>
        have apart : (key == field.1) = false := beq_eq_false_iff_ne.mpr (Ne.symm other)
        obtain ⟨name, held⟩ := field
        rw [List.lookup_cons, apart]
        exact ih

/-- The last assignment counts. -/
theorem assign_assign (key : Text) (value later : Json) (fields : Fields) :
    assign key later (assign key value fields) = assign key later fields := by
  induction fields with
  | nil => simp [assign]
  | cons field fields ih =>
      by_cases same : field.1 = key
      · simp [assign, same]
      · simp [assign, same, ih]

/-- Assigning the value which is there changes nothing. -/
theorem assign_lookup {key : Text} {value : Json} {fields : Fields}
    (held : fields.lookup key = some value) : assign key value fields = fields := by
  induction fields with
  | nil => cases held
  | cons field fields ih =>
      obtain ⟨name, old⟩ := field
      rw [assign]
      split
      next same =>
        subst same
        rw [List.lookup_cons, beq_self_eq_true] at held
        cases held
        rfl
      next other =>
        have apart : (key == name) = false := beq_eq_false_iff_ne.mpr (Ne.symm other)
        rw [List.lookup_cons, apart] at held
        rw [ih held]

theorem assign_new {key : Text} {fields : Fields} (new : key ∉ fields.map Prod.fst)
    (value : Json) : assign key value fields = fields ++ [(key, value)] := by
  induction fields with
  | nil => rfl
  | cons field fields ih =>
      rw [List.map_cons, List.mem_cons, not_or] at new
      rw [assign, if_neg (Ne.symm new.1), ih new.2, List.cons_append]

/-- Pairs with new keys come last, in their order. -/
theorem foldl_assign (value : Text → Json) {pairs : List (Text × Text)} {fields : Fields}
    (distinct : (fields.map Prod.fst ++ pairs.map Prod.fst).Nodup) :
    pairs.foldl (fun result pair => assign pair.1 (value pair.2) result) fields =
      fields ++ pairs.map fun pair => (pair.1, value pair.2) := by
  induction pairs generalizing fields with
  | nil => simp
  | cons pair pairs ih =>
      have new : pair.1 ∉ fields.map Prod.fst := fun inside =>
        (List.disjoint_of_nodup_append distinct) inside (by simp)
      have later : ((fields ++ [(pair.1, value pair.2)]).map Prod.fst ++
          pairs.map Prod.fst).Nodup := by
        simpa using distinct
      rw [List.foldl_cons, assign_new new, ih later]
      simp

end Json
end HermOS
