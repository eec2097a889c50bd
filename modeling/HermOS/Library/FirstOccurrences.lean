import Mathlib.Data.List.Induction

/-!
# First occurrences

`List.eraseDups` keeps the first occurrence of each element, as a loop with a set of seen elements
does: reading a list from the left, an element is appended exactly if it is new.
-/

namespace HermOS
namespace FirstOccurrences

variable {Item : Type*} [BEq Item] [LawfulBEq Item]

theorem eraseDups_concat (items : List Item) (item : Item) :
    (items ++ [item]).eraseDups =
      if item ∈ items then items.eraseDups else items.eraseDups ++ [item] := by
  rw [List.eraseDups_append]
  split
  next known => simp [List.removeAll, known]
  next fresh => simp [List.removeAll, fresh, List.eraseDups_cons]

theorem nodup_eraseDups (items : List Item) : items.eraseDups.Nodup := by
  induction items using List.reverseRecOn with
  | nil => simp
  | append_singleton items item ih =>
      rw [eraseDups_concat]
      split
      next => exact ih
      next fresh =>
        rw [List.nodup_append]
        refine ⟨ih, by simp, fun known inside other same => ?_⟩
        rintro rfl
        rw [List.mem_singleton] at same
        exact fresh (same ▸ List.mem_eraseDups.mp inside)

end FirstOccurrences
end HermOS
