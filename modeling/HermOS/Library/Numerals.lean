import Mathlib.Algebra.Order.Ring.Nat
import Mathlib.Data.List.Basic
import Mathlib.Data.Nat.Basic

/-!
# Positional numerals

`Nat.toDigits` prints a number without leading zeros.  Printing is injective, and a positive numeral
followed by another one is the numeral of the number which is shifted by the length of the second.
Hence two such pairs of numerals can only be confused if their second numerals differ in length.
-/

namespace HermOS
namespace Numerals

variable {base : ℕ}

/-- The number of digits of a numeral. -/
def width (base n : ℕ) : ℕ :=
  (Nat.toDigits base n).length

theorem width_pos (base n : ℕ) : 0 < width base n :=
  Nat.length_toDigits_pos

theorem lt_pow_width (large : 1 < base) (n : ℕ) : n < base ^ width base n :=
  (Nat.length_toDigits_le_iff large (width_pos base n)).mp (Nat.le_refl _)

theorem width_le_iff (large : 1 < base) {n count : ℕ} (positive : 0 < count) :
    width base n ≤ count ↔ n < base ^ count :=
  Nat.length_toDigits_le_iff large positive

theorem digitChar_injective {m n : ℕ} (m_digit : m < 16) (n_digit : n < 16)
    (same : Nat.digitChar m = Nat.digitChar n) : m = n := by
  have table : ∀ m : Fin 16, ∀ n : Fin 16, Nat.digitChar m = Nat.digitChar n → m = n := by decide
  exact congrArg Fin.val (table ⟨m, m_digit⟩ ⟨n, n_digit⟩ same)

/-- Different numbers have different numerals. -/
theorem toDigits_injective (large : 1 < base) (small : base ≤ 16) :
    Function.Injective (Nat.toDigits base) := by
  intro m n same
  induction m using Nat.strongRecOn generalizing n with
  | _ m ih =>
      have digit : ∀ k, k % base < 16 := fun k =>
        Nat.lt_of_lt_of_le (Nat.mod_lt k (Nat.lt_of_succ_lt large)) small
      rcases Nat.lt_or_ge m base with m_digit | m_long <;>
        rcases Nat.lt_or_ge n base with n_digit | n_long
      · rw [Nat.toDigits_of_lt_base m_digit, Nat.toDigits_of_lt_base n_digit] at same
        exact digitChar_injective (Nat.lt_of_lt_of_le m_digit small)
          (Nat.lt_of_lt_of_le n_digit small) (List.singleton_inj.mp same)
      · rw [Nat.toDigits_of_lt_base m_digit, Nat.toDigits_of_base_le large n_long] at same
        have length := congrArg List.length same
        simp [Nat.toDigits_ne_nil] at length
      · rw [Nat.toDigits_of_base_le large m_long, Nat.toDigits_of_lt_base n_digit] at same
        have length := congrArg List.length same
        simp [Nat.toDigits_ne_nil] at length
      · rw [Nat.toDigits_of_base_le large m_long, Nat.toDigits_of_base_le large n_long] at same
        obtain ⟨front, last⟩ := List.append_inj' same rfl
        have quotients : m / base = n / base := by
          apply ih _ _ front
          exact Nat.div_lt_self (Nat.lt_of_lt_of_le (Nat.lt_of_succ_lt large) m_long) large
        have remainders : m % base = n % base :=
          digitChar_injective (digit m) (digit n) (List.singleton_inj.mp last)
        rw [← Nat.div_add_mod m base, ← Nat.div_add_mod n base, quotients, remainders]

/-- A positive numeral followed by another one is a numeral. -/
theorem toDigits_append (large : 1 < base) {a : ℕ} (positive : 0 < a) (m : ℕ) :
    Nat.toDigits base a ++ Nat.toDigits base m =
      Nat.toDigits base (a * base ^ width base m + m) := by
  induction m using Nat.strongRecOn with
  | _ m ih =>
      rcases Nat.lt_or_ge m base with digit | long
      · have single : width base m = 1 := by rw [width, Nat.toDigits_of_lt_base digit]; rfl
        rw [Nat.toDigits_append_toDigits large positive digit, single, Nat.pow_one, Nat.mul_comm]
      · have base_pos : 0 < base := Nat.lt_of_succ_lt large
        have last : m % base < base := Nat.mod_lt m base_pos
        have wider : width base m = width base (m / base) + 1 := by
          rw [width, Nat.toDigits_of_base_le large long, List.length_append]
          rfl
        have shorter := ih (m / base) (Nat.div_lt_self (Nat.lt_of_lt_of_le base_pos long) large)
        have shifted : 0 < a * base ^ width base (m / base) + m / base :=
          Nat.add_pos_left (Nat.mul_pos positive (Nat.pow_pos base_pos)) _
        have value : base * (a * base ^ width base (m / base) + m / base) + m % base =
            a * base ^ width base m + m := by
          rw [wider, Nat.pow_succ, Nat.mul_add, Nat.add_assoc, Nat.div_add_mod, ← Nat.mul_assoc a,
            Nat.mul_comm base (a * _)]
        rw [Nat.toDigits_of_base_le large long, ← List.append_assoc, shorter,
          ← Nat.toDigits_of_lt_base last, Nat.toDigits_append_toDigits large shifted last, value]

/-- Only the numeral of zero begins with a zero. -/
theorem head?_toDigits (large : 1 < base) (small : base ≤ 16) {n : ℕ} (positive : 0 < n) :
    (Nat.toDigits base n).head? ≠ some '0' := by
  induction n using Nat.strongRecOn with
  | _ n ih =>
      rcases Nat.lt_or_ge n base with digit | long
      · rw [Nat.toDigits_of_lt_base digit, List.head?_cons]
        intro zero
        exact Nat.ne_of_gt positive
          (digitChar_injective (Nat.lt_of_lt_of_le digit small) (by decide) (Option.some.inj zero))
      · have base_pos : 0 < base := Nat.lt_of_succ_lt large
        rw [Nat.toDigits_of_base_le large long,
          List.head?_append_of_ne_nil (Nat.toDigits base (n / base)) Nat.toDigits_ne_nil]
        exact ih (n / base) (Nat.div_lt_self positive large) (Nat.div_pos long base_pos)

/-! ### Pairs of numerals -/

/-- The second numeral of a pair is the end of a longer one, and the other pair has the rest of it
at the end of its first numeral. -/
def Overlaps (base short long a b : ℕ) : Prop :=
  width base short < width base long ∧ long % base ^ width base short = short ∧ 0 < b ∧
    a = b * base ^ (width base long - width base short) + long / base ^ width base short

instance (base short long a b : ℕ) : Decidable (Overlaps base short long a b) :=
  inferInstanceAs (Decidable (_ ∧ _))

theorem Overlaps.append_eq (large : 1 < base) {short long a b : ℕ}
    (overlaps : Overlaps base short long a b) :
    Nat.toDigits base a ++ Nat.toDigits base short =
      Nat.toDigits base b ++ Nat.toDigits base long := by
  obtain ⟨wider, ends, positive, shifted⟩ := overlaps
  have base_pos : 0 < base := Nat.lt_of_succ_lt large
  have a_pos : 0 < a := by
    rw [shifted]
    exact Nat.add_pos_left (Nat.mul_pos positive (Nat.pow_pos base_pos)) _
  have powers : base ^ (width base long - width base short) * base ^ width base short =
      base ^ width base long := by
    rw [← Nat.pow_add, Nat.sub_add_cancel (Nat.le_of_lt wider)]
  have value : a * base ^ width base short + short = b * base ^ width base long + long := by
    calc
      a * base ^ width base short + short =
          b * base ^ width base long +
            (base ^ width base short * (long / base ^ width base short) +
              long % base ^ width base short) := by
        rw [shifted, Nat.add_mul, Nat.mul_assoc, powers, ends, Nat.add_assoc,
          Nat.mul_comm (long / _)]
      _ = b * base ^ width base long + long := by rw [Nat.div_add_mod]
  rw [toDigits_append large a_pos, toDigits_append large positive, value]

theorem overlaps_of_shifted_eq (large : 1 < base) {m n a b : ℕ} (different : m ≠ n)
    (positive : 0 < b) (narrow : width base m ≤ width base n)
    (same : a * base ^ width base m + m = b * base ^ width base n + n) :
    Overlaps base m n a b := by
  have m_lt := lt_pow_width large m
  have powers : base ^ width base n =
      base ^ (width base n - width base m) * base ^ width base m := by
    rw [← Nat.pow_add, Nat.sub_add_cancel narrow]
  have ends : n % base ^ width base m = m := by
    have remainder := congrArg (· % base ^ width base m) same
    simp only [powers, ← Nat.mul_assoc, Nat.mul_add_mod_self_right, Nat.mod_eq_of_lt m_lt]
      at remainder
    exact remainder.symm
  have quotient : a = b * base ^ (width base n - width base m) + n / base ^ width base m := by
    have unit : 0 < base ^ width base m := Nat.pow_pos (Nat.lt_of_succ_lt large)
    have divided := congrArg (· / base ^ width base m) same
    simp only [powers, ← Nat.mul_assoc, Nat.add_comm (_ * base ^ width base m),
      Nat.add_mul_div_right _ _ unit, Nat.div_eq_of_lt m_lt, Nat.zero_add] at divided
    rw [divided, Nat.add_comm]
  have wider : width base m < width base n := by
    refine Nat.lt_of_le_of_ne narrow fun equal => different ?_
    rw [equal, Nat.mod_eq_of_lt (lt_pow_width large n)] at ends
    exact ends.symm
  exact ⟨wider, ends, positive, quotient⟩

/-- No pair which begins with zero is another pair. -/
theorem zero_append_ne (large : 1 < base) (small : base ≤ 16) {m n b : ℕ} (positive : 0 < b) :
    Nat.toDigits base 0 ++ Nat.toDigits base m ≠ Nat.toDigits base b ++ Nat.toDigits base n := by
  intro same
  have heads := congrArg List.head? same
  rw [Nat.toDigits_zero, List.head?_append_of_ne_nil (Nat.toDigits base b) Nat.toDigits_ne_nil]
    at heads
  exact head?_toDigits large small positive heads.symm

/-- Two pairs whose second numerals differ are confused exactly if one overlaps the other. -/
theorem append_eq_append_iff (large : 1 < base) (small : base ≤ 16) {m n : ℕ} (different : m ≠ n)
    (a b : ℕ) :
    Nat.toDigits base a ++ Nat.toDigits base m = Nat.toDigits base b ++ Nat.toDigits base n ↔
      Overlaps base m n a b ∨ Overlaps base n m b a := by
  constructor
  · intro same
    rcases Nat.eq_zero_or_pos a with rfl | a_pos <;> rcases Nat.eq_zero_or_pos b with rfl | b_pos
    · exact absurd (toDigits_injective large small (List.append_cancel_left same)) different
    · exact absurd same (zero_append_ne large small b_pos)
    · exact absurd same.symm (zero_append_ne large small a_pos)
    · rw [toDigits_append large a_pos, toDigits_append large b_pos] at same
      have value := toDigits_injective large small same
      rcases Nat.le_total (width base m) (width base n) with narrow | narrow
      · exact .inl (overlaps_of_shifted_eq large different b_pos narrow value)
      · exact .inr (overlaps_of_shifted_eq large different.symm a_pos narrow value.symm)
  · rintro (overlaps | overlaps)
    · exact overlaps.append_eq large
    · exact (overlaps.append_eq large).symm

end Numerals
end HermOS
