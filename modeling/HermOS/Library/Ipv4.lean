import Mathlib.Algebra.Ring.Nat
import Mathlib.Data.List.Basic
import Mathlib.Data.Set.Lattice
import Mathlib.Order.CompletePartialOrder

/-!
# IPv4 addresses

An address is four octets, and a network is the addresses which agree with one of them on the first
bits.  Two networks of one size are equal or disjoint.
-/

namespace HermOS

/-- Four octets, the first one first. -/
structure Ipv4 where
  first : Fin 256
  second : Fin 256
  third : Fin 256
  fourth : Fin 256
  deriving DecidableEq

namespace Ipv4

def dotted (address : Ipv4) : String :=
  s!"{address.first}.{address.second}.{address.third}.{address.fourth}"

/-- The address as a number. -/
def value (address : Ipv4) : ℕ :=
  ((address.first * 256 + address.second) * 256 + address.third) * 256 + address.fourth

/-- The addresses which agree with one on the first bits. -/
def network (address : Ipv4) (bits : ℕ) : Set Ipv4 :=
  {other | other.value / 2 ^ (32 - bits) = address.value / 2 ^ (32 - bits)}

theorem mem_network_self (address : Ipv4) (bits : ℕ) : address ∈ address.network bits :=
  rfl

theorem network_eq_iff {left right : Ipv4} {bits : ℕ} :
    left.network bits = right.network bits ↔
      left.value / 2 ^ (32 - bits) = right.value / 2 ^ (32 - bits) := by
  constructor
  · intro same
    have inside : left ∈ right.network bits := same ▸ mem_network_self left bits
    exact inside
  · intro same
    simp only [network, same]

theorem network_disjoint {left right : Ipv4} {bits : ℕ}
    (apart : left.value / 2 ^ (32 - bits) ≠ right.value / 2 ^ (32 - bits)) :
    Disjoint (left.network bits) (right.network bits) := by
  rw [Set.disjoint_left]
  intro address on_left on_right
  exact apart (on_left.symm.trans on_right)

theorem toDigits_dot {m n : ℕ} {front back : List Char}
    (same : Nat.toDigits 10 m ++ '.' :: front = Nat.toDigits 10 n ++ '.' :: back) :
    m = n ∧ front = back := by
  have digits : ∀ k, ∀ c ∈ Nat.toDigits 10 k, decide (c ≠ '.') = true := by
    intro k c inside
    have digit := Nat.isDigit_of_mem_toDigits (by decide) (by decide) inside
    refine decide_eq_true ?_
    rintro rfl
    cases digit
  have before := congrArg (List.takeWhile (decide <| · ≠ '.')) same
  have behind := congrArg (List.dropWhile (decide <| · ≠ '.')) same
  simp only [List.takeWhile_append_of_pos (digits _), List.dropWhile_append_of_pos (digits _)]
    at before behind
  simp at before behind
  have numbers := congrArg (Nat.ofDigitChars 10 · 0) before
  simp only [Nat.ofDigitChars_ten_toDigits] at numbers
  exact ⟨numbers, behind⟩

theorem dotted_toList (address : Ipv4) :
    address.dotted.toList = Nat.toDigits 10 address.first ++ '.' ::
      (Nat.toDigits 10 address.second ++ '.' ::
        (Nat.toDigits 10 address.third ++ '.' :: Nat.toDigits 10 address.fourth)) := by
  have octet : ∀ n : Fin 256, toString n = String.ofList (Nat.toDigits 10 n) := fun n =>
    Nat.toString_eq_ofList_toDigits
  have dot : (toString ".").toList = ['.'] := rfl
  simp [dotted, octet, dot]

theorem dotted_injective : Function.Injective dotted := by
  intro left right same
  have chars := congrArg String.toList same
  rw [dotted_toList, dotted_toList] at chars
  obtain ⟨first, chars⟩ := toDigits_dot chars
  obtain ⟨second, chars⟩ := toDigits_dot chars
  obtain ⟨third, chars⟩ := toDigits_dot chars
  have fourth := congrArg (Nat.ofDigitChars 10 · 0) chars
  simp only [Nat.ofDigitChars_ten_toDigits] at fourth
  cases left
  cases right
  simp_all [Fin.ext_iff]

end Ipv4
end HermOS
