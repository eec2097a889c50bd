import Mathlib.Data.List.Basic
import Mathlib.Algebra.Group.Nat.Defs

/-!
# Text encodings

UTF-8, Latin-1 and ASCII between characters and bytes.  A byte below 128 in UTF-8 is an ASCII
character of the text, so an ASCII separator is in the bytes only if it is in the text, and decoding
UTF-8 as Latin-1 keeps ASCII text.
-/

namespace HermOS
namespace Codec

/-- The UTF-8 encoding of a text. -/
def utf8 (text : List Char) : List UInt8 :=
  text.flatMap String.utf8EncodeChar

/-- The text whose UTF-8 encoding is given. -/
def fromUtf8 (bytes : List UInt8) : Option (List Char) :=
  bytes.toByteArray.utf8Decode?.map Array.toList

/-- The Latin-1 decoding of bytes. -/
def fromLatin1 (bytes : List UInt8) : List Char :=
  bytes.map Char.ofUInt8

/-- Text of ASCII characters. -/
def Ascii (text : List Char) : Prop :=
  ∀ c ∈ text, c.toNat < 128

instance (text : List Char) : Decidable (Ascii text) :=
  List.decidableBAll (fun c : Char => c.toNat < 128) text

def ascii (text : List Char) : List UInt8 :=
  text.map fun c => UInt8.ofNat c.toNat

variable {text front back : List Char}

@[simp]
theorem utf8_append : utf8 (front ++ back) = utf8 front ++ utf8 back :=
  List.flatMap_append

@[simp]
theorem fromLatin1_append {front back : List UInt8} :
    fromLatin1 (front ++ back) = fromLatin1 front ++ fromLatin1 back :=
  List.map_append

theorem fromUtf8_utf8 (text : List Char) : fromUtf8 (utf8 text) = some text := by
  have encoded : (utf8 text).toByteArray = text.utf8Encode := rfl
  rw [fromUtf8, encoded, List.utf8Decode?_utf8Encode]
  rfl

theorem ascii_append (front_ascii : Ascii front) (back_ascii : Ascii back) :
    Ascii (front ++ back) := by
  intro c inside
  rcases List.mem_append.mp inside with early | late
  · exact front_ascii c early
  · exact back_ascii c late

theorem utf8EncodeChar_ascii {c : Char} (small : c.toNat < 128) :
    String.utf8EncodeChar c = [UInt8.ofNat c.toNat] := by
  have small : c.val.toNat ≤ 127 := Nat.le_of_lt_succ small
  simp only [String.utf8EncodeChar, small, if_true]
  rfl

/-- A byte below 128 is the only byte of its character. -/
theorem utf8EncodeChar_byte {c : Char} {byte : UInt8} (inside : byte ∈ String.utf8EncodeChar c)
    (small : byte.toNat < 128) : c.toNat = byte.toNat := by
  have size : c.val.toNat < 0x110000 := by
    rcases c.valid with low | ⟨_, high⟩
    · exact Nat.lt_trans low (by decide)
    · exact high
  have same : c.toNat = c.val.toNat := rfl
  simp only [String.utf8EncodeChar] at inside
  split at inside
  next one =>
    rw [List.mem_singleton] at inside
    rw [inside, same, UInt8.toNat_ofNat']
    omega
  next =>
    -- every byte of a longer encoding has its top bit set
    exfalso
    split at inside
    next =>
      simp only [List.mem_cons, List.not_mem_nil, or_false] at inside
      rcases inside with rfl | rfl <;> rw [UInt8.toNat_ofNat'] at small <;> omega
    next =>
      split at inside
      next =>
        simp only [List.mem_cons, List.not_mem_nil, or_false] at inside
        rcases inside with rfl | rfl | rfl <;> rw [UInt8.toNat_ofNat'] at small <;> omega
      next =>
        simp only [List.mem_cons, List.not_mem_nil, or_false] at inside
        rcases inside with rfl | rfl | rfl | rfl <;> rw [UInt8.toNat_ofNat'] at small <;> omega

theorem mem_utf8 {byte : UInt8} (inside : byte ∈ utf8 text) (small : byte.toNat < 128) :
    ∃ c ∈ text, c.toNat = byte.toNat := by
  obtain ⟨c, member, inside⟩ := List.mem_flatMap.mp inside
  exact ⟨c, member, utf8EncodeChar_byte inside small⟩

theorem not_mem_utf8 {c : Char} (free : c ∉ text) (small : c.toNat < 128) :
    UInt8.ofNat c.toNat ∉ utf8 text := by
  intro inside
  have value : (UInt8.ofNat c.toNat).toNat = c.toNat := by
    rw [UInt8.toNat_ofNat']
    omega
  obtain ⟨d, member, same⟩ := mem_utf8 inside (by rw [value]; exact small)
  have : d = c := Char.ext (UInt32.toNat.inj (same.trans value))
  exact free (this ▸ member)

theorem utf8_ascii (small : Ascii text) : utf8 text = ascii text := by
  induction text with
  | nil => rfl
  | cons c text ih =>
      have later := ih fun d inside => small d (by simp [inside])
      rw [utf8, List.flatMap_cons, utf8EncodeChar_ascii (small c (by simp))]
      rw [utf8] at later
      rw [later]
      rfl

theorem fromLatin1_ascii (small : Ascii text) : fromLatin1 (ascii text) = text := by
  have each : ∀ c ∈ text, (Char.ofUInt8 ∘ fun c => UInt8.ofNat c.toNat) c = c := by
    intro c inside
    have bound := small c inside
    apply Char.ext
    apply UInt32.toNat.inj
    show (UInt8.ofNat c.toNat).toUInt32.toNat = c.toNat
    rw [UInt8.toNat_toUInt32, UInt8.toNat_ofNat']
    omega
  rw [fromLatin1, ascii, List.map_map, List.map_congr_left each, List.map_id']

theorem fromLatin1_utf8 (small : Ascii text) : fromLatin1 (utf8 text) = text := by
  rw [utf8_ascii small, fromLatin1_ascii small]

/-- An ASCII character seen after decoding UTF-8 as Latin-1 is a character of the text. -/
theorem mem_fromLatin1_utf8 {c : Char} (inside : c ∈ fromLatin1 (utf8 text))
    (small : c.toNat < 128) : c ∈ text := by
  obtain ⟨byte, member, rfl⟩ := List.mem_map.mp inside
  have same : (Char.ofUInt8 byte).toNat = byte.toNat := UInt8.toNat_toUInt32 byte
  obtain ⟨d, member, equal⟩ := mem_utf8 member (same ▸ small)
  have : d = Char.ofUInt8 byte := Char.ext (UInt32.toNat.inj (equal.trans same.symm))
  exact this ▸ member

/-- Text read as ASCII through Latin-1 is that text. -/
theorem eq_of_fromLatin1_utf8 {other : List Char} (same : fromLatin1 (utf8 text) = other)
    (small : Ascii other) : text = other := by
  have text_ascii : Ascii text := by
    intro c member
    obtain ⟨byte, rest, encoded⟩ := List.exists_cons_of_ne_nil (@String.utf8EncodeChar_ne_nil c)
    have first : byte ∈ String.utf8EncodeChar c := by simp [encoded]
    have seen : Char.ofUInt8 byte ∈ other := by
      rw [← same]
      exact List.mem_map_of_mem (List.mem_flatMap.mpr ⟨c, member, first⟩)
    have bound : byte.toNat < 128 := by
      have := small _ seen
      rwa [show (Char.ofUInt8 byte).toNat = byte.toNat from UInt8.toNat_toUInt32 byte] at this
    rw [utf8EncodeChar_byte first bound]
    exact bound
  rw [← same, fromLatin1_utf8 text_ascii]

end Codec
end HermOS
