import HermOS.Bench.NetnsStages
import HermOS.Library.Ipv4
import HermOS.Library.Numerals

/-!
# Names and addresses of instances

An instance is named by the hexadecimal numeral of its sequence number and the run token, and
addressed by two octets of the number.  Names are short enough not to be truncated.  Numbers of one
process are told apart by their numerals; the tokens of two processes are numerals of no fixed
length, so the end of one number can pass for the beginning of a longer token.
-/

namespace HermOS
namespace Bench
namespace Netns

open Numerals

/-- The hexadecimal digits of a number. -/
theorem lowerHex_toList (n : ℕ) : (lowerHex n).toList = Nat.toDigits 16 n :=
  String.toList_ofList

theorem lowerHex_length_le {n count : ℕ} (positive : 0 < count) (small : n < 16 ^ count) :
    (lowerHex n).length ≤ count := by
  rw [← String.length_toList, lowerHex_toList]
  exact (width_le_iff (by decide) positive).mpr small

/-- A run token is the numeral of a number below 2^20. -/
theorem runToken_eq (now : ℕ) : runToken now = lowerHex (now % 2 ^ 20) := by
  rw [runToken, ← Nat.and_two_pow_sub_one_eq_mod]

theorem takeChars_eq {count : ℕ} {text : String} (short : text.length ≤ count) :
    takeChars count text = text := by
  rw [takeChars, List.take_of_length_le (by rwa [String.length_toList]), String.ofList_toList]

theorem takeChars_length_le (count : ℕ) (text : String) :
    (takeChars count text).length ≤ count := by
  rw [takeChars, String.length_ofList]
  exact List.length_take_le _ _

/-! ### Names -/

section Names

variable {token other : String} {a b m n : ℕ}

theorem lowerHex_seq_length (small : a < 2 ^ 28) : (lowerHex a).length ≤ 7 :=
  lowerHex_length_le (by decide) small

theorem lowerHex_token_length (small : m < 2 ^ 20) : (lowerHex m).length ≤ 5 :=
  lowerHex_length_le (by decide) small

/-- The suffix of a name is not truncated. -/
theorem suffix_length (token_short : token.length ≤ 5) (small : a < 2 ^ 28) :
    (lowerHex a ++ token).length ≤ 12 := by
  have number := lowerHex_seq_length small
  rw [String.length_append]
  omega

theorem namespaceName_eq (token_short : token.length ≤ 5) (small : a < 2 ^ 28) :
    (buildInstance token a).namespaceName = "fc" ++ (lowerHex a ++ token) := by
  have suffix := suffix_length token_short small
  have front : "fc".length = 2 := rfl
  apply takeChars_eq
  rw [String.length_append, front]
  omega

theorem hostVeth_eq (token_short : token.length ≤ 5) (small : a < 2 ^ 28) :
    (buildInstance token a).hostVeth = "fcv" ++ (lowerHex a ++ token) := by
  have suffix := suffix_length token_short small
  have front : "fcv".length = 3 := rfl
  apply takeChars_eq
  rw [String.length_append, front]
  omega

/-- Names are equal if their suffixes are. -/
theorem names_eq_iff (token_short : token.length ≤ 5) (other_short : other.length ≤ 5)
    (a_small : a < 2 ^ 28) (b_small : b < 2 ^ 28) :
    ((buildInstance token a).namespaceName = (buildInstance other b).namespaceName ↔
        lowerHex a ++ token = lowerHex b ++ other) ∧
      ((buildInstance token a).hostVeth = (buildInstance other b).hostVeth ↔
        lowerHex a ++ token = lowerHex b ++ other) := by
  rw [namespaceName_eq token_short a_small, namespaceName_eq other_short b_small,
    hostVeth_eq token_short a_small, hostVeth_eq other_short b_small]
  constructor <;> exact String.append_right_inj _

theorem lowerHex_append_inj (same : lowerHex a ++ token = lowerHex b ++ token) : a = b := by
  have chars := congrArg String.toList ((String.append_left_inj _).mp same)
  rw [lowerHex_toList, lowerHex_toList] at chars
  exact toDigits_injective (by decide) (by decide) chars

end Names

/-! ### Addresses -/

/-- What the address texts of an instance denote. -/
structure Addresses (inst : NetnsInstance) where
  network : Ipv4
  gateway : Ipv4
  guest : Ipv4
  vethNetwork_eq : inst.vethNetwork = network.dotted ++ "/30"
  hostVethGateway_eq : inst.hostVethGateway = gateway.dotted
  hostVethCidr_eq : inst.hostVethCidr = gateway.dotted ++ "/30"
  nsVethCidr_eq : inst.nsVethCidr = guest.dotted ++ "/30"
  gateway_mem : gateway ∈ network.network 30
  guest_mem : guest ∈ network.network 30

/-- The addresses of a sequence number, by their last octets. -/
def address (seq : ℕ) (last : Fin 256) : Ipv4 where
  first := 10
  second := ⟨64 + seq / 256 % 64, by omega⟩
  third := ⟨seq % 256, Nat.mod_lt _ (by decide)⟩
  fourth := last

theorem address_value (seq : ℕ) (last : Fin 256) :
    (address seq last).value = ((10 * 256 + (64 + seq / 256 % 64)) * 256 + seq % 256) * 256 +
      last :=
  rfl

/-- The network of an address is determined by the number modulo 2^14. -/
theorem address_network (seq : ℕ) {last : Fin 256} (inside : last.val < 4) :
    (address seq last).value / 2 ^ (32 - 30) = 64 * (10 * 2 ^ 16 + 2 ^ 14 + seq % 16384) := by
  rw [address_value]
  omega

theorem address_inj {a b : ℕ} {last : Fin 256} :
    address a last = address b last ↔ a % 16384 = b % 16384 := by
  simp only [address, Ipv4.mk.injEq, Fin.mk.injEq, true_and, and_true]
  omega

/-- The address of an instance in the texts of `build_instance`. -/
theorem address_dotted (seq : ℕ) (last : Fin 256) :
    (address seq last).dotted =
      "10." ++ toString (64 + seq / 256 % 64) ++ "." ++ toString (seq % 256) ++
        ("." ++ toString last) := by
  have first : toString (10 : Fin 256) ++ "." = "10." := rfl
  rw [← String.append_assoc, ← first]
  rfl

def addresses (token : String) (seq : ℕ) : Addresses (buildInstance token seq) where
  network := address seq 0
  gateway := address seq 1
  guest := address seq 2
  vethNetwork_eq := by
    rw [address_dotted, String.append_assoc]
    rfl
  hostVethGateway_eq := by
    rw [address_dotted]
    rfl
  hostVethCidr_eq := by
    rw [address_dotted, String.append_assoc]
    rfl
  nsVethCidr_eq := by
    rw [address_dotted, String.append_assoc]
    rfl
  gateway_mem := by
    show _ / _ = _ / _
    rw [address_network _ (by decide), address_network _ (by decide)]
  guest_mem := by
    show _ / _ = _ / _
    rw [address_network _ (by decide), address_network _ (by decide)]

theorem text_eq_iff (token : String) (a b : ℕ) :
    ∀ text ∈ [NetnsInstance.vethNetwork, NetnsInstance.hostVethGateway,
        NetnsInstance.hostVethCidr, NetnsInstance.nsVethCidr],
      text (buildInstance token a) = text (buildInstance token b) ↔ a % 16384 = b % 16384 := by
  have dotted {last : Fin 256} :
      (address a last).dotted = (address b last).dotted ↔ a % 16384 = b % 16384 :=
    Ipv4.dotted_injective.eq_iff.trans address_inj
  simp only [List.forall_mem_cons, List.not_mem_nil, false_imp_iff, implies_true, and_true]
  refine ⟨?_, ?_, ?_, ?_⟩
  · rw [(addresses token a).vethNetwork_eq, (addresses token b).vethNetwork_eq,
      String.append_left_inj]
    exact dotted
  · rw [(addresses token a).hostVethGateway_eq, (addresses token b).hostVethGateway_eq]
    exact dotted
  · rw [(addresses token a).hostVethCidr_eq, (addresses token b).hostVethCidr_eq,
      String.append_left_inj]
    exact dotted
  · rw [(addresses token a).nsVethCidr_eq, (addresses token b).nsVethCidr_eq,
      String.append_left_inj]
    exact dotted

theorem network_ne {a b : ℕ} (apart : a % 16384 ≠ b % 16384) :
    (address a 0).value / 2 ^ (32 - 30) ≠ (address b 0).value / 2 ^ (32 - 30) := by
  rw [address_network a (by decide), address_network b (by decide)]
  omega

/-! ### Two numbers of one process -/

/-- What the instances of two sequence numbers have in common. -/
structure Separated (token : String) (a b : ℕ) : Prop where
  veth_short : (buildInstance token a).hostVeth.length ≤ 15
  namespace_short : (buildInstance token a).namespaceName.length ≤ 31
  veth_ne : a ≠ b → (buildInstance token a).hostVeth ≠ (buildInstance token b).hostVeth
  namespace_ne : a ≠ b →
    (buildInstance token a).namespaceName ≠ (buildInstance token b).namespaceName
  text_eq_iff : ∀ text ∈ [NetnsInstance.vethNetwork, NetnsInstance.hostVethGateway,
      NetnsInstance.hostVethCidr, NetnsInstance.nsVethCidr],
    text (buildInstance token a) = text (buildInstance token b) ↔ a % 16384 = b % 16384
  network_eq_iff : (addresses token a).network.network 30 = (addresses token b).network.network 30 ↔
    a % 16384 = b % 16384
  network_disjoint : a % 16384 ≠ b % 16384 →
    Disjoint ((addresses token a).network.network 30) ((addresses token b).network.network 30)

/-- Instances of one process have different names, and the same addresses exactly every 2^14
numbers. -/
theorem buildInstance_separated {token : String} (token_short : token.length ≤ 5) {a b : ℕ}
    (a_small : a < 2 ^ 28) (b_small : b < 2 ^ 28) : Separated token a b where
  veth_short := takeChars_length_le 15 _
  namespace_short := takeChars_length_le 31 _
  veth_ne different same := different
    (lowerHex_append_inj ((names_eq_iff token_short token_short a_small b_small).2.mp same))
  namespace_ne different same := different
    (lowerHex_append_inj ((names_eq_iff token_short token_short a_small b_small).1.mp same))
  text_eq_iff := Netns.text_eq_iff token a b
  network_eq_iff := by
    rw [Ipv4.network_eq_iff]
    constructor
    · exact not_imp_not.mp network_ne
    · intro same
      show (address a 0).value / _ = (address b 0).value / _
      rw [address_inj.mpr same]
  network_disjoint apart := Ipv4.network_disjoint (network_ne apart)

theorem buildInstance_separated_wrapped : Separated "abcde" 200 (200 + 16384) :=
  buildInstance_separated (by decide) (by decide) (by decide)

/-! ### Two processes -/

/-- Two tokens, as numbers. -/
theorem runToken_eq_iff {now later : ℕ} :
    runToken now = runToken later ↔ now % 2 ^ 20 = later % 2 ^ 20 := by
  rw [runToken_eq, runToken_eq, ← String.toList_inj, lowerHex_toList, lowerHex_toList]
  exact (toDigits_injective (by decide) (by decide)).eq_iff

theorem runToken_length (now : ℕ) : (runToken now).length ≤ 5 := by
  rw [runToken_eq]
  exact lowerHex_token_length (Nat.mod_lt now (by decide))

/-- Instances of two processes with different tokens have different names unless the numeral of one
is continued by the longer token of the other. -/
theorem names_separated_iff {now later a b : ℕ} (different : runToken now ≠ runToken later)
    (a_small : a < 2 ^ 28) (b_small : b < 2 ^ 28) :
    ((buildInstance (runToken now) a).namespaceName ≠
          (buildInstance (runToken later) b).namespaceName ∧
        (buildInstance (runToken now) a).hostVeth ≠ (buildInstance (runToken later) b).hostVeth) ↔
      ¬ (Overlaps 16 (now % 2 ^ 20) (later % 2 ^ 20) a b ∨
        Overlaps 16 (later % 2 ^ 20) (now % 2 ^ 20) b a) := by
  obtain ⟨namespaces, veths⟩ := names_eq_iff (runToken_length now) (runToken_length later)
    a_small b_small
  have numbers : now % 2 ^ 20 ≠ later % 2 ^ 20 := fun same => different (runToken_eq_iff.mpr same)
  have suffixes : lowerHex a ++ runToken now = lowerHex b ++ runToken later ↔
      Overlaps 16 (now % 2 ^ 20) (later % 2 ^ 20) a b ∨
        Overlaps 16 (later % 2 ^ 20) (now % 2 ^ 20) b a := by
    rw [← append_eq_append_iff (by decide) (by decide) numbers, ← String.toList_inj,
      String.toList_append, String.toList_append, runToken_eq, runToken_eq]
    simp only [lowerHex_toList]
  rw [ne_eq, ne_eq, namespaces, veths, and_self, suffixes]

/-- The instances `12c` of token `abc` and `12cb` of token `bc`. -/
theorem names_separated_iff_sample :
    ((buildInstance (runToken 0xabc) 0x12c).namespaceName ≠
          (buildInstance (runToken 0xbc) 0x12cb).namespaceName ∧
        (buildInstance (runToken 0xabc) 0x12c).hostVeth ≠
          (buildInstance (runToken 0xbc) 0x12cb).hostVeth) ↔
      ¬ (Overlaps 16 (0xabc % 2 ^ 20) (0xbc % 2 ^ 20) 0x12c 0x12cb ∨
        Overlaps 16 (0xbc % 2 ^ 20) (0xabc % 2 ^ 20) 0x12cb 0x12c) :=
  names_separated_iff (by decide) (by decide) (by decide)

/-- The instance 1 of token `23` is named as the instance 18 of token `3`. -/
theorem not_names_separated : ¬ ∀ now later a b : ℕ, runToken now ≠ runToken later →
    a < 2 ^ 28 → b < 2 ^ 28 →
      (buildInstance (runToken now) a).namespaceName ≠
          (buildInstance (runToken later) b).namespaceName ∧
        (buildInstance (runToken now) a).hostVeth ≠
          (buildInstance (runToken later) b).hostVeth := by
  intro separated
  have apart := separated 0x23 0x3 0x1 0x12 (by decide) (by decide) (by decide)
  exact apart.1 (by decide)

end Netns
end Bench
end HermOS
