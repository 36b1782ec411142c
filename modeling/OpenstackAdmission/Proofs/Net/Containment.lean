import Mathlib.Data.Nat.Bitwise
import OpenstackAdmission.Net.Cidr

/-!
# Networks as sets of addresses

A network is the set of the addresses of its family that agree with its address in the prefix. Networks are
compared by masked words, and the comparison means what it should:

> `contains_exact`: one network contains another exactly if every address of the other is one of its own, a
network is canonical exactly if its address is the smallest of its addresses, and whenever a word is masked, the
prefix is no longer than the address and the shift no longer than the word.

The second address is masked with a prefix of the first, which it has only because both are known to be of one
family by then. A shift by the whole word does happen, for the network of all IPv6 addresses (`getLsbD_mask`).

Bits of an address are counted from its front, bits of a word from its end, so the places are turned round once
(`forall_bit_eq_iff`).
-/

namespace OpenstackAdmission.Net

/-- The bit of an address at a place, counted from the front. -/
def Address.bit (a : Address) (place : Nat) : Bool := a.bits.testBit (a.family.width - 1 - place)

/-- The addresses of a network: those of its family that have all bits of the prefix. -/
instance : Membership Address Cidr where
  mem c a := a.family = c.address.family ∧ ∀ place < c.prefixLength, a.bit place = c.address.bit place

namespace Cidr

variable {a b : Address} {c other : Cidr} {n : Nat}

theorem mem_iff : a ∈ c ↔
    a.family = c.address.family ∧ ∀ place < c.prefixLength, a.bit place = c.address.bit place :=
  Iff.rfl

theorem address_mem (c : Cidr) : c.address ∈ c := ⟨rfl, fun _ _ => rfl⟩

/-! ## Words -/

theorem width_le (f : Family) : f.width ≤ 128 := by
  cases f <;> decide

theorem hostBits?_of_le (h : n ≤ a.family.width) : hostBits? a n = some (a.family.width - n) := if_pos h

theorem maskedWord?_of_le (h : n ≤ a.family.width) :
    maskedWord? a n = some (a.word &&& mask (a.family.width - n)) := by
  unfold maskedWord?
  rw [hostBits?_of_le h]
  rfl

/-- The subtraction has a result, which is a shift within the word. -/
theorem exists_hostBits (h : n ≤ a.family.width) : ∃ hostBits ≤ 128, hostBits? a n = some hostBits :=
  ⟨_, (Nat.sub_le ..).trans (width_le a.family), hostBits?_of_le h⟩

/-- A mask has its ones from the shift on, also if no bit of the word is as far. -/
theorem getLsbD_mask {i : Nat} (h : i < 128) (hostBits : Nat) :
    (mask hostBits).getLsbD i = decide (hostBits ≤ i) := by
  unfold mask shiftLeft?
  by_cases hshift : hostBits < 128
  · have hone : i - hostBits < 128 := by omega
    rw [if_pos hshift, Option.getD_some, BitVec.getLsbD_shiftLeft, BitVec.getLsbD_allOnes,
      decide_eq_true h, decide_eq_true hone, Bool.true_and, Bool.and_true, ← decide_not]
    exact decide_eq_decide.mpr Nat.not_lt
  · have hfar : ¬ hostBits ≤ i := by omega
    rw [if_neg hshift, Option.getD_none, decide_eq_false hfar]
    exact BitVec.getLsbD_zero

theorem bits_lt_word (a : Address) : a.bits < 2 ^ 128 :=
  a.bits_lt.trans_le (Nat.pow_le_pow_right Nat.two_pos (width_le a.family))

theorem toNat_word (a : Address) : a.word.toNat = a.bits := by
  unfold Address.word
  rw [BitVec.toNat_ofNat, Nat.mod_eq_of_lt (bits_lt_word a)]

theorem testBit_of_width_le {i : Nat} (h : a.family.width ≤ i) : a.bits.testBit i = false :=
  Nat.testBit_lt_two_pow (a.bits_lt.trans_le (Nat.pow_le_pow_right Nat.two_pos h))

theorem testBit_masked (a : Address) (hostBits i : Nat) :
    (a.word &&& mask hostBits).toNat.testBit i = (a.bits.testBit i && decide (hostBits ≤ i)) := by
  have hword : a.word.getLsbD i = a.bits.testBit i := by
    rw [← BitVec.testBit_toNat, toNat_word]
  rw [BitVec.testBit_toNat, BitVec.getLsbD_and, hword]
  by_cases hi : i < 128
  · rw [getLsbD_mask hi]
  · -- the word ends here, and the address with it
    rw [testBit_of_width_le ((width_le a.family).trans (Nat.le_of_not_lt hi)), Bool.false_and, Bool.false_and]

/-- The first bits of an address are the bits of its word behind those of the hosts. -/
theorem forall_bit_eq_iff (hfamily : a.family = b.family) (hn : n ≤ a.family.width) :
    (∀ place < n, a.bit place = b.bit place) ↔
      ∀ i, a.family.width - n ≤ i → a.bits.testBit i = b.bits.testBit i := by
  unfold Address.bit
  rw [← hfamily]
  constructor
  · intro h i hi
    by_cases hwidth : a.family.width ≤ i
    · rw [testBit_of_width_le hwidth, testBit_of_width_le (hfamily ▸ hwidth)]
    · have hplace := h (a.family.width - 1 - i) (by omega)
      rwa [show a.family.width - 1 - (a.family.width - 1 - i) = i by omega] at hplace
  · intro h place hplace
    exact h _ (by omega)

/-- Two addresses of one family have the same masked word if they have the same bits in the prefix. -/
theorem masked_eq_iff (hfamily : a.family = b.family) (hn : n ≤ a.family.width) :
    maskedWord? a n = maskedWord? b n ↔ ∀ place < n, a.bit place = b.bit place := by
  rw [maskedWord?_of_le hn, maskedWord?_of_le (hfamily ▸ hn), Option.some.injEq, ← hfamily,
    forall_bit_eq_iff hfamily hn]
  constructor
  · intro h i hi
    have hbit := congrArg (fun w => w.toNat.testBit i) h
    rwa [testBit_masked, testBit_masked, decide_eq_true hi, Bool.and_true, Bool.and_true] at hbit
  · intro h
    apply BitVec.eq_of_toNat_eq
    apply Nat.eq_of_testBit_eq
    intro i
    rw [testBit_masked, testBit_masked]
    by_cases hi : a.family.width - n ≤ i
    · rw [h i hi]
    · rw [decide_eq_false hi, Bool.and_false, Bool.and_false]

/-- Addresses of a network are those with the same number when the bits behind its length are cleared. This
is how the program compares them. -/
theorem mem_iff_masked : a ∈ c ↔ a.family = c.address.family ∧
    maskedWord? a c.prefixLength = maskedWord? c.address c.prefixLength := by
  rw [mem_iff]
  refine and_congr_right fun hfamily => ?_
  exact (masked_eq_iff hfamily (hfamily ▸ c.prefixLength_le)).symm

/-! ## Inclusion -/

/-- The address with the bit at a place turned. -/
def turned (a : Address) (place : Nat) (h : place < a.family.width) : Address where
  family := a.family
  bits := a.bits ^^^ 2 ^ (a.family.width - 1 - place)
  bits_lt := Nat.xor_lt_two_pow a.bits_lt (Nat.pow_lt_pow_right Nat.one_lt_two (by omega))

/-- Turning one bit leaves the others alone. So a network has two addresses that differ in any bit behind
its length. -/
theorem bit_turned {place : Nat} (h : place < a.family.width) {p : Nat} (hp : p < a.family.width) :
    (turned a place h).bit p = (a.bit p ^^ decide (p = place)) := by
  unfold Address.bit turned
  dsimp only
  rw [Nat.testBit_xor, Nat.testBit_two_pow]
  congr 2
  simp only [eq_iff_iff]
  omega

/-- A larger network has a shorter length: otherwise some bit that it fixes is free in the smaller one, and
could be turned. -/
theorem prefixLength_le_of_forall_mem (h : ∀ a ∈ other, a ∈ c) :
    c.prefixLength ≤ other.prefixLength := by
  refine Nat.le_of_not_lt fun hlt => ?_
  -- the first bit behind the shorter prefix may be any
  have hfamily := (h other.address other.address_mem).1
  have hwidth : other.prefixLength < other.address.family.width :=
    hlt.trans_le (hfamily ▸ c.prefixLength_le)
  let a := turned other.address other.prefixLength hwidth
  have ha : a ∈ other := by
    refine ⟨rfl, fun place hplace => ?_⟩
    rw [bit_turned hwidth (hplace.trans hwidth), decide_eq_false hplace.ne, Bool.xor_false]
  have hturned := (h a ha).2 other.prefixLength hlt
  rw [← (h other.address other.address_mem).2 other.prefixLength hlt, bit_turned hwidth hwidth] at hturned
  simp at hturned

/-- The comparison of lengths and masked numbers is the inclusion of networks of one family. -/
theorem contains_iff :
    c.contains other = true ↔
      c.address.family = other.address.family ∧ ∀ a ∈ other, a ∈ c := by
  unfold contains
  rw [Bool.and_eq_true, Bool.and_eq_true, decide_eq_true_eq, decide_eq_true_eq, decide_eq_true_eq, and_assoc]
  refine and_congr_right fun hfamily => ?_
  constructor
  · rintro ⟨hle, hmasked⟩ a ha
    have hother : other.address ∈ c := mem_iff_masked.mpr ⟨hfamily.symm, hmasked.symm⟩
    refine ⟨ha.1.trans hother.1, fun place hplace => ?_⟩
    exact (ha.2 place (hplace.trans_le hle)).trans (hother.2 place hplace)
  · intro h
    exact ⟨prefixLength_le_of_forall_mem h, (mem_iff_masked.mp (h _ other.address_mem)).2.symm⟩

/-! ## The smallest address -/

theorem masked_le (a : Address) (w : BitVec 128) : (a.word &&& w).toNat ≤ a.bits := by
  rw [BitVec.toNat_and, toNat_word]
  exact Nat.and_le_left

/-- The address of a network with all bits after the prefix cleared. -/
def lowest (c : Cidr) : Address where
  family := c.address.family
  bits := (c.address.word &&& mask (c.address.family.width - c.prefixLength)).toNat
  bits_lt := (masked_le _ _).trans_lt c.address.bits_lt

theorem lowest_mem (c : Cidr) : c.lowest ∈ c := by
  refine ⟨rfl, fun place hplace => ?_⟩
  have hle := c.prefixLength_le
  unfold Address.bit lowest
  dsimp only
  rw [testBit_masked, decide_eq_true (by omega), Bool.and_true]

/-- A network is canonical if its own address is the smallest of its addresses. -/
theorem isCanonical_iff : c.isCanonical = true ↔ ∀ a ∈ c, c.address.bits ≤ a.bits := by
  unfold isCanonical
  rw [decide_eq_true_eq, maskedWord?_of_le c.prefixLength_le, Option.some.injEq]
  constructor
  · intro h a ha
    obtain ⟨hfamily, hmasked⟩ := mem_iff_masked.mp ha
    rw [maskedWord?_of_le c.prefixLength_le, maskedWord?_of_le (hfamily ▸ c.prefixLength_le),
      Option.some.injEq, h] at hmasked
    rw [← toNat_word, ← hmasked]
    exact masked_le a _
  · intro h
    apply BitVec.eq_of_toNat_eq
    rw [toNat_word]
    exact Nat.le_antisymm (masked_le _ _) (h c.lowest c.lowest_mem)

/-- A canonical network is written without a bit behind the prefix. -/
theorem isCanonical_iff_bit : c.isCanonical = true ↔
    ∀ place, c.prefixLength ≤ place → place < c.address.family.width →
      c.address.bit place = false := by
  unfold isCanonical
  rw [decide_eq_true_eq, maskedWord?_of_le c.prefixLength_le, Option.some.injEq]
  constructor
  · intro h place hprefix hwidth
    have hbit := congrArg (fun w => w.toNat.testBit (c.address.family.width - 1 - place)) h
    rw [testBit_masked, toNat_word, decide_eq_false (by omega), Bool.and_false] at hbit
    exact hbit.symm
  · intro h
    apply BitVec.eq_of_toNat_eq
    apply Nat.eq_of_testBit_eq
    intro i
    rw [testBit_masked, toNat_word]
    by_cases hi : c.address.family.width - c.prefixLength ≤ i
    · rw [decide_eq_true hi, Bool.and_true]
    · have hclear := h (c.address.family.width - 1 - i) (by omega) (by omega)
      unfold Address.bit at hclear
      rw [show c.address.family.width - 1 - (c.address.family.width - 1 - i) = i by omega] at hclear
      rw [hclear, Bool.false_and]

/-- **Networks are sets of addresses.** Containment is inclusion within a family, and a canonical network is
written with its smallest address. No subtraction and no shift goes too far: the own address is always at least as
long as the prefix, and the other one wherever the families agree. -/
theorem contains_exact (c other : Cidr) :
    (c.contains other = true ↔ c.address.family = other.address.family ∧ ∀ a ∈ other, a ∈ c) ∧
      (c.isCanonical = true ↔ ∀ a ∈ c, c.address.bits ≤ a.bits) ∧
      (∃ hostBits ≤ 128, hostBits? c.address c.prefixLength = some hostBits) ∧
      (c.address.family = other.address.family →
        ∃ hostBits ≤ 128, hostBits? other.address c.prefixLength = some hostBits) :=
  ⟨contains_iff, isCanonical_iff, exists_hostBits c.prefixLength_le,
    fun hfamily => exists_hostBits (hfamily ▸ c.prefixLength_le)⟩

/-- The mask of the widest network shifts all ones out of the word. An address of 32 bits has no prefix of 64, so
the families are compared first. -/
example : mask 128 = 0 ∧ hostBits? (.ofOctets [10, 0, 0, 0]) 64 = none := ⟨rfl, rfl⟩

end Cidr

end OpenstackAdmission.Net
