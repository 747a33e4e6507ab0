import Mathlib.Data.BitVec
import Ssdp.Net.Scope

/-!
# Ranges of addresses

Addresses are judged by their first bits. Read as numbers, the addresses that share their
first bits with a given one are those between two of them, so every judgement is a comparison
with the ends of a range.

* `IsPrefixMask.and_eq_iff`: to agree under a mask of the first bits is to lie between the
  lowest and the highest number that do;
* `inNetwork_iff`: the same for the networks that are known beforehand;
* `V6.mapped?_eq_some_iff`: the addresses that carry one of version 4;
* `address_ranges_exact`: the private addresses and the subnets, as ranges.
-/

namespace Ssdp

/-! ## First bits -/

/-- A mask of the first bits: so many of them are set, and no others. -/
def IsPrefixMask {w : Nat} (mask : BitVec w) (length : Nat) : Prop :=
  length ≤ w ∧ ∀ i < w, mask.getMsbD i = decide (i < length)

instance {w : Nat} (mask : BitVec w) (length : Nat) : Decidable (IsPrefixMask mask length) :=
  inferInstanceAs (Decidable (_ ∧ _))

/-- The numbers with the same quotient are those from its multiple to the next. -/
theorem div_two_pow_eq_iff {a n k : Nat} :
    a / 2 ^ k = n / 2 ^ k ↔ n / 2 ^ k * 2 ^ k ≤ a ∧ a ≤ n / 2 ^ k * 2 ^ k + (2 ^ k - 1) := by
  have hpos : 0 < 2 ^ k := Nat.two_pow_pos k
  rw [Nat.div_eq_iff hpos]
  omega

namespace IsPrefixMask

variable {w length : Nat} {mask : BitVec w}

theorem getLsbD_eq (h : IsPrefixMask mask length) {i : Nat} (hi : i < w) :
    mask.getLsbD i = decide (w - length ≤ i) := by
  have hlength := h.1
  have hbit := h.2 (w - 1 - i) (by omega)
  rw [BitVec.getMsbD_eq_getLsbD, show w - 1 - (w - 1 - i) = i by omega,
    decide_eq_true (by omega : w - 1 - i < w), Bool.true_and] at hbit
  rw [hbit, decide_eq_decide]
  omega

/-- What a mask leaves is the address without its last bits. -/
theorem and_eq (h : IsPrefixMask mask length) (a : BitVec w) :
    a &&& mask = (a >>> (w - length)) <<< (w - length) := by
  apply BitVec.eq_of_getLsbD_eq
  intro i hi
  rw [BitVec.getLsbD_and, h.getLsbD_eq hi, BitVec.getLsbD_shiftLeft, BitVec.getLsbD_ushiftRight]
  by_cases hk : w - length ≤ i
  · simp [hk, hi, Nat.not_lt.2 hk, Nat.add_sub_cancel' hk]
  · simp [hk, Nat.lt_of_not_le hk]

/-- The lowest address that agrees with another under the mask. -/
theorem toNat_and (h : IsPrefixMask mask length) (a : BitVec w) :
    (a &&& mask).toNat = a.toNat / 2 ^ (w - length) * 2 ^ (w - length) := by
  have hle : a.toNat / 2 ^ (w - length) * 2 ^ (w - length) ≤ a.toNat := Nat.div_mul_le_self _ _
  rw [h.and_eq, BitVec.toNat_shiftLeft, BitVec.toNat_ushiftRight, Nat.shiftRight_eq_div_pow,
    Nat.shiftLeft_eq, Nat.mod_eq_of_lt (Nat.lt_of_le_of_lt hle a.isLt)]

theorem toNat_not (h : IsPrefixMask mask length) :
    (~~~mask).toNat = 2 ^ (w - length) - 1 := by
  have hnot : ~~~mask = BitVec.ofNat w (2 ^ (w - length) - 1) := by
    apply BitVec.eq_of_getLsbD_eq
    intro i hi
    rw [BitVec.getLsbD_not, h.getLsbD_eq hi, BitVec.getLsbD_ofNat, Nat.testBit_two_pow_sub_one,
      decide_eq_true hi, Bool.true_and, Bool.true_and, ← decide_not, decide_eq_decide]
    omega
  have hle : 2 ^ (w - length) ≤ 2 ^ w := Nat.pow_le_pow_right (by decide) (Nat.sub_le w length)
  have hpos : 0 < 2 ^ (w - length) := Nat.two_pow_pos _
  rw [hnot, BitVec.toNat_ofNat, Nat.mod_eq_of_lt (by omega)]

/-- The highest address that agrees with another under the mask. -/
theorem toNat_or_not (h : IsPrefixMask mask length) (a : BitVec w) :
    (a ||| ~~~mask).toNat =
      a.toNat / 2 ^ (w - length) * 2 ^ (w - length) + (2 ^ (w - length) - 1) := by
  have hsplit : a ||| ~~~mask = (a &&& mask) ||| ~~~mask := by
    ext i hi
    simp only [BitVec.getElem_or, BitVec.getElem_and, BitVec.getElem_not]
    cases a[i] <;> cases mask[i] <;> rfl
  have hdisjoint : (a &&& mask) &&& ~~~mask = 0#w := by
    rw [BitVec.and_assoc, BitVec.and_not_self]
    exact BitVec.and_zero
  rw [hsplit, ← BitVec.add_eq_or_of_and_eq_zero _ _ hdisjoint,
    BitVec.toNat_add_of_and_eq_zero hdisjoint, h.toNat_and, h.toNat_not]

/-- A mask of no bits is zero, and no other is. -/
theorem eq_zero_iff (h : IsPrefixMask mask length) : mask = 0 ↔ length = 0 := by
  constructor
  · rintro rfl
    by_contra hlength
    have hpos : 0 < length := Nat.pos_of_ne_zero hlength
    have hfirst := h.2 0 (Nat.lt_of_lt_of_le hpos h.1)
    rw [decide_eq_true hpos] at hfirst
    simp at hfirst
  · rintro rfl
    apply BitVec.eq_of_getLsbD_eq
    intro i hi
    rw [h.getLsbD_eq hi, decide_eq_false (by omega)]
    simp

/-- To agree under a mask is to lie between the lowest and the highest that do. -/
theorem and_eq_iff (h : IsPrefixMask mask length) (a b : BitVec w) :
    a &&& mask = b &&& mask ↔
      (b &&& mask).toNat ≤ a.toNat ∧ a.toNat ≤ (b ||| ~~~mask).toNat := by
  rw [← BitVec.toNat_inj, h.toNat_and, h.toNat_and, h.toNat_or_not, ← div_two_pow_eq_iff]
  exact Nat.mul_left_inj (Nat.two_pow_pos _).ne'

/-- To agree under a mask that is not empty, as it is decided. -/
theorem agrees_iff (h : IsPrefixMask mask length) (hpos : 1 ≤ length) (a b : BitVec w) :
    (mask != 0 && a &&& mask == b &&& mask) = true ↔
      (b &&& mask).toNat ≤ a.toNat ∧ a.toNat ≤ (b ||| ~~~mask).toNat := by
  have hmask : mask ≠ 0 := mt h.eq_zero_iff.1 (Nat.ne_of_gt hpos)
  rw [Bool.and_eq_true, bne_iff_ne, beq_iff_eq, h.and_eq_iff]
  exact and_iff_right hmask

end IsPrefixMask

/-- The addresses of a network are those between its first and its last. -/
theorem inNetwork_iff {w : Nat} (network : BitVec w) (length : Nat) (a : BitVec w) :
    inNetwork network length a = true ↔
      network.toNat / 2 ^ (w - length) * 2 ^ (w - length) ≤ a.toNat ∧
        a.toNat ≤ network.toNat / 2 ^ (w - length) * 2 ^ (w - length) + (2 ^ (w - length) - 1) := by
  rw [inNetwork, beq_iff_eq, ← BitVec.toNat_inj, BitVec.toNat_ushiftRight,
    BitVec.toNat_ushiftRight, Nat.shiftRight_eq_div_pow, Nat.shiftRight_eq_div_pow,
    div_two_pow_eq_iff]

/-! ## Ranges -/

/-- The address read as a number. -/
def Address.number : Address → Nat
  | v4 ip => ip.bits.toNat
  | v6 ip => ip.bits.toNat

/-- The number of bits of the address. -/
def Address.width : Address → Nat
  | v4 _ => 32
  | v6 _ => 128

/-- The addresses of one version from a first one to a last one. -/
structure AddressRange where
  first : Address
  last : Address
  sameVersion : first.isV4 = last.isV4 := by rfl

/-- An address of the version of a range lies between its ends, both included. -/
def AddressRange.Holds (r : AddressRange) (a : Address) : Prop :=
  a.isV4 = r.first.isV4 ∧ r.first.number ≤ a.number ∧ a.number ≤ r.last.number

/-- The ranges of the addresses that stay on the local network. -/
def privateRanges : List AddressRange :=
  [⟨.v4 (.ofOctets 10 0 0 0), .v4 (.ofOctets 10 255 255 255), rfl⟩,
   ⟨.v4 (.ofOctets 127 0 0 0), .v4 (.ofOctets 127 255 255 255), rfl⟩,
   ⟨.v4 (.ofOctets 169 254 0 0), .v4 (.ofOctets 169 254 255 255), rfl⟩,
   ⟨.v4 (.ofOctets 172 16 0 0), .v4 (.ofOctets 172 31 255 255), rfl⟩,
   ⟨.v4 (.ofOctets 192 168 0 0), .v4 (.ofOctets 192 168 255 255), rfl⟩,
   ⟨.v6 .loopback, .v6 .loopback, rfl⟩,
   ⟨.v6 (.ofGroups [0xfc00, 0, 0, 0, 0, 0, 0, 0]),
    .v6 (.ofGroups (0xfdff :: List.replicate 7 0xffff)), rfl⟩,
   ⟨.v6 (.ofGroups [0xfe80, 0, 0, 0, 0, 0, 0, 0]),
    .v6 (.ofGroups (0xfebf :: List.replicate 7 0xffff)), rfl⟩]

theorem V4.toNat_inj {a b : V4} : a.bits.toNat = b.bits.toNat ↔ a = b := by
  rw [BitVec.toNat_inj]
  exact ⟨fun h => congrArg V4.mk h, fun h => h ▸ rfl⟩

namespace V6

theorem toNat_inj {a b : V6} : a.bits.toNat = b.bits.toNat ↔ a = b := by
  rw [BitVec.toNat_inj]
  exact ⟨fun h => congrArg V6.mk h, fun h => h ▸ rfl⟩

theorem toNat_ofMapped (ip : V4) :
    (ofMapped ip).bits.toNat = 0xffff * 2 ^ 32 + ip.bits.toNat := by
  rw [ofMapped, BitVec.toNat_append, ← Nat.shiftLeft_add_eq_or_of_lt ip.bits.isLt,
    Nat.shiftLeft_eq]
  rfl

/-- The address that is carried is the one that the other was made of. -/
theorem mapped?_eq_some_iff {a : V6} {ip : V4} : a.mapped? = some ip ↔ a = .ofMapped ip := by
  have hip := ip.bits.isLt
  have hfirst : a.bits >>> 32 = 0xffff#128 ↔ a.bits.toNat / 2 ^ 32 = 0xffff := by
    rw [← BitVec.toNat_inj, BitVec.toNat_ushiftRight, Nat.shiftRight_eq_div_pow]
    rfl
  have hlast : (⟨a.bits.setWidth 32⟩ : V4) = ip ↔ a.bits.toNat % 2 ^ 32 = ip.bits.toNat := by
    rw [← V4.toNat_inj, BitVec.toNat_setWidth]
  rw [mapped?, Option.ite_none_right_eq_some, hfirst, Option.some.injEq, hlast, ← toNat_inj,
    toNat_ofMapped]
  omega

theorem mapped?_ofMapped (ip : V4) : (ofMapped ip).mapped? = some ip :=
  mapped?_eq_some_iff.2 rfl

theorem toNat_firstGroup (a : V6) : a.firstGroup.toNat = a.bits.toNat / 2 ^ 112 := by
  have ha := a.bits.isLt
  rw [firstGroup, BitVec.toNat_setWidth, BitVec.toNat_ushiftRight, Nat.shiftRight_eq_div_pow]
  omega

/-- To have a first group like another's under a mask is to lie in a range. -/
theorem firstGroup_and_eq_iff (a : V6) {mask : BitVec 16} {length : Nat}
    (hmask : IsPrefixMask mask length) (group : BitVec 16) :
    a.firstGroup &&& mask = group &&& mask ↔
      (group &&& mask).toNat * 2 ^ 112 ≤ a.bits.toNat ∧
        a.bits.toNat < ((group ||| ~~~mask).toNat + 1) * 2 ^ 112 := by
  have hpos : 0 < 2 ^ 112 := Nat.two_pow_pos 112
  rw [hmask.and_eq_iff, toNat_firstGroup, Nat.le_div_iff_mul_le hpos,
    ← Nat.div_lt_iff_lt_mul hpos, Nat.lt_add_one_iff]

theorem isUniqueLocal_iff (a : V6) : a.isUniqueLocal = true ↔
    0xfc00 * 2 ^ 112 ≤ a.bits.toNat ∧ a.bits.toNat < 0xfe00 * 2 ^ 112 := by
  have hmask : IsPrefixMask 0xfe00#16 7 := by decide
  rw [isUniqueLocal, beq_iff_eq]
  exact firstGroup_and_eq_iff a hmask 0xfc00#16

theorem isLinkLocal_iff (a : V6) : a.isLinkLocal = true ↔
    0xfe80 * 2 ^ 112 ≤ a.bits.toNat ∧ a.bits.toNat < 0xfec0 * 2 ^ 112 := by
  have hmask : IsPrefixMask 0xffc0#16 10 := by decide
  rw [isLinkLocal, beq_iff_eq]
  exact firstGroup_and_eq_iff a hmask 0xfe80#16

end V6

/-- The ranges of version 4, in numbers. -/
theorem exists_privateRanges_v4_iff (ip : V4) :
    (∃ range ∈ privateRanges, range.Holds (.v4 ip)) ↔
      (0x0a000000 ≤ ip.bits.toNat ∧ ip.bits.toNat ≤ 0x0affffff) ∨
      (0x7f000000 ≤ ip.bits.toNat ∧ ip.bits.toNat ≤ 0x7fffffff) ∨
      (0xa9fe0000 ≤ ip.bits.toNat ∧ ip.bits.toNat ≤ 0xa9feffff) ∨
      (0xac100000 ≤ ip.bits.toNat ∧ ip.bits.toNat ≤ 0xac1fffff) ∨
      (0xc0a80000 ≤ ip.bits.toNat ∧ ip.bits.toNat ≤ 0xc0a8ffff) := by
  simp [privateRanges, AddressRange.Holds, Address.isV4, Address.number, V4.ofOctets]

/-- The ranges of version 6, in numbers. -/
theorem exists_privateRanges_v6_iff (ip : V6) :
    (∃ range ∈ privateRanges, range.Holds (.v6 ip)) ↔
      ip.bits.toNat = 1 ∨
      (0xfc00 * 2 ^ 112 ≤ ip.bits.toNat ∧ ip.bits.toNat < 0xfe00 * 2 ^ 112) ∨
      (0xfe80 * 2 ^ 112 ≤ ip.bits.toNat ∧ ip.bits.toNat < 0xfec0 * 2 ^ 112) := by
  simp [privateRanges, AddressRange.Holds, Address.isV4, Address.number, V6.ofGroups, V6.loopback]
  omega

theorem V4.isPrivate_iff (ip : V4) :
    ip.isPrivate = true ↔ ∃ range ∈ privateRanges, range.Holds (.v4 ip) := by
  rw [exists_privateRanges_v4_iff]
  simp only [V4.isPrivate, V4.isLoopback, V4.isSiteLocal, V4.isLinkLocal, Bool.or_eq_true,
    inNetwork_iff, BitVec.toNat_ofNat]
  omega

/-- An address that carries one of version 4 lies in no range of its own version. -/
theorem V6.isPrivate_iff (ip : V6) :
    ip.isPrivate = true ↔ (∃ range ∈ privateRanges, range.Holds (.v6 ip)) ∨
      ∃ carried : V4, ip = .ofMapped carried ∧ carried.isPrivate = true := by
  rw [exists_privateRanges_v6_iff, V6.isPrivate]
  cases hmapped : ip.mapped? with
  | some carried =>
    obtain rfl := V6.mapped?_eq_some_iff.1 hmapped
    have hcarried := carried.bits.isLt
    have hnumber := V6.toNat_ofMapped carried
    have hother (other : V4) : V6.ofMapped carried = .ofMapped other ↔ carried = other := by
      rw [← V6.mapped?_eq_some_iff, hmapped, Option.some.injEq]
    have hout : ¬((V6.ofMapped carried).bits.toNat = 1 ∨
        (0xfc00 * 2 ^ 112 ≤ (V6.ofMapped carried).bits.toNat ∧
          (V6.ofMapped carried).bits.toNat < 0xfe00 * 2 ^ 112) ∨
        (0xfe80 * 2 ^ 112 ≤ (V6.ofMapped carried).bits.toNat ∧
          (V6.ofMapped carried).bits.toNat < 0xfec0 * 2 ^ 112)) := by omega
    simp only [hother, exists_eq_left', hout, false_or]
  | none =>
    have hnot (other : V4) : ip ≠ .ofMapped other := by
      intro h
      rw [V6.mapped?_eq_some_iff.2 h] at hmapped
      contradiction
    have hloopback : (ip == .loopback) = true ↔ ip.bits.toNat = 1 := by
      rw [beq_iff_eq, ← V6.toNat_inj]
      rfl
    simp only [hnot, false_and, exists_false, or_false, Bool.or_eq_true, hloopback,
      V6.isUniqueLocal_iff, V6.isLinkLocal_iff, or_assoc]

/-! ## Subnets -/

namespace Subnet

/-- The mask of the subnet keeps so many first bits of an address. -/
def HasPrefix : Subnet → Nat → Prop
  | v4 _ mask, length => IsPrefixMask mask.bits length
  | v6 _ mask, length => IsPrefixMask mask.bits length

instance (s : Subnet) (length : Nat) : Decidable (s.HasPrefix length) :=
  match s with
  | v4 _ mask => inferInstanceAs (Decidable (IsPrefixMask mask.bits length))
  | v6 _ mask => inferInstanceAs (Decidable (IsPrefixMask mask.bits length))

/-- From the address of the subnet whose bits outside the mask are clear to the one where all
of them are set. -/
def range : Subnet → AddressRange
  | v4 ip mask => { first := .v4 ⟨ip.bits &&& mask.bits⟩, last := .v4 ⟨ip.bits ||| ~~~mask.bits⟩ }
  | v6 ip mask => { first := .v6 ⟨ip.bits &&& mask.bits⟩, last := .v6 ⟨ip.bits ||| ~~~mask.bits⟩ }

/-- A subnet with a mask that is not empty holds the addresses of its range. -/
theorem contains_iff {s : Subnet} {length : Nat} (h : s.HasPrefix length) (hpos : 1 ≤ length)
    (a : Address) : s.contains a = true ↔ s.range.Holds a := by
  match s, a, h with
  | v4 ip mask, .v4 a, h =>
    exact (IsPrefixMask.agrees_iff h hpos a.bits ip.bits).trans (and_iff_right rfl).symm
  | v6 ip mask, .v6 a, h =>
    exact (IsPrefixMask.agrees_iff h hpos a.bits ip.bits).trans (and_iff_right rfl).symm
  | v4 .., .v6 _, _ => exact iff_of_false Bool.false_ne_true fun hin => Bool.false_ne_true hin.1
  | v6 .., .v4 _, _ => exact iff_of_false Bool.false_ne_true fun hin => Bool.noConfusion hin.1

/-- An empty mask holds nothing. -/
theorem contains_of_empty {s : Subnet} (h : s.HasPrefix 0) (a : Address) :
    s.contains a = false := by
  match s, a, h with
  | v4 ip mask, .v4 a, h => simp [contains, (IsPrefixMask.eq_zero_iff h).2 rfl]
  | v6 ip mask, .v6 a, h => simp [contains, (IsPrefixMask.eq_zero_iff h).2 rfl]
  | v4 .., .v6 _, _ => rfl
  | v6 .., .v4 _, _ => rfl

/-- The ends of the range are as far apart as there are numbers outside the mask. -/
theorem number_last {s : Subnet} {length : Nat} (h : s.HasPrefix length) :
    s.range.last.number + 1 = s.range.first.number + 2 ^ (s.address.width - length) := by
  have hpos : 0 < 2 ^ (s.address.width - length) := Nat.two_pow_pos _
  match s, h with
  | v4 ip mask, h =>
    have hlast := IsPrefixMask.toNat_or_not h ip.bits
    rw [← IsPrefixMask.toNat_and h] at hlast
    simp only [range, Address.number, hlast, address, Address.width] at hpos ⊢
    omega
  | v6 ip mask, h =>
    have hlast := IsPrefixMask.toNat_or_not h ip.bits
    rw [← IsPrefixMask.toNat_and h] at hlast
    simp only [range, Address.number, hlast, address, Address.width] at hpos ⊢
    omega

end Subnet

/-! ## Judgements as comparisons -/

/-- Every judgement about an address is a comparison of numbers.

* An address is private if it lies in one of the ranges that stay local, or if it carries an
  address of version 4 that is private.
* Let the mask of a subnet keep some first bits of an address, at least one. The subnet holds
  the addresses of its version from its lowest to its highest, both of which it holds; there
  are as many of them as there are numbers of the bits outside the mask.
* A subnet with an empty mask holds nothing. -/
theorem address_ranges_exact :
    (∀ a : Address, a.isPrivate = true ↔ (∃ range ∈ privateRanges, range.Holds a) ∨
      ∃ ip : V4, a = .v6 (.ofMapped ip) ∧ (Address.v4 ip).isPrivate = true) ∧
    (∀ (s : Subnet) (length : Nat), s.HasPrefix length → 1 ≤ length →
      (∀ a, s.contains a = true ↔ s.range.Holds a) ∧
      s.contains s.range.first = true ∧ s.contains s.range.last = true ∧
      s.range.last.number + 1 = s.range.first.number + 2 ^ (s.address.width - length)) ∧
    ∀ s : Subnet, s.HasPrefix 0 → ∀ a, s.contains a = false := by
  refine ⟨fun a => ?_, fun s length h hpos => ?_, fun s h => Subnet.contains_of_empty h⟩
  · cases a with
    | v4 ip =>
      simpa only [Address.isPrivate, reduceCtorEq, false_and, exists_false, or_false]
        using ip.isPrivate_iff
    | v6 ip => simpa only [Address.isPrivate, Address.v6.injEq] using ip.isPrivate_iff
  · have hrange := Subnet.contains_iff h hpos
    have hnumber := Subnet.number_last h
    have hsize : 0 < 2 ^ (s.address.width - length) := Nat.two_pow_pos _
    have hends : s.range.first.number ≤ s.range.last.number := by omega
    exact ⟨hrange, (hrange _).2 ⟨rfl, Nat.le_refl _, hends⟩,
      (hrange _).2 ⟨s.range.sameVersion.symm, hends, Nat.le_refl _⟩, hnumber⟩

/-- A subnet of sixteen addresses. -/
def tenants : Subnet := .v4 (.ofOctets 203 0 113 77) (.ofOctets 255 255 255 240)

/-- The last of them are in it, and the next one is not. -/
theorem tenants_in_range :
    tenants.HasPrefix 28 ∧ tenants.range.last = .v4 (.ofOctets 203 0 113 79) ∧
    tenants.contains (.v4 (.ofOctets 203 0 113 79)) = true ∧
    ¬tenants.contains (.v4 (.ofOctets 203 0 113 80)) = true ∧
    tenants.range.last.number + 1 = tenants.range.first.number + 16 ∧
    (Subnet.v6 .loopback .unspecified).HasPrefix 0 ∧
    (Subnet.v6 .loopback .unspecified).contains (.v6 .loopback) = false := by
  have hmask : tenants.HasPrefix 28 := by decide
  have hlast : tenants.range.last = .v4 (.ofOctets 203 0 113 79) := by decide
  have hempty : (Subnet.v6 .loopback .unspecified).HasPrefix 0 := by decide
  obtain ⟨-, hsubnet, hnothing⟩ := address_ranges_exact
  obtain ⟨hrange, -, hin, hsize⟩ := hsubnet tenants 28 hmask (by decide)
  refine ⟨hmask, hlast, hlast ▸ hin, ?_, hsize, hempty, hnothing _ hempty _⟩
  rw [hrange]
  rintro ⟨-, -, hle⟩
  exact absurd hle (by decide)

end Ssdp
