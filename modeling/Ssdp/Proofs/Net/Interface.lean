import Ssdp.Proofs.Net.Scope
import Ssdp.Transport.Loopback

/-!
# What a machine knows of its network

The addresses that a machine binds are in strictly ascending order, so none of them is there
twice. An address is local by itself or by the subnet of an interface. Only the first of these
two judgements looks through an address of version 6 at the address of version 4 it may carry:
a subnet holds at most one of the two.

* `pairwise_ascending`, `mem_ascending`: what putting a list into ascending order makes of it;
* `Machine.pairwise_bindAddresses`, `Machine.mem_bindAddresses_iff`: the addresses to bind;
* `locality_of_carried`: when an address and the one that carries it are both local or both
  not, and `neighbour_carried_foreign`, where they differ.
-/

namespace Ssdp

/-! ## Ascending lists -/

section Ascending

variable {α : Type} [DecidableEq α] {before : α → α → Bool}

theorem mem_insertAscending {x y : α} {xs : List α} :
    y ∈ insertAscending before x xs ↔ y = x ∨ y ∈ xs := by
  induction xs with
  | nil => simp [insertAscending]
  | cons z rest ih =>
    rw [insertAscending]
    split_ifs with heq hbefore
    · simp [heq]
    · simp
    · simp only [List.mem_cons, ih]
      tauto

theorem mem_ascending {x : α} {xs : List α} : x ∈ ascending before xs ↔ x ∈ xs := by
  induction xs with
  | nil => rfl
  | cons y rest ih =>
    rw [List.mem_cons, ← ih]
    exact mem_insertAscending

variable {key : α → Nat} (hkey : Function.Injective key)
  (hbefore : ∀ a b, before a b = true ↔ key a < key b)
include hkey hbefore

theorem pairwise_insertAscending (x : α) {xs : List α} (h : xs.Pairwise fun a b => key a < key b) :
    (insertAscending before x xs).Pairwise fun a b => key a < key b := by
  induction xs with
  | nil => exact List.pairwise_singleton _ x
  | cons y rest ih =>
    obtain ⟨hfirst, hrest⟩ := List.pairwise_cons.1 h
    rw [insertAscending]
    split_ifs with heq hlt
    · exact h
    · rw [hbefore] at hlt
      refine List.pairwise_cons.2 ⟨fun z hz => ?_, h⟩
      rcases List.mem_cons.1 hz with rfl | hz
      · exact hlt
      · exact hlt.trans (hfirst z hz)
    · rw [hbefore, Nat.not_lt] at hlt
      refine List.pairwise_cons.2 ⟨fun z hz => ?_, ih hrest⟩
      rcases mem_insertAscending.1 hz with rfl | hz
      · exact Nat.lt_of_le_of_ne hlt fun h => heq (hkey h).symm
      · exact hfirst z hz

/-- A list in ascending order has its elements strictly one after the other. -/
theorem pairwise_ascending (xs : List α) :
    (ascending before xs).Pairwise fun a b => before a b = true := by
  simp only [hbefore]
  induction xs with
  | nil => exact List.Pairwise.nil
  | cons x rest ih => exact pairwise_insertAscending hkey hbefore x ih

omit [DecidableEq α] hkey in
/-- None of its elements is there twice. -/
theorem nodup_of_pairwise {xs : List α} (h : xs.Pairwise fun a b => before a b = true) :
    xs.Nodup :=
  h.imp fun {a b} hlt heq => by
    rw [hbefore, heq] at hlt
    exact Nat.lt_irrefl _ hlt

end Ascending

/-! ## The order of addresses -/

namespace V4

theorem toNat_injective : Function.Injective fun a : V4 => a.bits.toNat :=
  fun _ _ => toNat_inj.1

/-- Addresses of version 4 are ordered as numbers. -/
theorem ult_iff (a b : V4) : a.bits.ult b.bits = true ↔ a.bits.toNat < b.bits.toNat :=
  BitVec.ult_iff_toNat_lt

end V4

namespace Address

/-- The place of an address among all: version 6 begins where version 4 ends. -/
def rank : Address → Nat
  | v4 ip => ip.bits.toNat
  | v6 ip => 2 ^ 32 + ip.bits.toNat

theorem rank_injective : Function.Injective rank := by
  intro a b h
  match a, b, h with
  | v4 a, v4 b, h => exact congrArg v4 (V4.toNat_inj.1 h)
  | v6 a, v6 b, h => exact congrArg v6 (V6.toNat_inj.1 (Nat.add_left_cancel h))
  | v4 a, v6 b, h => exact absurd a.bits.isLt (by simp only [rank] at h; omega)
  | v6 a, v4 b, h => exact absurd b.bits.isLt (by simp only [rank] at h; omega)

theorem before_iff (a b : Address) : a.before b = true ↔ a.rank < b.rank := by
  match a, b with
  | v4 a, v4 b => exact V4.ult_iff a b
  | v6 a, v6 b => exact BitVec.ult_iff_toNat_lt.trans (Nat.add_lt_add_iff_left).symm
  | v4 a, v6 b =>
    have ha := a.bits.isLt
    simp only [before, rank, true_iff]
    omega
  | v6 a, v4 b =>
    have hb := b.bits.isLt
    simp only [before, rank, Bool.false_eq_true, false_iff]
    omega

end Address

/-! ## The addresses to bind -/

theorem toOption_eq_some_iff {ε α : Type} {e : Except ε α} {a : α} :
    e.toOption = some a ↔ e = .ok a := by
  cases e <;> simp [Except.toOption]

namespace Machine

/-- The addresses to bind stand in strictly ascending order. -/
theorem pairwise_bindAddresses (m : Machine) :
    m.bindAddresses.Pairwise fun a b => a.before b = true :=
  pairwise_ascending Address.rank_injective Address.before_iff _

theorem nodup_bindAddresses (m : Machine) : m.bindAddresses.Nodup :=
  nodup_of_pairwise Address.before_iff m.pairwise_bindAddresses

/-- They are the addresses of the interfaces that are not loopback. -/
theorem mem_bindAddresses_iff (m : Machine) (a : Address) :
    a ∈ m.bindAddresses ↔ a.isLoopback = false ∧ ∃ i ∈ m.interfaces, i.subnet.address = a := by
  simp only [bindAddresses, mem_ascending, List.mem_filter, List.mem_map, Bool.not_eq_true',
    and_comm]

/-- An index that an address resolves to is not zero. -/
theorem indexOfAddress_ne_zero (m : Machine) (ip : V6) : m.indexOfAddress ip ≠ .ok 0 := by
  have hname (name : Text) : m.indexOfName name ≠ .ok 0 := by
    rw [indexOfName]
    split_ifs
    · exact nofun
    · split
      · simp
      · exact nofun
  intro hzero
  rw [indexOfAddress] at hzero
  split at hzero
  case h_1 index hhead =>
    obtain ⟨i, -, hi⟩ := List.mem_filterMap.1 (List.mem_of_head? hhead)
    rw [Option.ite_none_right_eq_some, toOption_eq_some_iff] at hi
    exact hname i.name (hi.2.trans hzero)
  case h_2 => contradiction

/-! ## Local addresses -/

theorem isLocal_iff (m : Machine) (a : Address) : m.isLocal a = true ↔
    a.isPrivate = true ∨ ∃ i ∈ m.interfaces, i.subnet.contains a = true := by
  rw [isLocal, Bool.or_eq_true, List.any_eq_true]

end Machine

theorem Address.isPrivate_ofMapped (ip : V4) :
    (Address.v6 (.ofMapped ip)).isPrivate = (Address.v4 ip).isPrivate := by
  show (V6.ofMapped ip).isPrivate = ip.isPrivate
  simp only [V6.isPrivate, V6.mapped?_ofMapped]

/-- A subnet that holds an address does not hold the one that carries it. -/
theorem Subnet.contains_ofMapped {s : Subnet} {ip : V4} (h : s.contains (.v4 ip) = true) :
    s.contains (.v6 (.ofMapped ip)) = false := by
  cases s with
  | v4 => rfl
  | v6 => contradiction

/-- An address of version 4 and the one of version 6 that carries it.

* They are both private or both not.
* A subnet that holds the one does not hold the other.
* So they are both local or both not exactly if they are private, or if the subnets of the
  interfaces hold both of them or neither. -/
theorem locality_of_carried (m : Machine) (ip : V4) :
    (Address.v6 (.ofMapped ip)).isPrivate = (Address.v4 ip).isPrivate ∧
    (∀ s : Subnet, s.contains (.v4 ip) = true → s.contains (.v6 (.ofMapped ip)) = false) ∧
    (m.isLocal (.v6 (.ofMapped ip)) = m.isLocal (.v4 ip) ↔ (Address.v4 ip).isPrivate = true ∨
      ((∃ i ∈ m.interfaces, i.subnet.contains (.v6 (.ofMapped ip)) = true) ↔
        ∃ i ∈ m.interfaces, i.subnet.contains (.v4 ip) = true)) := by
  refine ⟨Address.isPrivate_ofMapped ip, fun s => Subnet.contains_ofMapped, ?_⟩
  rw [Bool.eq_iff_iff, m.isLocal_iff, m.isLocal_iff, Address.isPrivate_ofMapped]
  by_cases hprivate : (Address.v4 ip).isPrivate = true
  · simp only [hprivate, true_or]
  · simp only [hprivate, Bool.false_eq_true, false_or]

/-- A neighbour is local, but not when it is written as an address of version 6. -/
theorem neighbour_carried_foreign :
    loopbackMachine.isLocal (.v4 (.ofOctets 100 64 3 7)) = true ∧
    loopbackMachine.isLocal (.v6 (.ofMapped (.ofOctets 100 64 3 7))) = false := by
  decide

end Ssdp
