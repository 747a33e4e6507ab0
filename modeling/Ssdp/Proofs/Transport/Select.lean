import Ssdp.Proofs.Net.Interface

/-!
# The interfaces that a target selects

What is selected are the addresses that a target picks among those there are to bind, or the
one address that leaves the choice to the operating system if it picks none. For version 6 an
address is picked by the index it resolves to, and one that resolves to none is not picked.

* `mem_pickedV4_iff`, `mem_pickedV6_iff`: the addresses that are picked;
* `selection_agrees`: what is selected on a machine.
-/

namespace Ssdp

/-! ## The addresses of one version -/

theorem map_v4Addresses (addresses : List Address) :
    (v4Addresses addresses).map Address.v4 = addresses.filter (·.isV4) := by
  induction addresses with
  | nil => rfl
  | cons a rest ih => cases a <;> simp_all [v4Addresses, Address.isV4]

theorem map_v6Addresses (addresses : List Address) :
    (v6Addresses addresses).map Address.v6 = addresses.filter (!·.isV4) := by
  induction addresses with
  | nil => rfl
  | cons a rest ih => cases a <;> simp_all [v6Addresses, Address.isV4]

theorem mem_v4Addresses {ip : V4} {addresses : List Address} :
    ip ∈ v4Addresses addresses ↔ .v4 ip ∈ addresses := by
  rw [← List.mem_map_of_injective (fun _ _ => Address.v4.inj), map_v4Addresses]
  simp [Address.isV4]

theorem mem_v6Addresses {ip : V6} {addresses : List Address} :
    ip ∈ v6Addresses addresses ↔ .v6 ip ∈ addresses := by
  rw [← List.mem_map_of_injective (fun _ _ => Address.v6.inj), map_v6Addresses]
  simp [Address.isV4]

theorem nodup_v4Addresses {addresses : List Address} (h : addresses.Nodup) :
    (v4Addresses addresses).Nodup := by
  apply List.Nodup.of_map Address.v4
  rw [map_v4Addresses]
  exact h.filter _

/-! ## What is picked -/

/-- The addresses of version 4 that a target picks. -/
def pickedV4 (target : Target V4) (addresses : List Address) : List V4 :=
  match target with
  | .default => []
  | .specific ip => [ip]
  | .multi ips => ascending (fun a b => a.bits.ult b.bits) ips
  | .all => v4Addresses addresses

/-- The addresses of version 6 that a target picks, with their indexes. -/
def pickedV6 (target : Target Nat) (resolve : V6 → Except IoError Nat)
    (addresses : List Address) : List (V6 × Nat) :=
  match target with
  | .default => []
  | target =>
    ((v6Addresses addresses).filterMap fun ip => ((resolve ip).toOption).map (ip, ·)).filter
      fun (_, index) => target.selects index

theorem selectV4_eq (target : Target V4) (addresses : List Address) :
    selectV4 target addresses =
      if (pickedV4 target addresses).isEmpty then [.unspecified] else pickedV4 target addresses :=
  rfl

theorem selectV6_eq (target : Target Nat) (resolve : V6 → Except IoError Nat)
    (addresses : List Address) : selectV6 target resolve addresses =
      if (pickedV6 target resolve addresses).isEmpty then [(.unspecified, 0)]
      else pickedV6 target resolve addresses := by
  cases target <;> rfl

/-- A target picks what it selects, and everything there is if it selects all. -/
theorem mem_pickedV4_iff {target : Target V4} {addresses : List Address} {ip : V4} :
    ip ∈ pickedV4 target addresses ↔
      target.selects ip = true ∧ (target = .all → .v4 ip ∈ addresses) := by
  cases target with
  | default => simp [pickedV4, Target.selects]
  | all => simp [pickedV4, Target.selects, mem_v4Addresses]
  | specific member =>
    rw [pickedV4, List.mem_singleton, Target.selects, beq_iff_eq, eq_comm]
    exact (and_iff_left nofun).symm
  | multi members => simp [pickedV4, Target.selects, mem_ascending]

theorem nodup_pickedV4 (target : Target V4) {addresses : List Address} (h : addresses.Nodup) :
    (pickedV4 target addresses).Nodup := by
  cases target with
  | default => exact List.nodup_nil
  | all => exact nodup_v4Addresses h
  | specific member => exact List.nodup_singleton member
  | multi members =>
    exact nodup_of_pairwise V4.ult_iff (pairwise_ascending V4.toNat_injective V4.ult_iff members)

/-- A target picks the addresses that resolve to an index it selects. -/
theorem mem_pickedV6_iff {target : Target Nat} {resolve : V6 → Except IoError Nat}
    {addresses : List Address} {ip : V6} {index : Nat} :
    (ip, index) ∈ pickedV6 target resolve addresses ↔
      .v6 ip ∈ addresses ∧ resolve ip = .ok index ∧ target.selects index = true := by
  have hresolved : (ip, index) ∈ (v6Addresses addresses).filterMap
      (fun ip => ((resolve ip).toOption).map (ip, ·)) ↔
      .v6 ip ∈ addresses ∧ resolve ip = .ok index := by
    simp [List.mem_filterMap, mem_v6Addresses, toOption_eq_some_iff]
  cases target with
  | default => simp [pickedV6, Target.selects]
  | all | specific _ | multi _ =>
    rw [pickedV6, List.mem_filter, hresolved, and_assoc]
    exact nofun

/-- Addresses that are taken with what they resolve to stay in order. -/
theorem sublist_map_fst {α β : Type} (f : α → Option β) (xs : List α) :
    ((xs.filterMap fun x => (f x).map (x, ·)).map Prod.fst).Sublist xs := by
  induction xs with
  | nil => exact List.Sublist.slnil
  | cons x rest ih =>
    cases hx : f x with
    | none =>
      rw [List.filterMap_cons_none (by rw [hx]; rfl)]
      exact ih.cons x
    | some y =>
      rw [List.filterMap_cons_some (by rw [hx]; rfl), List.map_cons]
      exact ih.cons_cons x

theorem sublist_pickedV6 (target : Target Nat) (resolve : V6 → Except IoError Nat)
    (addresses : List Address) :
    ((pickedV6 target resolve addresses).map fun pick => Address.v6 pick.1).Sublist
      addresses := by
  have hresolved (keep : V6 × Nat → Bool) :
      ((((v6Addresses addresses).filterMap fun ip => ((resolve ip).toOption).map (ip, ·)).filter
        keep).map fun pick => Address.v6 pick.1).Sublist addresses := by
    have hfst := ((List.filter_sublist (p := keep)).map Prod.fst).trans
      (sublist_map_fst (fun ip => (resolve ip).toOption) (v6Addresses addresses))
    have hv6 : ((v6Addresses addresses).map Address.v6).Sublist addresses := by
      rw [map_v6Addresses]
      exact List.filter_sublist
    have hpicks := hfst.map Address.v6
    rw [List.map_map] at hpicks
    exact hpicks.trans hv6
  cases target with
  | default => exact List.nil_sublist addresses
  | all | specific _ | multi _ => exact hresolved _

theorem nodup_pickedV6 (target : Target Nat) (resolve : V6 → Except IoError Nat)
    {addresses : List Address} (h : addresses.Nodup) :
    (pickedV6 target resolve addresses).Nodup :=
  List.Nodup.of_map _ ((sublist_pickedV6 target resolve addresses).nodup h)

/-! ## What is selected -/

section Fallback

variable {α : Type} {fallback : α} {picked : List α}

/-- What is picked, or the fallback if that is nothing, is never nothing. -/
theorem orFallback_ne_nil : (if picked.isEmpty then [fallback] else picked) ≠ [] := by
  cases picked <;> simp

theorem orFallback_nodup (h : picked.Nodup) :
    (if picked.isEmpty then [fallback] else picked).Nodup := by
  cases picked with
  | nil => exact List.nodup_singleton fallback
  | cons => exact h

theorem orFallback_of_mem {x : α} (h : x ∈ picked) :
    (if picked.isEmpty then [fallback] else picked) = picked := by
  cases picked with
  | nil => contradiction
  | cons => rfl

theorem orFallback_of_forall_not_mem (h : ∀ x, x ∉ picked) :
    (if picked.isEmpty then [fallback] else picked) = [fallback] := by
  rw [List.eq_nil_iff_forall_not_mem.2 h]
  rfl

end Fallback

section Selected

variable {addresses : List Address}

theorem selectV4_of_picked {target : Target V4} {ip : V4} (h : ip ∈ pickedV4 target addresses) :
    selectV4 target addresses = pickedV4 target addresses := by
  rw [selectV4_eq]
  exact orFallback_of_mem h

theorem selectV4_of_not_picked {target : Target V4} (h : ∀ ip, ip ∉ pickedV4 target addresses) :
    selectV4 target addresses = [.unspecified] := by
  rw [selectV4_eq]
  exact orFallback_of_forall_not_mem h

theorem selectV6_of_picked {target : Target Nat} {resolve : V6 → Except IoError Nat}
    {pick : V6 × Nat} (h : pick ∈ pickedV6 target resolve addresses) :
    selectV6 target resolve addresses = pickedV6 target resolve addresses := by
  rw [selectV6_eq]
  exact orFallback_of_mem h

theorem selectV6_of_not_picked {target : Target Nat} {resolve : V6 → Except IoError Nat}
    (h : ∀ pick, pick ∉ pickedV6 target resolve addresses) :
    selectV6 target resolve addresses = [(.unspecified, 0)] := by
  rw [selectV6_eq]
  exact orFallback_of_forall_not_mem h

/-- What is selected is the fallback, or selected by the target. -/
theorem selectV4_fallback_or (target : Target V4) (addresses : List Address) :
    selectV4 target addresses = [.unspecified] ∨
      ∀ ip ∈ selectV4 target addresses, target.selects ip = true := by
  by_cases hpicked : ∃ ip, ip ∈ pickedV4 target addresses
  · obtain ⟨ip, hip⟩ := hpicked
    rw [selectV4_of_picked hip]
    exact .inr fun other hother => (mem_pickedV4_iff.1 hother).1
  · exact .inl (selectV4_of_not_picked (not_exists.1 hpicked))

/-- With every index that is resolved not zero, only the fallback has the index zero. -/
theorem selectV6_eq_fallback_iff {target : Target Nat} {resolve : V6 → Except IoError Nat}
    (hresolve : ∀ ip, resolve ip ≠ .ok 0) :
    selectV6 target resolve addresses = [(.unspecified, 0)] ↔
      ∀ pick, pick ∉ pickedV6 target resolve addresses := by
  refine ⟨fun hfallback pick hpick => ?_, selectV6_of_not_picked⟩
  rw [selectV6_of_picked hpick] at hfallback
  have hzero : (V6.unspecified, 0) ∈ pickedV6 target resolve addresses :=
    hfallback ▸ List.mem_singleton_self _
  exact hresolve _ (mem_pickedV6_iff.1 hzero).2.1

/-- Then the index zero is selected only if nothing else is. -/
theorem selectV6_of_zero {target : Target Nat} {resolve : V6 → Except IoError Nat}
    (hresolve : ∀ ip, resolve ip ≠ .ok 0) {ip : V6}
    (h : (ip, 0) ∈ selectV6 target resolve addresses) :
    selectV6 target resolve addresses = [(.unspecified, 0)] := by
  rw [selectV6_eq_fallback_iff hresolve]
  intro pick hpick
  rw [selectV6_of_picked hpick] at h
  exact hresolve ip (mem_pickedV6_iff.1 h).2.1

end Selected

/-- What a target selects on a machine, for any way in which addresses resolve to indexes,
which may fail and never gives zero.

* The addresses to bind are those of the interfaces that are not loopback, in strictly
  ascending order.
* What is selected of version 4 is never nothing, and nothing twice. Every selected address is
  one that the target selects, unless what is selected is the unspecified address alone. It is
  exactly what the target names, or every address there is to bind if it names none, whenever
  there is such an address; these stand in order.
* What is selected of version 6 is never nothing, and nothing twice. It is exactly the
  addresses to bind that resolve to an index the target selects, in order and each with this
  index, which is not zero; it is the unspecified address with the index zero if and only if
  there are none, and so if the operating system is to choose. -/
theorem selection_agrees (m : Machine) (target4 : Target V4) (target6 : Target Nat)
    {resolve : V6 → Except IoError Nat} (hresolve : ∀ ip, resolve ip ≠ .ok 0) :
    (m.bindAddresses.Pairwise (fun a b => a.before b = true) ∧
      ∀ a, a ∈ m.bindAddresses ↔
        a.isLoopback = false ∧ ∃ i ∈ m.interfaces, i.subnet.address = a) ∧
    (let ips := selectV4 target4 m.bindAddresses
      let picks (ip : V4) : Prop :=
        target4.selects ip = true ∧ (target4 = .all → .v4 ip ∈ m.bindAddresses)
      ips ≠ [] ∧ ips.Nodup ∧ (ips = [.unspecified] ∨ ∀ ip ∈ ips, target4.selects ip = true) ∧
      ((∃ ip, picks ip) → ∀ ip, ip ∈ ips ↔ picks ip) ∧
      (target4 = .all → (∃ ip, .v4 ip ∈ m.bindAddresses) →
        ips.map Address.v4 = m.bindAddresses.filter (·.isV4))) ∧
    (let ips := selectV6 target6 resolve m.bindAddresses
      let picks (ip : V6) (index : Nat) : Prop :=
        .v6 ip ∈ m.bindAddresses ∧ resolve ip = .ok index ∧ target6.selects index = true
      ips ≠ [] ∧ ips.Nodup ∧
      ((∃ ip index, picks ip index) → (∀ ip index, (ip, index) ∈ ips ↔ picks ip index) ∧
        (ips.map fun pick => Address.v6 pick.1).Sublist m.bindAddresses ∧
        ∀ pick ∈ ips, pick.2 ≠ 0) ∧
      (ips = [(.unspecified, 0)] ↔ ¬∃ ip index, picks ip index) ∧
      (target6 = .default → ips = [(.unspecified, 0)])) := by
  refine ⟨⟨m.pairwise_bindAddresses, m.mem_bindAddresses_iff⟩, ?_, ?_⟩
  · intro ips picks
    have hpicked {ip : V4} (h : picks ip) : ip ∈ pickedV4 target4 m.bindAddresses :=
      mem_pickedV4_iff.2 h
    refine ⟨orFallback_ne_nil, orFallback_nodup (nodup_pickedV4 target4 m.nodup_bindAddresses),
      selectV4_fallback_or target4 m.bindAddresses, ?_, ?_⟩
    · rintro ⟨first, hfirst⟩ ip
      rw [show ips = _ from selectV4_of_picked (hpicked hfirst)]
      exact mem_pickedV4_iff
    · rintro rfl ⟨first, hfirst⟩
      rw [show ips = _ from selectV4_of_picked (hpicked ⟨rfl, fun _ => hfirst⟩)]
      exact map_v4Addresses m.bindAddresses
  · intro ips picks
    have hpicks {ip : V6} {index : Nat} :
        (ip, index) ∈ pickedV6 target6 resolve m.bindAddresses ↔ picks ip index :=
      mem_pickedV6_iff
    have hnone : ips = [(.unspecified, 0)] ↔ ¬∃ ip index, picks ip index := by
      rw [show ips = _ from rfl, selectV6_eq_fallback_iff hresolve]
      simp only [Prod.forall, hpicks, not_exists]
    refine ⟨?_, ?_, ?_, hnone, ?_⟩
    · rw [show ips = _ from selectV6_eq ..]
      exact orFallback_ne_nil
    · rw [show ips = _ from selectV6_eq ..]
      exact orFallback_nodup (nodup_pickedV6 target6 resolve m.nodup_bindAddresses)
    · rintro ⟨first, index, hfirst⟩
      rw [show ips = _ from selectV6_of_picked (hpicks.2 hfirst)]
      refine ⟨fun ip index => hpicks, sublist_pickedV6 .., ?_⟩
      rintro ⟨ip, index⟩ hpick rfl
      exact hresolve ip (hpicks.1 hpick).2.1
    · rintro rfl
      exact selectV6_of_not_picked fun _ => List.not_mem_nil

/-- A machine with two addresses on one interface, one on another, and one on an interface
that has no index. -/
def twoLinks : Machine where
  interfaces :=
    [⟨"wlan0".toList, .v6 (.ofGroups [0xfe80, 0, 0, 0, 0, 0, 0, 2]) .unspecified⟩,
     ⟨"eth0".toList, .v6 (.ofGroups [0xfe80, 0, 0, 0, 0, 0, 0, 1]) .unspecified⟩,
     ⟨"tun0".toList, .v6 (.ofGroups [0xfd00, 0, 0, 0, 0, 0, 0, 1]) .unspecified⟩,
     ⟨"eth0".toList, .v4 (.ofOctets 192 168 1 2) .unspecified⟩,
     ⟨"lo".toList, .v6 .loopback .unspecified⟩]
  indexOf name :=
    if name = "eth0".toList then some 2 else if name = "wlan0".toList then some 3 else none

/-- Of version 6, the address whose index is named is selected, one with another index and
one without an index are not; of version 4 all there is. -/
theorem twoLinks_selection :
    (∀ ip, twoLinks.indexOfAddress ip ≠ .ok 0) ∧
    (let ips := selectV6 (.multi [2, 9]) twoLinks.indexOfAddress twoLinks.bindAddresses
     ips.Nodup ∧ (.ofGroups [0xfe80, 0, 0, 0, 0, 0, 0, 1], 2) ∈ ips ∧
      (.ofGroups [0xfe80, 0, 0, 0, 0, 0, 0, 2], 3) ∉ ips ∧
      ∀ index, (.ofGroups [0xfd00, 0, 0, 0, 0, 0, 0, 1], index) ∉ ips) ∧
    selectV4 .all twoLinks.bindAddresses = [.ofOctets 192 168 1 2] := by
  have hresolve := twoLinks.indexOfAddress_ne_zero
  have hpick : Address.v6 (.ofGroups [0xfe80, 0, 0, 0, 0, 0, 0, 1]) ∈ twoLinks.bindAddresses ∧
      twoLinks.indexOfAddress (.ofGroups [0xfe80, 0, 0, 0, 0, 0, 0, 1]) = .ok 2 ∧
      (Target.multi [2, 9]).selects 2 = true := by decide
  obtain ⟨-, ⟨-, -, -, -, hall⟩, -, hnodup, hpicked, -⟩ :=
    selection_agrees twoLinks .all (.multi [2, 9]) hresolve
  obtain ⟨hmem, -⟩ := hpicked ⟨_, _, hpick⟩
  refine ⟨hresolve, ⟨hnodup, (hmem _ _).2 hpick, fun h => ?_, fun index h => ?_⟩, ?_⟩
  · exact absurd ((hmem _ _).1 h).2.2 (by decide)
  · have herror : twoLinks.indexOfAddress (.ofGroups [0xfd00, 0, 0, 0, 0, 0, 0, 1]) =
        .error .interfaceNotFound := by decide
    exact absurd (herror.symm.trans ((hmem _ _).1 h).2.1) nofun
  · have hv4 := hall rfl ⟨.ofOctets 192 168 1 2, by decide⟩
    rw [show twoLinks.bindAddresses.filter (·.isV4) = [.v4 (.ofOctets 192 168 1 2)] by decide]
      at hv4
    exact List.map_injective_iff.2 (fun _ _ => Address.v4.inj) hv4

end Ssdp
