import Mathlib.Algebra.Order.Group.Multiset
import Ssdp.Cache

/-!
# The cache as a map

A cache that is changed only through its operations holds every device under
its own key, and no key twice (`Cache.Sound`). Such a cache is a map from keys
to devices (`Cache.device?`), and its operations are operations on that map:

* `device?_replace`, `replace_snd`: a device is put under its key, and the one
  found there before is given back;
* `device?_takeOut`: the devices taken out are gone, all others stay;
* `Sound.find?_eq`: a search by type and `USN` finds what is under the key of both;
* `Sound.replace`, `Sound.takeOut`: the cache stays sound.

No device is lost or doubled on the way: those put in are cached or given back
(`devices_replace`, `devices_takeOut`).
-/

namespace Ssdp.Cache

/-- Every device is under its own key, and no key is there twice. -/
structure Sound (c : Cache) : Prop where
  keyed : ∀ e ∈ c.entries, e.1 = e.2.key
  distinct : (c.entries.map (·.1)).Nodup

/-- The device under a key. -/
def device? (c : Cache) (k : DeviceKey) : Option Device :=
  c.entries.lookup k

theorem sound_empty : Sound {} :=
  ⟨fun _ h => (List.not_mem_nil h).elim, List.nodup_nil⟩

theorem mem_of_device? {c : Cache} {k : DeviceKey} {d : Device} (h : c.device? k = some d) :
    (k, d) ∈ c.entries := by
  obtain ⟨before, after, he, -⟩ := List.lookup_eq_some_iff.1 h
  rw [he]
  exact List.mem_append_right _ List.mem_cons_self

/-- Where keys are distinct, looking a key up finds every entry. -/
theorem Sound.device?_eq_some_iff {c : Cache} (h : c.Sound) {k : DeviceKey} {d : Device} :
    c.device? k = some d ↔ (k, d) ∈ c.entries := by
  refine ⟨mem_of_device?, fun hm => ?_⟩
  obtain ⟨before, after, he⟩ := List.append_of_mem hm
  refine List.lookup_eq_some_iff.2 ⟨before, after, he, fun e hb => ?_⟩
  have hd := h.distinct
  rw [he, List.map_append, List.nodup_append] at hd
  have hne := hd.2.2 e.1 (List.mem_map_of_mem hb) k (by simp)
  exact bne_iff_ne.2 hne.symm

/-- The cached devices are those found under their own keys. -/
theorem Sound.mem_devices_iff {c : Cache} (h : c.Sound) {d : Device} :
    d ∈ c.devices ↔ c.device? d.key = some d := by
  rw [h.device?_eq_some_iff, devices, List.mem_map]
  constructor
  · rintro ⟨e, he, rfl⟩
    rw [← h.keyed e he]
    exact he
  · intro he
    exact ⟨_, he, rfl⟩

theorem Sound.key_eq {c : Cache} (h : c.Sound) {k : DeviceKey} {d : Device}
    (hd : c.device? k = some d) : d.key = k :=
  (h.keyed _ (mem_of_device? hd)).symm

/-- The devices have the keys of the entries. -/
theorem Sound.map_key_devices {c : Cache} (h : c.Sound) :
    c.devices.map Device.key = c.entries.map (·.1) := by
  rw [devices, List.map_map]
  exact List.map_congr_left fun e he => (h.keyed e he).symm

/-- No two devices have the same type and `USN`. -/
theorem Sound.nodup_keys {c : Cache} (h : c.Sound) : (c.devices.map Device.key).Nodup := by
  rw [h.map_key_devices]
  exact h.distinct

/-- A search goes through the devices and not by their keys, and finds what is under the
key nevertheless. -/
theorem Sound.find?_eq {c : Cache} (h : c.Sound) (notificationType usn : Text) :
    c.find? notificationType usn = c.device? ⟨notificationType, usn⟩ := by
  have hkey : ∀ d : Device, decide (d.notificationType = notificationType ∧ d.usn = usn) =
      decide (d.key = ⟨notificationType, usn⟩) := by
    simp [Device.key]
  simp only [find?, hkey]
  cases hd : c.device? ⟨notificationType, usn⟩ with
  | none =>
    refine List.find?_eq_none.2 fun d hmem hk => ?_
    rw [h.mem_devices_iff, of_decide_eq_true hk, hd] at hmem
    cases hmem
  | some d =>
    cases hfound : c.devices.find? fun d => decide (d.key = ⟨notificationType, usn⟩) with
    | none =>
      have hmem := h.mem_devices_iff.2 (by rwa [h.key_eq hd])
      simpa [h.key_eq hd] using List.find?_eq_none.1 hfound d hmem
    | some d' =>
      have hk : d'.key = ⟨notificationType, usn⟩ := by simpa using List.find?_some hfound
      have hd' := h.mem_devices_iff.1 (List.mem_of_find?_eq_some hfound)
      rw [hk] at hd'
      exact hd'.symm.trans hd

/-- The order of the entries makes no difference to a cache. -/
theorem Sound.perm {c c' : Cache} (h : c.Sound) (hp : c.entries.Perm c'.entries) : c'.Sound where
  keyed e he := h.keyed e (hp.mem_iff.2 he)
  distinct := (hp.map _).nodup_iff.1 h.distinct

/-! ## Putting a device under its key -/

section Place

variable {key k : DeviceKey} {d : Device} {es : List (DeviceKey × Device)}

theorem lookup_cons_eq (e : DeviceKey × Device) (es : List (DeviceKey × Device))
    (k : DeviceKey) : (e :: es).lookup k = if k = e.1 then some e.2 else es.lookup k := by
  obtain ⟨key, d⟩ := e
  by_cases h : k = key
  · simp [h]
  · rw [List.lookup_cons, beq_false_of_ne h]
    simp [h]

theorem lookup_place :
    (place key d es).1.lookup k = if k = key then some d else es.lookup k := by
  induction es with
  | nil => simp [place, lookup_cons_eq]
  | cons e rest ih =>
    by_cases he : e.1 = key
    · by_cases h : k = key <;> simp [place, lookup_cons_eq, he, h]
    · simp only [place, he, if_false, lookup_cons_eq, ih]
      by_cases h : k = e.1
      · simp [h, he]
      · simp [h]

theorem place_snd : (place key d es).2 = es.lookup key := by
  induction es with
  | nil => rfl
  | cons e rest ih =>
    rw [lookup_cons_eq]
    by_cases he : e.1 = key
    · simp [place, he]
    · simp [place, he, Ne.symm he, ih]

theorem mem_place {e : DeviceKey × Device} (h : e ∈ (place key d es).1) :
    e = (key, d) ∨ e ∈ es := by
  induction es with
  | nil => exact .inl (List.mem_singleton.1 h)
  | cons e' rest ih =>
    by_cases he : e'.1 = key
    · simp only [place, he, if_true, List.mem_cons] at h
      exact h.imp id (List.mem_cons_of_mem _)
    · simp only [place, he, if_false, List.mem_cons] at h
      rcases h with rfl | h
      · exact .inr List.mem_cons_self
      · exact (ih h).imp id (List.mem_cons_of_mem _)

/-- The keys stay where they are; a new one goes to the end. -/
theorem keys_place : (place key d es).1.map (·.1) =
    if key ∈ es.map (·.1) then es.map (·.1) else es.map (·.1) ++ [key] := by
  induction es with
  | nil => rfl
  | cons e rest ih =>
    by_cases he : e.1 = key
    · simp [place, he]
    · simp only [place, he, if_false, List.map_cons, ih, List.mem_cons, Ne.symm he, false_or]
      split <;> rfl

end Place

theorem device?_replace (c : Cache) (d : Device) (k : DeviceKey) :
    (c.replace d).1.device? k = if k = d.key then some d else c.device? k :=
  lookup_place

theorem replace_snd (c : Cache) (d : Device) : (c.replace d).2 = c.device? d.key :=
  place_snd

/-- A device that is put under a key is there after it, and the one it replaces is not. -/
theorem devices_place (key : DeviceKey) (d : Device) (es : List (DeviceKey × Device)) :
    (((place key d es).1.map (·.2) : List Device) : Multiset Device) +
        ↑(place key d es).2.toList = d ::ₘ ↑(es.map (·.2)) := by
  induction es with
  | nil => rfl
  | cons e rest ih =>
    by_cases he : e.1 = key
    · simp only [place, he, if_true, Option.toList_some, List.map_cons, ← Multiset.cons_coe,
        Multiset.add_cons, Multiset.coe_nil, add_zero]
      exact Multiset.cons_swap e.2 d _
    · simp only [place, he, if_false, List.map_cons, ← Multiset.cons_coe, Multiset.cons_add, ih]
      exact Multiset.cons_swap e.2 d _

theorem devices_replace (c : Cache) (d : Device) :
    ((c.replace d).1.devices : Multiset Device) + ↑(c.replace d).2.toList = d ::ₘ ↑c.devices :=
  devices_place d.key d c.entries

theorem Sound.replace {c : Cache} (h : c.Sound) (d : Device) : (c.replace d).1.Sound where
  keyed e he := by
    rcases mem_place he with rfl | he
    · rfl
    · exact h.keyed e he
  distinct := by
    show ((place d.key d c.entries).1.map (·.1)).Nodup
    rw [keys_place]
    split
    · exact h.distinct
    · rename_i hk
      refine List.nodup_append.2 ⟨h.distinct, by simp, fun a ha b hb => ?_⟩
      rintro rfl
      exact hk (List.mem_singleton.1 hb ▸ ha)

/-! ## Taking devices out -/

/-- The devices taken out and those that stay are those that were there. -/
theorem devices_takeOut (c : Cache) (p : DeviceKey × Device → Bool) :
    ((c.takeOut p).1.devices : Multiset Device) + ↑(c.takeOut p).2 = ↑c.devices := by
  have hperm := (List.filter_append_perm p c.entries).map (·.2)
  rw [List.map_append] at hperm
  exact (add_comm _ _).trans (Multiset.coe_eq_coe.2 hperm)

/-- What is removed under a `USN` is what a search by it finds, in the same order. -/
theorem Sound.remove_snd {c : Cache} (h : c.Sound) (usn : Text) :
    (c.remove usn).2 = c.findAll usn := by
  rw [findAll, devices, List.filter_map]
  refine congrArg (List.map Prod.snd) (List.filter_congr fun e he => ?_)
  simp [h.keyed e he, Device.key]

theorem Sound.takeOut {c : Cache} (h : c.Sound) (p : DeviceKey × Device → Bool) :
    (c.takeOut p).1.Sound where
  keyed e he := h.keyed e (List.mem_filter.1 he).1
  distinct := h.distinct.sublist (List.filter_sublist.map _)

theorem Sound.device?_takeOut {c : Cache} (h : c.Sound) (p : DeviceKey × Device → Bool)
    (k : DeviceKey) : (c.takeOut p).1.device? k = (c.device? k).filter fun d => !p (k, d) := by
  refine Option.ext fun d => ?_
  rw [(h.takeOut p).device?_eq_some_iff, Option.filter_eq_some_iff, h.device?_eq_some_iff]
  exact List.mem_filter

end Ssdp.Cache
