import Mathlib.Data.Finmap
import Ssdp.Proofs.Cache.Conservation

/-!
# The cache refines a finite map

A finite map from keys to devices has no order. Every call of a cache can be read as a
question to such a map, and whatever the order of the entries is when it is made, the
cache answers as the map does; lists of devices are compared without their order.

* `DeviceMap`, `DeviceMap.apply`, `DeviceMap.Answers`: finite maps, what a call makes of
  them, and which answers to it are right;
* `Cache.Shows`: a cache holds what a map holds, and `Cache.Shows.ask`: it does so after
  every call;
* `Cache.Shows.answers`: such a cache gives right answers;
* `cache_refines_map`: so does every cache, for the map that its calls amount to.
-/

namespace Ssdp

/-- A finite map from keys to devices. -/
abbrev DeviceMap := Finmap fun _ : DeviceKey => Device

namespace DeviceMap

variable {α : Type}

/-- The map without the entries that do not satisfy `p`. -/
def keep (m : DeviceMap) (p : DeviceKey → Device → Bool) : DeviceMap where
  entries := m.entries.filter fun e => p e.1 e.2
  nodupKeys := Multiset.nodup_keys.1 <| Multiset.nodup_of_le
    (Multiset.map_le_map (Multiset.filter_le _ _)) (Multiset.nodup_keys.2 m.nodupKeys)

/-- The devices under the keys that satisfy `p`. -/
def devicesWith (m : DeviceMap) (p : DeviceKey → Device → Bool) : Multiset Device :=
  (m.entries.filter fun e => p e.1 e.2).map (·.2)

/-- The map after a call. -/
def apply (m : DeviceMap) : CacheCall α → DeviceMap
  | .addOrUpdate d | .replace d => m.insert d.key d
  | .remove usn => m.keep fun k _ => !(k.usn = usn)
  | .sweep now => m.keep fun _ d => !d.isExpiredAt now
  | _ => m

/-- Whether an answer to a call is right, for the map before the call. -/
def Answers (m : DeviceMap) : CacheCall α → α → Prop
  | .addOrUpdate d, isNew => isNew = true ↔ d.key ∉ m
  | .replace d, old => old = m.lookup d.key
  | .remove usn, ds => ↑ds = m.devicesWith fun k _ => k.usn = usn
  | .sweep now, ds => ↑ds = m.devicesWith fun _ d => d.isExpiredAt now
  | .find notificationType usn, d => d = m.lookup ⟨notificationType, usn⟩
  | .findAll usn, ds => ↑ds = m.devicesWith fun k _ => k.usn = usn
  | .devices, ds => ↑ds = m.devicesWith fun _ _ => true
  | .size, n => n = m.keys.card
  | .isEmpty, b => b = true ↔ m = ∅

/-- The map that calls amount to, from the empty one. -/
def ofCalls (log : List Exchange) : DeviceMap :=
  log.foldl (fun m x => m.apply x.call) ∅

theorem ofCalls_concat (log : List Exchange) (x : Exchange) :
    ofCalls (log ++ [x]) = (ofCalls log).apply x.call :=
  List.foldl_concat ..

theorem lookup_keep (m : DeviceMap) (p : DeviceKey → Device → Bool) (k : DeviceKey) :
    (m.keep p).lookup k = (m.lookup k).filter (p k) := by
  refine Option.ext fun d => ?_
  rw [Finmap.lookup_eq_some_iff, Option.filter_eq_some_iff, Finmap.lookup_eq_some_iff, keep,
    Multiset.mem_filter]

end DeviceMap

namespace Cache

/-- A cache holds what a map holds, and every device under its own key. -/
structure Shows (c : Cache) (m : DeviceMap) : Prop where
  sound : c.Sound
  device?_eq : ∀ k, c.device? k = m.lookup k

theorem shows_empty : Shows {} ∅ :=
  ⟨sound_empty, fun _ => rfl⟩

namespace Shows

variable {α : Type} {c : Cache} {m : DeviceMap}

/-- The order of the entries makes no difference to what a cache holds. -/
theorem perm {c' : Cache} (h : c.Shows m) (hp : c.entries.Perm c'.entries) : c'.Shows m := by
  have hsound := h.sound.perm hp
  refine ⟨hsound, fun k => Option.ext fun d => ?_⟩
  rw [← h.device?_eq, hsound.device?_eq_some_iff, h.sound.device?_eq_some_iff, hp.mem_iff]

/-- The entries are those of the map. -/
theorem entries_eq (h : c.Shows m) :
    (↑(c.entries.map fun e => (⟨e.1, e.2⟩ : Sigma fun _ : DeviceKey => Device)) : Multiset _) =
      m.entries := by
  have hnodup :
      (c.entries.map fun e => (⟨e.1, e.2⟩ : Sigma fun _ : DeviceKey => Device)).Nodup := by
    refine List.Nodup.of_map Sigma.fst ?_
    rw [List.map_map]
    exact h.sound.distinct
  refine (Multiset.Nodup.ext (Multiset.coe_nodup.2 hnodup) m.nodup_entries).2 fun e => ?_
  obtain ⟨k, d⟩ := e
  rw [← Finmap.lookup_eq_some_iff, ← h.device?_eq, h.sound.device?_eq_some_iff, Multiset.mem_coe,
    List.mem_map]
  constructor
  · rintro ⟨e, he, heq⟩
    cases heq
    exact he
  · intro he
    exact ⟨(k, d), he, rfl⟩

/-- The devices of the entries that satisfy a condition are those of the map. -/
theorem devicesWith_eq (h : c.Shows m) (p : DeviceKey → Device → Bool) :
    (((c.entries.filter fun e => p e.1 e.2).map (·.2) : List Device) : Multiset Device) =
      m.devicesWith p := by
  rw [DeviceMap.devicesWith, ← h.entries_eq, Multiset.filter_coe, Multiset.map_coe,
    List.filter_map, List.map_map]
  simp only [Function.comp_def, Bool.decide_eq_true]

theorem card_keys (h : c.Shows m) : m.keys.card = c.size := by
  have hcard : m.keys.card = m.entries.card := Multiset.card_map _ _
  rw [hcard, ← h.entries_eq, Multiset.coe_card, List.length_map, size]

theorem eq_empty_iff (h : c.Shows m) : m = ∅ ↔ c.entries = [] := by
  rw [← Finmap.ext_iff', ← h.entries_eq]
  show _ = (0 : Multiset _) ↔ _
  rw [Multiset.coe_eq_zero, List.map_eq_nil_iff]

theorem replace (h : c.Shows m) (d : Device) : (c.replace d).1.Shows (m.insert d.key d) := by
  refine ⟨h.sound.replace d, fun k => ?_⟩
  rw [device?_replace]
  split
  · rename_i hk
    rw [hk, Finmap.lookup_insert]
  · rename_i hk
    rw [Finmap.lookup_insert_of_ne m hk, h.device?_eq]

theorem takeOut (h : c.Shows m) (p : DeviceKey × Device → Bool) :
    (c.takeOut p).1.Shows (m.keep fun k d => !p (k, d)) := by
  refine ⟨h.sound.takeOut p, fun k => ?_⟩
  rw [h.sound.device?_takeOut, h.device?_eq, DeviceMap.lookup_keep]

/-- A cache holds what the map holds after every call, if it does before. -/
theorem ask (h : c.Shows m) (call : CacheCall α) : (c.ask call).1.Shows (m.apply call) := by
  cases call with
  | addOrUpdate d => exact h.replace d
  | replace d => exact h.replace d
  | remove usn =>
    exact h.takeOut (·.1.usn = usn)
  | sweep now => exact h.takeOut _
  | _ => exact h

/-- A cache that holds what a map holds answers every call as the map does. -/
theorem answers (h : c.Shows m) (call : CacheCall α) : m.Answers call (c.ask call).2 := by
  cases call with
  | addOrUpdate d =>
    show (c.replace d).2.isNone = true ↔ d.key ∉ m
    rw [replace_snd, h.device?_eq, Option.isNone_iff_eq_none, Finmap.lookup_eq_none]
  | replace d => exact (c.replace_snd d).trans (h.device?_eq d.key)
  | remove usn => exact h.devicesWith_eq fun k _ => k.usn = usn
  | sweep now => exact h.devicesWith_eq fun _ d => d.isExpiredAt now
  | find notificationType usn =>
    exact (h.sound.find?_eq notificationType usn).trans (h.device?_eq _)
  | findAll usn =>
    show (↑(c.findAll usn) : Multiset Device) = _
    rw [← h.sound.remove_snd]
    exact h.devicesWith_eq fun k _ => k.usn = usn
  | devices =>
    have hdevices := h.devicesWith_eq fun _ _ => true
    rwa [List.filter_true] at hdevices
  | size => exact h.card_keys.symm
  | isEmpty => exact List.isEmpty_iff.trans h.eq_empty_iff.symm

end Shows

end Cache

section

variable {clients left : List CacheClient} {c : Cache} {log : List Exchange}

theorem Shared.shows (h : Shared clients c log left) : c.Shows (.ofCalls log) := by
  induction h with
  | fresh => exact Cache.shows_empty
  | ask _ ih =>
    rw [DeviceMap.ofCalls_concat]
    exact ih.ask _
  | shuffle _ hp ih => exact ih.perm hp

/-- Every call was answered as the map answers that the calls before it amount to. -/
theorem Shared.answers (h : Shared clients c log left) {before after : List Exchange}
    {x : Exchange} (hlog : log = before ++ x :: after) :
    (DeviceMap.ofCalls before).Answers x.call x.answer := by
  induction h generalizing after with
  | fresh => simp at hlog
  | @ask c log _ _ _ call _ hshared ih =>
    cases after using List.reverseRecOn with
    | nil =>
      obtain ⟨rfl, heq⟩ := List.append_inj' hlog rfl
      obtain rfl := List.singleton_inj.1 heq
      exact hshared.shows.answers call
    | append_singleton after last =>
      rw [← List.cons_append, ← List.append_assoc] at hlog
      exact ih (List.append_inj' hlog rfl).1
  | shuffle _ _ ih => exact ih hlog

/-- The cache is a finite map, whatever the order of its entries, for any calls of any
threads. Every device is under its own type and `USN`. Every call so far was answered as
the map answers that the calls before it amount to, and so would be every call made now:
this holds of inserts and their answers, of searches, of the number of devices, and of
lists of devices without their order. A search by type and `USN` goes through the devices
and finds what is under the key of both. A removal gives back what a search by the `USN`
finds, whichever place its entries have got to meanwhile; after it no entry has this
`USN`, and all others are left as they were. Keys are the same only letter by letter: two
devices whose keys differ, be it in case, are cached side by side. -/
theorem cache_refines_map (h : Shared clients c log left) :
    (∀ e ∈ c.entries, e.1 = ⟨e.2.notificationType, e.2.usn⟩) ∧
    (∀ before x after, log = before ++ x :: after →
      (DeviceMap.ofCalls before).Answers x.call x.answer) ∧
    (∀ {α : Type} (call : CacheCall α),
      (DeviceMap.ofCalls log).Answers call (c.ask call).2) ∧
    (∀ notificationType usn,
      c.find? notificationType usn = c.entries.lookup ⟨notificationType, usn⟩) ∧
    (∀ usn, (c.remove usn).2 = c.findAll usn ∧
      (∀ c' : Cache, c.entries.Perm c'.entries → (c'.remove usn).2.Perm (c.findAll usn)) ∧
      (∀ e ∈ (c.remove usn).1.entries, e.1.usn ≠ usn) ∧
      ∀ e, e.1.usn ≠ usn → (e ∈ (c.remove usn).1.entries ↔ e ∈ c.entries)) ∧
    ∀ d d' : Device, d.key ≠ d'.key →
      let c' := ((c.replace d).1.replace d').1
      c'.find? d.notificationType d.usn = some d ∧
        c'.find? d'.notificationType d'.usn = some d' := by
  have hsound := h.sound
  refine ⟨hsound.keyed, fun _ _ _ hlog => h.answers hlog, h.shows.answers, hsound.find?_eq,
    fun usn => ⟨hsound.remove_snd usn, fun c' hp => ?_, fun e he => ?_, fun e he => ?_⟩,
    fun d d' hne => ?_⟩
  · rw [← hsound.remove_snd]
    exact (hp.symm.filter _).map _
  · simpa using (List.mem_filter.1 he).2
  · simp [Cache.remove, Cache.takeOut, he]
  · have hsound' := (hsound.replace d).replace d'
    refine ⟨?_, ?_⟩
    · rw [hsound'.find?_eq, Cache.device?_replace, Cache.device?_replace]
      exact (if_neg hne).trans (if_pos rfl)
    · rw [hsound'.find?_eq, Cache.device?_replace]
      exact if_pos rfl

end

/-- A thread that puts in two devices, whose types differ in case alone, and looks for
both. -/
def matchmaker : CacheClient :=
  .ask (.replace (lasting "a".toList (.ofSecs 7))) fun _ =>
  .ask (.addOrUpdate (lasting "A".toList (.ofSecs 7))) fun _ =>
  .ask (.findAll "uuid:1".toList) fun _ => .done

/-- Their entries change places before they are looked for. Each is found under its own
type, and they are removed together. -/
theorem matchmaker_refines_map : ∃ c log, Shared [matchmaker] c log [.done] ∧
    log.length = 3 ∧ (c.entries.map (·.1.notificationType)) = ["A".toList, "a".toList] ∧
    (∀ before x after, log = before ++ x :: after →
      (DeviceMap.ofCalls before).Answers x.call x.answer) ∧
    c.find? "a".toList "uuid:1".toList = c.entries.lookup ⟨"a".toList, "uuid:1".toList⟩ ∧
    (c.find? "a".toList "uuid:1".toList).map (·.notificationType) = some "a".toList ∧
    (c.remove "uuid:1".toList).2 = c.findAll "uuid:1".toList ∧
    (c.remove "uuid:1".toList).2.length = 2 ∧ (c.remove "uuid:1".toList).1.size = 0 := by
  have h₀ : Shared [matchmaker] {} [] [matchmaker] := .fresh
  have h₁ := @Shared.ask _ _ _ [] [] _ _ _ h₀
  have h₂ := @Shared.ask _ _ _ [] [] _ _ _ h₁
  have h₃ := @Shared.shuffle _ _ ⟨_⟩ _ _ h₂ (List.Perm.swap _ _ [])
  have h₄ := @Shared.ask _ _ _ [] [] _ _ _ h₃
  obtain ⟨-, hanswers, -, hfind, hremove, -⟩ := cache_refines_map h₄
  exact ⟨_, _, h₄, rfl, rfl, hanswers, hfind _ _, rfl, (hremove _).1, rfl, rfl⟩

end Ssdp
