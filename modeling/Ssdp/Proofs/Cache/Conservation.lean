import Ssdp.Proofs.Cache.Sharing

/-!
# Devices put into a cache

A device that was put into a cache is there, or a call gave it back: another device
took its place, or it was removed or swept out. Which threads made the calls, and in
what order, makes no difference.

* `Exchange.Balances`: one call accounts for the devices cached before and after it;
* `inserted_eq_cached_add_given_back`: so do the calls of all threads together.
-/

namespace Ssdp

namespace Exchange

/-- The device that a call puts into the cache. -/
def inserted : Exchange → Multiset Device
  | ⟨_, .addOrUpdate d, _⟩ | ⟨_, .replace d, _⟩ => {d}
  | _ => 0

/-- The device whose place an inserted one took: it is given back, or it was cached with
the same type and `USN` when the answer was that nothing is new. -/
def displaced : Exchange → Multiset Device
  | ⟨c, .addOrUpdate d, false⟩ => ↑(c.find? d.notificationType d.usn).toList
  | ⟨_, .replace _, old⟩ => ↑old.toList
  | _ => 0

/-- The devices that a call removes or sweeps out, as it gives them back. -/
def takenOut : Exchange → Multiset Device
  | ⟨_, .remove _, ds⟩ | ⟨_, .sweep _, ds⟩ => ↑ds
  | _ => 0

/-- Whether a call reports that it put in a device that was not there. -/
def reportsNew : Exchange → Bool
  | ⟨_, .addOrUpdate _, isNew⟩ => isNew
  | ⟨_, .replace _, old⟩ => old.isNone
  | _ => false

/-- A call accounts for the devices cached after it: what was cached or is put in is
there, or it was displaced or taken out. -/
def Balances (x : Exchange) (after : Cache) : Prop :=
  ↑x.before.devices + x.inserted = ↑after.devices + x.displaced + x.takenOut

/-- An insert either reports a new device or displaces just one. -/
def Reports (x : Exchange) : Prop :=
  x.inserted.card = x.reportsNew.toNat + x.displaced.card

end Exchange

/-- The devices that a part of every call comes to, over all of them. -/
def total (part : Exchange → Multiset Device) (log : List Exchange) : Multiset Device :=
  (log.map part).sum

@[simp] theorem total_concat (part : Exchange → Multiset Device) (log : List Exchange)
    (x : Exchange) : total part (log ++ [x]) = total part log + part x := by
  simp [total]

/-! ## A single call -/

/-- An insert that is not new displaces what was cached under the key. -/
theorem Cache.Sound.displaced_addOrUpdate {c : Cache} (h : c.Sound) (d : Device) :
    Exchange.displaced ⟨c, .addOrUpdate d, (c.ask (.addOrUpdate d)).2⟩ =
      ↑(c.replace d).2.toList := by
  have hfind : c.find? d.notificationType d.usn = (c.replace d).2 :=
    (h.find?_eq _ _).trans (c.replace_snd d).symm
  cases hold : (c.replace d).2 with
  | none =>
    have hnew : (c.ask (.addOrUpdate d)).2 = true := by simp [Cache.ask, addOrUpdate, hold]
    rw [hnew]
    rfl
  | some old =>
    have hnew : (c.ask (.addOrUpdate d)).2 = false := by simp [Cache.ask, addOrUpdate, hold]
    rw [hnew, ← hold, ← hfind]
    rfl

theorem Cache.Sound.balances_ask {α : Type} {c : Cache} (h : c.Sound) (call : CacheCall α) :
    Exchange.Balances ⟨c, call, (c.ask call).2⟩ (c.ask call).1 := by
  unfold Exchange.Balances
  cases call with
  | addOrUpdate d =>
    have hreplace := c.devices_replace d
    rw [h.displaced_addOrUpdate d]
    simpa [Exchange.inserted, Exchange.takenOut, Cache.ask, addOrUpdate, add_comm]
      using hreplace.symm
  | replace d =>
    have hreplace := c.devices_replace d
    simpa [Exchange.inserted, Exchange.displaced, Exchange.takenOut, Cache.ask, add_comm]
      using hreplace.symm
  | remove usn =>
    have hout := c.devices_takeOut (·.1.usn = usn)
    simpa [Exchange.inserted, Exchange.displaced, Exchange.takenOut, Cache.ask, remove]
      using hout.symm
  | sweep now =>
    have hout := c.devices_takeOut (·.2.isExpiredAt now)
    simpa [Exchange.inserted, Exchange.displaced, Exchange.takenOut, Cache.ask, sweepAt]
      using hout.symm
  | _ => simp [Exchange.inserted, Exchange.displaced, Exchange.takenOut, Cache.ask]

theorem Cache.Sound.reports_ask {α : Type} {c : Cache} (h : c.Sound) (call : CacheCall α) :
    Exchange.Reports ⟨c, call, (c.ask call).2⟩ := by
  unfold Exchange.Reports
  cases call with
  | addOrUpdate d =>
    rw [h.displaced_addOrUpdate d]
    cases hold : (c.replace d).2 <;>
      simp [Exchange.inserted, Exchange.reportsNew, Cache.ask, addOrUpdate, hold]
  | replace d =>
    cases hold : (c.replace d).2 <;>
      simp [Exchange.inserted, Exchange.reportsNew, Exchange.displaced, Cache.ask, hold]
  | _ => rfl

/-! ## The calls of all threads -/

section Shared

variable {clients left : List CacheClient} {c : Cache} {log : List Exchange}

theorem Shared.balance (h : Shared clients c log left) :
    total Exchange.inserted log =
      ↑c.devices + total Exchange.displaced log + total Exchange.takenOut log := by
  induction h with
  | fresh => rfl
  | @ask c log _ _ _ call _ hshared ih =>
    have hcall := hshared.sound.balances_ask call
    unfold Exchange.Balances at hcall
    simp only [total_concat]
    rw [ih, add_right_comm _ _ (Exchange.inserted _), add_right_comm _ _ (Exchange.inserted _),
      hcall]
    ac_rfl
  | @shuffle c c' _ _ _ hp ih =>
    have hdevices : (c.devices : Multiset Device) = c'.devices :=
      Multiset.coe_eq_coe.2 (hp.map Prod.snd)
    rw [ih, hdevices]

theorem Shared.card_inserted (h : Shared clients c log left) :
    (total Exchange.inserted log).card =
      log.countP (·.reportsNew) + (total Exchange.displaced log).card := by
  induction h with
  | fresh => rfl
  | @ask c log _ _ _ call _ hshared ih =>
    have hcall := hshared.sound.reports_ask call
    unfold Exchange.Reports at hcall
    have hnat (b : Bool) : b.toNat = if b = true then 1 else 0 := by cases b <;> rfl
    simp only [total_concat, Multiset.card_add, List.countP_append, List.countP_singleton]
    rw [ih, hcall, hnat]
    omega
  | shuffle _ _ ih => exact ih

/-- No device is lost or doubled in a cache, whichever threads call it and in whatever
order. The devices put in so far are those cached and those given back: the ones that
others took the place of, and the ones removed or swept out. And there are as many
devices cached as inserts reported new ones, less those removed or swept out. -/
theorem inserted_eq_cached_add_given_back (h : Shared clients c log left) :
    total Exchange.inserted log =
      ↑c.devices + total Exchange.displaced log + total Exchange.takenOut log ∧
    c.size + (total Exchange.takenOut log).card = log.countP (·.reportsNew) := by
  have hbalance := h.balance
  refine ⟨hbalance, ?_⟩
  have hcard := congrArg Multiset.card hbalance
  rw [h.card_inserted, Multiset.card_add, Multiset.card_add, Multiset.coe_card] at hcard
  have hsize : c.devices.length = c.size := List.length_map ..
  omega

end Shared

/-- A device with one `USN`, of a given type and lasting for a given time. -/
def lasting (type : Text) (maxAge : Duration) : Device where
  notificationType := type
  usn := "uuid:1".toList
  location := ⟨"http://h/".toList⟩
  headers := {}
  discoveredAt := .origin
  maxAge
  sender := .v4 .unspecified 1900
  localAddress := .v4 .unspecified

/-- A thread that puts two devices in, one after the other, and removes them if the
second was not new. -/
def hasty : CacheClient :=
  .ask (.addOrUpdate (lasting "a".toList (.ofSecs 3))) fun _ =>
  .ask (.addOrUpdate (lasting "b".toList (.ofSecs 9))) fun isNew =>
  if isNew then .done else .ask (.remove "uuid:1".toList) fun _ => .done

/-- A thread that puts one of the same devices in and sweeps when it is back. -/
def tidy : CacheClient :=
  .ask (.replace (lasting "b".toList (.ofSecs 3))) fun _ =>
  .ask (.sweep ⟨5, 0, by decide, by decide, nanosPerSec_pos⟩) fun _ => .done

/-- The second thread puts its device in between the two of the first one. When it has
swept out the device that did not last, the first thread removes the other one. -/
theorem contest_conserved : ∃ c log, Shared [hasty, tidy] c log [.done, .done] ∧
    log.length = 5 ∧
    (total Exchange.inserted log = ↑c.devices + total Exchange.displaced log +
        total Exchange.takenOut log ∧
      c.size + (total Exchange.takenOut log).card = log.countP (·.reportsNew)) ∧
    c.size = 0 ∧ (total Exchange.displaced log).card = 1 ∧
    (total Exchange.takenOut log).card = 2 := by
  have h₀ : Shared [hasty, tidy] {} [] [hasty, tidy] := .fresh
  have h₁ := @Shared.ask _ _ _ [] [tidy] _ _ _ h₀
  have h₂ := @Shared.ask _ _ _ [_] [] _ _ _ h₁
  have h₃ := @Shared.ask _ _ _ [] [_] _ _ _ h₂
  have h₄ := @Shared.ask _ _ _ [_] [] _ _ _ h₃
  have h₅ := @Shared.ask _ _ _ [] [_] _ (.remove "uuid:1".toList) (fun _ => .done) h₄
  exact ⟨_, _, h₅, rfl, inserted_eq_cached_add_given_back h₅, rfl, rfl, rfl⟩

end Ssdp
