import Ssdp.Proofs.Locator.Meaning

/-!
# Replies, one after the other

A locator is given messages that tell of devices, some of them of the same one. The device
that a message tells of replaces the one that the message before it with the same key told
of, and if there was none, the one that was cached.

* `Locator.takeIn`: devices are put in the cache, one after the other;
  `Locator.device?_takeIn`: what is cached then;
* `Locator.getElem?_takeIn`: the event that follows for each of them;
  `Locator.takeIn_first`, `Locator.takeIn_again`: the first time that a key comes, and later;
* `Locator.reactAll`: messages are handled, one after the other;
* `Locator.exists_takeIn`: what messages that are no farewells come to.
-/

namespace Ssdp

/-- The operation is to handle a message, and the message is no farewell. -/
def Operation.Tells : Operation → Prop
  | .answer _ => True
  | .announcement e => ¬e.Announces .byeBye
  | _ => False

namespace Locator

/-- The locator once devices are put in its cache, one after the other, and the events that
follow. -/
def takeIn (l : Locator) : List Device → Locator × List Event
  | [] => (l, [])
  | d :: rest =>
    let first := l.refresh d
    let others := first.1.takeIn rest
    (others.1, first.2 :: others.2)

/-- The locator once it has been operated at certain times, and the events that follow. -/
def reactAll [UrlParser] (l : Locator) : List (Conditions × Operation) → Locator × List Event
  | [] => (l, [])
  | (clock, op) :: rest =>
    let first := l.react clock op
    let others := first.1.reactAll rest
    (others.1, first.2 ++ others.2)

theorem takeIn_append (l : Locator) (ds ds' : List Device) :
    l.takeIn (ds ++ ds') =
      let first := l.takeIn ds
      let others := first.1.takeIn ds'
      (others.1, first.2 ++ others.2) := by
  induction ds generalizing l with
  | nil => rfl
  | cons d rest ih => simp only [List.cons_append, takeIn, ih]

theorem reactAll_append [UrlParser] (l : Locator) (xs ys : List (Conditions × Operation)) :
    l.reactAll (xs ++ ys) =
      let first := l.reactAll xs
      let others := first.1.reactAll ys
      (others.1, first.2 ++ others.2) := by
  induction xs generalizing l with
  | nil => rfl
  | cons x rest ih => simp only [List.cons_append, reactAll, ih, List.append_assoc]

@[simp] theorem reactAll_singleton [UrlParser] (l : Locator) (clock : Conditions) (op : Operation) :
    l.reactAll [(clock, op)] = l.react clock op := by
  simp [reactAll]

/-! ## Devices -/

@[simp] theorem length_takeIn (l : Locator) (ds : List Device) :
    (l.takeIn ds).2.length = ds.length := by
  induction ds generalizing l with
  | nil => rfl
  | cons d rest ih => simp only [takeIn, List.length_cons, ih]

/-- Under each key there is the last device that was put there, or else the one that was
there before. -/
theorem device?_takeIn (l : Locator) (ds : List Device) (k : DeviceKey) :
    (l.takeIn ds).1.cache.device? k =
      (ds.reverse.find? (·.key = k)).or (l.cache.device? k) := by
  induction ds generalizing l with
  | nil => rfl
  | cons d rest ih =>
    rw [takeIn, ih, refresh_fst, Cache.device?_replace, List.reverse_cons, List.find?_append,
      Option.or_assoc]
    by_cases hk : d.key = k
    · simp [hk]
    · simp [hk, Ne.symm hk]

/-- A device is reported as new, unless there is one under its key when its turn comes. -/
theorem getElem?_takeIn (l : Locator) (earlier later : List Device) (d : Device) :
    (l.takeIn (earlier ++ d :: later)).2[earlier.length]? =
      some (match (earlier.reverse.find? (·.key = d.key)).or (l.cache.device? d.key) with
        | none => .found d
        | some old => .updated old d) := by
  have hevent := (l.takeIn earlier).1.refresh_snd d
  rw [device?_takeIn] at hevent
  simp only [takeIn_append, takeIn,
    List.getElem?_append_right (Nat.le_of_eq (l.length_takeIn earlier)), length_takeIn,
    Nat.sub_self, List.getElem?_cons_zero]
  exact congrArg some hevent

/-- The first device with a certain key is reported as new, unless one was cached. -/
theorem takeIn_first (l : Locator) {earlier : List Device} {d : Device}
    (hfirst : ∀ d' ∈ earlier, d'.key ≠ d.key) (later : List Device) :
    (l.takeIn (earlier ++ d :: later)).2[earlier.length]? =
      some (match l.cache.device? d.key with
        | none => .found d
        | some old => .updated old d) := by
  have hnone : earlier.reverse.find? (·.key = d.key) = none := by simpa using hfirst
  rw [getElem?_takeIn, hnone, Option.none_or]

/-- A device whose key has come before is reported to replace the last one with that key. -/
theorem takeIn_again (l : Locator) (first : List Device) {old d : Device} {between : List Device}
    (hkey : old.key = d.key) (hlast : ∀ d' ∈ between, d'.key ≠ d.key) (later : List Device) :
    (l.takeIn (first ++ old :: between ++ d :: later)).2[(first ++ old :: between).length]? =
      some (.updated old d) := by
  have hnone : between.reverse.find? (·.key = d.key) = none := by simpa using hlast
  have hsome : (first ++ old :: between).reverse.find? (·.key = d.key) = some old := by
    rw [List.reverse_append, List.reverse_cons, List.find?_append, List.find?_append, hnone]
    simp [hkey]
  rw [getElem?_takeIn, hsome, Option.some_or]

/-! ## Messages -/

/-- What a message means to a locator has nothing to do with its cache. -/
theorem takes_with_cache [UrlParser] (l : Locator) (cache : Cache) (now : Instant) (op : Operation)
    (v : Verdict) : Takes { l with cache } now op v ↔ l.Takes now op v := by
  cases op <;> cases v <;> exact Iff.rfl

/-- A message that is no farewell tells of one device at most, which is all that it comes
to. -/
theorem exists_takeIn_of_tells [UrlParser] {l : Locator} (hd : l.disposed = false)
    (clock : Conditions) {op : Operation} (h : op.Tells) :
    ∃ v : Option Device, (∀ d, l.Takes clock.stamp op (.refresh d) ↔ v = some d) ∧
      l.react clock op = l.takeIn v.toList := by
  have judged {v : Verdict} (hreact : l.react clock op = l.heed clock.order v)
      (htakes : ∀ v', l.Takes clock.stamp op v' ↔ v = v' ∧ v' ≠ .ignore)
      (hstays : ∀ usn, v ≠ .farewell usn) :
      ∃ v : Option Device, (∀ d, l.Takes clock.stamp op (.refresh d) ↔ v = some d) ∧
        l.react clock op = l.takeIn v.toList := by
    cases v with
    | ignore => exact ⟨none, fun d => by simp [htakes], hreact⟩
    | refresh d => exact ⟨some d, fun d' => by simp [htakes], hreact⟩
    | farewell usn => exact absurd rfl (hstays usn)
  cases op with
  | answer e =>
    refine judged rfl (fun v' => takes_answer_iff hd) fun usn hfarewell => ?_
    exact (takes_answer_iff hd).2 ⟨hfarewell, nofun⟩
  | announcement e =>
    refine judged rfl (fun v' => takes_announcement_iff hd) fun usn hfarewell => ?_
    have htakes : l.Takes clock.stamp (.announcement e) (.farewell usn) :=
      (takes_announcement_iff hd).2 ⟨hfarewell, nofun⟩
    exact h htakes.1
  | _ => exact h.elim

/-- Messages that are no farewells come to this: the devices that they tell of are put in
the cache, one after the other. -/
theorem exists_takeIn [UrlParser] {l : Locator} (hd : l.disposed = false)
    {heard : List (Conditions × Operation)} (h : ∀ x ∈ heard, x.2.Tells) :
    ∃ told : List (Option Device),
      List.Forall₂ (fun x v => ∀ d, l.Takes x.1.stamp x.2 (.refresh d) ↔ v = some d)
        heard told ∧
        l.reactAll heard = l.takeIn told.reduceOption := by
  induction heard generalizing l with
  | nil => exact ⟨[], .nil, rfl⟩
  | cons x rest ih =>
    obtain ⟨hfirst, hrest⟩ := List.forall_mem_cons.1 h
    obtain ⟨v, hv, hreact⟩ := exists_takeIn_of_tells hd x.1 hfirst
    obtain ⟨cache, hcache⟩ : ∃ cache, (l.takeIn v.toList).1 = { l with cache } := by
      cases v with
      | none => exact ⟨l.cache, rfl⟩
      | some d => exact ⟨_, l.refresh_fst d⟩
    obtain ⟨told, htold, hothers⟩ := ih (l := { l with cache }) hd hrest
    refine ⟨v :: told, .cons hv (htold.imp fun x v hv d => ?_), ?_⟩
    · rw [← hv d]
      exact (l.takes_with_cache cache x.1.stamp x.2 _).symm
    · have hdevices : (v :: told).reduceOption = v.toList ++ told.reduceOption := by
        cases v <;> rfl
      simp only [reactAll, hreact, hcache, hothers, hdevices, takeIn_append]

end Locator

end Ssdp
