import Ssdp.Proofs.ControlPoint.Threads

/-!
# No device lost or doubled

The owner of a locator may call it back in the middle of being told of an event, so
that losses are still to be reported while the cache has gone on. The devices that
were announced are nevertheless those cached and those reported gone, each as often.

* `announced_eq_cached_add_gone`: at any point, with the events that are pending, and
  without them where no operation of the locator is under way.
-/

namespace Ssdp

variable {ν : Type}

section

variable {id : LocatorId}

/-- Where no operation of a locator is under way, no event of it is pending. -/
theorem pendingEvents_eq_nil_of_not_guards {agenda : List (Task ν)}
    (h : ∀ task ∈ agenda, task.guards id = false) : pendingEvents id agenda = [] := by
  refine pendingEvents_eq_nil_iff.2 fun task htask => ?_
  have hguards := h task htask
  cases task with
  | lose id' cause d => simpa [Task.guards, Task.pending] using hguards
  | emit id' event => simpa [Task.guards, Task.pending] using hguards
  | _ => rfl

variable [UrlParser]

/-- The devices announced to the owner of a locator, whatever it does when it is told
of an event. At any point before the locator is disposed of, those that events shown
or pending announce are those cached together with those they report gone. Where no
operation of the locator is under way, no event is pending, and the same is true of the
events shown: nothing is reported gone more often than it was announced, and what was
announced is cached or was reported gone. -/
theorem announced_eq_cached_add_gone {r : Run ν} (h : Reached (fun _ => True) r) {s : Slot ν}
    (hs : r.state.slots[id]? = some s) (hd : s.locator.disposed = false) :
    let told := eventsOf id r.journal
    let pending := pendingEvents id r.agenda
    announced (told ++ pending) = ↑s.locator.cache.devices + gone (told ++ pending) ∧
    ((∀ task ∈ r.agenda, task.guards id = false) → pending = []) ∧
    (pending = [] →
      announced told = ↑s.locator.cache.devices + gone told ∧
      gone told ≤ announced told ∧
      ∀ d ∈ announced told, d ∈ s.locator.cache.devices ∨ d ∈ gone told) := by
  intro told pending
  obtain ⟨made, hmade⟩ := h.interleaved id
  have haccounted := hmade.accounted
  have hperm : (told ++ pending).Perm (made.map (·.event)) := by
    simpa using haccounted.told s hs hd
  have hbalance : announced (told ++ pending) =
      ↑s.locator.cache.devices + gone (told ++ pending) := by
    rw [announced_perm hperm, gone_perm hperm]
    simpa [Balances, Cache.devices] using haccounted.balance s hs
  refine ⟨hbalance, pendingEvents_eq_nil_of_not_guards, fun hnone => ?_⟩
  rw [hnone, List.append_nil] at hbalance
  refine ⟨hbalance, ?_, fun d hmem => ?_⟩
  · rw [hbalance]
    exact Multiset.le_add_left _ _
  · rw [hbalance, Multiset.mem_add] at hmem
    exact hmem.imp_left Multiset.mem_coe.1

end

/-- A message of a device of a given type, which all have one `USN`. -/
def messageOf (startLine typeHeader type nts : Text) : Received where
  message :=
    { startLine
      headers := ⟨[⟨typeHeader, type⟩, ⟨"NTS".toList, nts⟩, ⟨"USN".toList, "uuid:1".toList⟩,
        ⟨"LOCATION".toList, "http://h/".toList⟩]⟩ }
  sender := .v4 .unspecified 1900
  localAddress := .v4 .unspecified

/-- An owner that searches again whenever a device is lost, and stops when one is
found. -/
def relapsingOwner : Event → Script Unit
  | .lost _ => .operate 0 .searchNow .done
  | .found _ => .operate 0 .stop .done
  | .updated _ _ => .done

/-- Two devices with one `USN` are announced and leave together. When the first loss is
told, the owner searches, and the second device answers before its own loss is told. -/
def relapse : Run Unit where
  state :=
    { notes := ()
      link :=
        { replies := [.message (messageOf responseStartLine "ST".toList "b".toList [])] } }
  journal := []
  agenda := [.script .program <|
    .build .forAll relapsingOwner fun _ =>
    .dispatch (messageOf notifyStartLine "NT".toList "a".toList "ssdp:alive".toList) fun _ =>
    .dispatch (messageOf notifyStartLine "NT".toList "b".toList "ssdp:alive".toList) fun _ =>
    .operate 0 .start <|
    .dispatch (messageOf notifyStartLine "NT".toList "a".toList "ssdp:byebye".toList) fun _ =>
    .done]

attribute [local instance] UrlParser.verbatim

theorem reached_relapse (n : Nat) : Reached (fun _ => True) (relapse.after n) := by
  have hreached : Reached (fun _ => True) relapse :=
    .move (.fresh () {} _ 0) trivial (.ask _ _ (.script _))
  exact hreached.leads (leads_after relapse n)

/-- The key of a device in `relapse`. -/
def relapseKey (type : Text) : DeviceKey :=
  ⟨type, "uuid:1".toList⟩

/-- In the end the second device is cached and the locator is not disposed. -/
theorem exists_relapse : ∃ s, (relapse.after 80).state.slots[0]? = some s ∧
    s.locator.disposed = false ∧
    s.locator.cache.devices.map Device.key = [relapseKey "b".toList] := by
  have hlocator : ((relapse.after 80).state.locator? 0).map
      (fun l => (l.disposed, l.cache.devices.map Device.key)) =
        some (false, [relapseKey "b".toList]) := by
    decide +kernel
  obtain ⟨l, hl, hstate⟩ := Option.map_eq_some_iff.1 hlocator
  obtain ⟨s, hs, rfl⟩ := Option.map_eq_some_iff.1 hl
  obtain ⟨hd, hkeys⟩ := Prod.mk.inj hstate
  exact ⟨s, hs, hd, hkeys⟩

/-- In the end three devices were announced, two were reported gone and one is cached. -/
theorem relapse_balanced : (relapse.after 80).agenda.length = 0 ∧
    ∃ s, (relapse.after 80).state.slots[0]? = some s ∧
      announced (eventsOf 0 (relapse.after 80).journal) =
        ↑s.locator.cache.devices + gone (eventsOf 0 (relapse.after 80).journal) ∧
      (announced (eventsOf 0 (relapse.after 80).journal)).card = 3 ∧
      s.locator.cache.devices.length = 1 := by
  have hend : (relapse.after 80).agenda.length = 0 := by decide +kernel
  have hnone : pendingEvents 0 (relapse.after 80).agenda = [] := by
    rw [List.eq_nil_of_length_eq_zero hend, pendingEvents_nil]
  obtain ⟨s, hs, hd, hkeys⟩ := exists_relapse
  obtain ⟨-, -, hbalance⟩ := announced_eq_cached_add_gone (reached_relapse 80) hs hd
  refine ⟨hend, s, hs, (hbalance hnone).1, by decide +kernel, ?_⟩
  rw [← List.length_map, hkeys]
  rfl

end Ssdp
