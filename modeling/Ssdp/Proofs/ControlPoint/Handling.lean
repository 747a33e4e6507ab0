import Ssdp.Proofs.ControlPoint.Reporting
import Ssdp.Proofs.Locator.Meaning

/-!
# Handling messages

A message that a locator is given to handle does what its headers mean, all of it or
nothing: a device is put in the cache and its owner told once, or every device with a
`USN` is taken out and its owner told of each of them, or nothing happens.

* `Operation.Handles.exists_verdict`: a message is judged to be what it means;
* `messages_handled_as_meant`: what it means is what is done.
-/

namespace Ssdp

variable {ν : Type}

section

variable [UrlParser]

/-- Handling a message is heeding a verdict: the one that the message means, or none. -/
theorem Operation.Handles.exists_verdict {op : Operation} {e : Received} (h : op.Handles e)
    {l : Locator} (hd : l.disposed = false) (clock : Conditions) :
    ∃ v, l.react clock op = l.heed clock.order v ∧
      ∀ v', l.Takes clock.stamp op v' ↔ v = v' ∧ v' ≠ .ignore := by
  rcases h with rfl | rfl
  · exact ⟨_, rfl, fun v' => Locator.takes_answer_iff hd⟩
  · exact ⟨_, rfl, fun v' => Locator.takes_announcement_iff hd⟩

/-- Messages are handled as their headers mean. Let a locator that is not disposed, and
whose owner calls nothing, be given a message to handle, in answer to a search or as an
announcement, when the clock shows a certain time. Then all that follows comes to an end.
To such a locator the message has one meaning at most: that a device is there, with a
location that can be read, a type that is wanted and a `USN`, or that all devices with a
`USN` leave. When all that follows is done, nothing but the cache of that locator has
changed. If the message has a meaning, the cache has changed, and the owner has been told
of events, as it means; otherwise neither. Announcements that a device is there and that
it changed mean the same where they are the same but for `NTS`. -/
theorem messages_handled_as_meant {c : ControlPoint ν} {id : LocatorId} {s : Slot ν}
    (hs : c.slots[id]? = some s) (hd : s.locator.disposed = false)
    (hdropped : s.locator.dropped = false) (hsound : s.locator.cache.Sound)
    (howner : ∀ event, (s.owner event).Quiet false) :
    (∀ e op, op.Handles e →
      let o := c.perform (.operate id op)
      let Means := s.locator.Takes c.clock.stamp op
      (∃ n, (o.state.run n o.todo).agenda = []) ∧
      (∀ v v', Means v → Means v' → v = v') ∧
      ∀ c' shown, Works o.state o.todo c' shown [] →
        (∃ after, c'.slots[id]? = some { s with locator := { s.locator with cache := after } } ∧
          (∀ v, Means v → v.Does s.locator.cache after (eventsOf id (o.journal ++ shown))) ∧
          ((∀ v, ¬Means v) →
            after = s.locator.cache ∧ eventsOf id (o.journal ++ shown) = [])) ∧
        ∀ id', id' ≠ id → (∀ s', c.slots[id']? = some s' → c'.slots[id']? = some s') ∧
          eventsOf id' (o.journal ++ shown) = []) ∧
    ∀ e e' v, e.Twin e' → (e.Announces .alive ∨ e.Announces .update) →
      (e'.Announces .alive ∨ e'.Announces .update) →
      s.locator.Takes c.clock.stamp (.announcement e) v →
        ∃ d, v = .refresh d ∧ s.locator.Takes c.clock.stamp (.announcement e')
          (.refresh { d with headers := e'.message.headers }) := by
  refine ⟨fun e op hop => ?_, fun e e' v htwin hpresence hpresence' htakes =>
    htwin.takes hpresence hpresence' htakes⟩
  obtain ⟨v, hreact, htakes⟩ := hop.exists_verdict hd c.clock
  intro o Means
  refine ⟨?_, fun v₁ v₂ h₁ h₂ => ?_, fun c' shown hworks => ?_⟩
  · exact exists_run_reporting (hop.todo c id) (c.slots_perform hs _) howner
  · exact ((htakes v₁).1 h₁).1.symm.trans ((htakes v₂).1 h₂).1
  · obtain ⟨steps, htraced, rfl⟩ := hworks.traced
    obtain ⟨-, hslot, hevents, hothers⟩ := htraced.reported hop hs hd hdropped howner
    obtain ⟨after, hafter⟩ := s.locator.exists_heed c.clock.order v
    have hdoes := Locator.does_heed hsound c.clock.order v
    rw [hreact] at hslot hevents
    rw [← hevents, hafter] at hdoes
    rw [hafter] at hslot
    refine ⟨⟨after, hslot, fun v' hv' => ?_, fun hnone => ?_⟩, hothers⟩
    · obtain ⟨rfl, -⟩ := (htakes v').1 hv'
      exact hdoes
    · obtain rfl : v = .ignore :=
        Decidable.byContradiction fun hne => hnone v ((htakes v).2 ⟨rfl, hne⟩)
      exact hdoes

end

/-- A device with this type and `USN`, heard of at the beginning. -/
def Device.known (notificationType usn : Text) : Device where
  notificationType
  usn
  location := ⟨"http://h/".toList⟩
  headers := {}
  discoveredAt := .origin
  maxAge := .ofSecs 600
  sender := .v4 .unspecified 1900
  localAddress := .v4 .unspecified

/-- A device leaves as a type that it was never heard of, and tells no location. -/
def leaving : Received where
  message :=
    { startLine := notifyStartLine
      headers := ⟨[⟨"Nts".toList, "\tSSDP:ByeBye ".toList⟩, ⟨"NT".toList, " UPNP:event".toList⟩,
        ⟨"usn".toList, " uuid:1 ".toList⟩]⟩ }
  sender := .v4 .unspecified 1900
  localAddress := .v4 .unspecified

/-- A locator that has cached two types of one device, one of which it does not look for,
and another device; its owner panics. -/
def crowded : ControlPoint Unit where
  notes := ()
  slots := [{
    locator := {
      config := { LocatorConfig.forAll with filters := ["upnp:".toList] }
      cache := ⟨[Device.known "upnp:rootdevice".toList "uuid:1".toList,
        Device.known "urn:x".toList "uuid:1".toList,
        Device.known "upnp:rootdevice".toList "uuid:2".toList].map fun d => (d.key, d)⟩ }
    owner := fun _ => .panic .wordless }]

attribute [local instance] UrlParser.verbatim

/-- Both types of the device are taken out and reported, and the other one stays. -/
theorem crowded_handled_as_meant :
    let o := crowded.perform (.operate 0 (.announcement leaving))
    ∃ c' shown s, Works o.state o.todo c' shown [] ∧ c'.slots[0]? = some s ∧
      s.locator.cache.device? ⟨"upnp:rootdevice".toList, "uuid:1".toList⟩ = none ∧
      s.locator.cache.device? ⟨"urn:x".toList, "uuid:1".toList⟩ = none ∧
      s.locator.cache.device? ⟨"upnp:rootdevice".toList, "uuid:2".toList⟩ =
        some (Device.known "upnp:rootdevice".toList "uuid:2".toList) ∧
      ∃ gone : List Device, gone.Perm [Device.known "upnp:rootdevice".toList "uuid:1".toList,
          Device.known "urn:x".toList "uuid:1".toList] ∧
        eventsOf 0 (o.journal ++ shown) = gone.map .lost := by
  intro o
  have hslot : crowded.slots[0]? = some (crowded.slots.head (by decide)) := rfl
  have htakes : (crowded.slots.head (by decide)).locator.Takes crowded.clock.stamp
      (.announcement leaving) (.farewell "uuid:1".toList) := by
    refine ⟨⟨"\tSSDP:ByeBye ".toList, rfl, by decide⟩, ⟨"UPNP:event".toList, ?_, by decide⟩, ?_⟩
    · exact ⟨" UPNP:event".toList, rfl, by decide, by decide⟩
    · exact ⟨" uuid:1 ".toList, rfl, by decide, by decide⟩
  obtain ⟨hhandled, -⟩ := messages_handled_as_meant hslot rfl rfl
    ⟨by decide, by decide⟩ fun _ => trivial
  obtain ⟨⟨n, hn⟩, -, hdone⟩ := hhandled leaving _ (.inr rfl)
  have hworks : Works o.state o.todo (o.state.run n o.todo).state _
      (o.state.run n o.todo).agenda := Works.start.run n
  rw [hn] at hworks
  obtain ⟨⟨after, hafter, hdoes, -⟩, -⟩ := hdone _ _ hworks
  obtain ⟨hcache, gone, hgone, htold⟩ := hdoes _ htakes
  exact ⟨_, _, _, hworks, hafter, hcache _, hcache _, hcache _, gone, hgone, htold⟩

end Ssdp
