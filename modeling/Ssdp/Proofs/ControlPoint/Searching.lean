import Ssdp.Proofs.ControlPoint.Balance
import Ssdp.Proofs.ControlPoint.Undisturbed

/-!
# A search, from the sweep to the last reply

A locator that is asked to search reports the devices that have expired, sends its search,
and takes in the devices of the replies that come before the send is over. So what is
reported of a reply depends on the sweep and on the replies before it.

* `Step.Meets`: the clock and the link, as a search finds them;
* `Searches`, `Traced.searched`: the phases of a search;
* `search_reports_losses_first`: what is reported in each of them.
-/

namespace Ssdp

variable {ν : Type}

section

/-- The clock, when the locator in a place sweeps its cache, and the link, when its search is
sent: the search gets through, and these replies come back. -/
structure Step.Meets (id : LocatorId) (sweep : Instant) (replies : List Reply) (step : Step ν) :
    Prop where
  sweep : step.task = .search id → step.state.clock.sweep = sweep
  works : step.task = .broadcast id → step.state.link.works step.state.attempts = true
  replies : step.task = .broadcast id → step.state.link.replies = replies

variable [UrlParser]

section

variable {id : LocatorId} {numbers : List (Text × HandlerId)} {c c' : ControlPoint ν} {s : Slot ν}
  {steps : List (Step ν)} {sweep : Instant} {replies : List Reply}

/-- The losses are reported, and nothing changes meanwhile. -/
theorem Traced.lost {lost : List Device} (h : Traced c (lost.map (.lose id .expired ·)) steps c' [])
    (hc : Undisturbed id numbers c) (hs : c.slots[id]? = some s)
    (hd : s.locator.disposed = false) :
    heardOf id steps = [] ∧ sentOf (shownBy steps) = [] ∧ c'.slots[id]? = some s ∧
      eventsOf id (shownBy steps) = lost.map .lost := by
  have howner := hc.quiet.owners id s hs
  have ht : ∀ task ∈ lost.map (.lose id .expired ·), Task.ReportsTo (ν := ν) id task :=
    List.forall_mem_map.2 fun d _ => rfl
  obtain ⟨hsteps, -, hkeeps⟩ := h.reporting hs howner ht
  obtain ⟨hevents, -⟩ := h.events_reporting hs hd howner ht
  rw [pendingEvents_nil, List.append_nil, pendingEvents_lose, if_pos rfl] at hevents
  refine ⟨?_, sentOf_shownBy fun step hstep id' heq => ?_, hkeeps id s hs, hevents⟩
  · exact List.filterMap_eq_nil_iff.2 fun step hstep =>
      Step.heard?_of_not_changes ((hsteps step hstep).changes id)
  · have htask := hsteps step hstep
    rw [heq] at htask
    exact htask

/-- A search that gets through is sent once, and its replies are handled before the send is
over. -/
theorem Traced.sent (h : Traced c [.broadcast id] steps c' []) (hc : Undisturbed id numbers c)
    (hs : c.slots[id]? = some s) (hmeets : ∀ step ∈ steps, step.Meets id sweep replies) :
    (heardOf id steps).map (·.2) = replies.filterMap Reply.asks? ∧
      ∃ after, shownBy steps = .sent id (searchRequest s.locator.config.searchWait) :: after ∧
        sentOf after = [] ∧
        eventsOf id after = (s.locator.reactAll (heardOf id steps)).2 := by
  obtain ⟨clock, link, later, hlater, rfl⟩ := h.performed
  let c₁ : ControlPoint ν := { c with clock, link }
  let c₂ : ControlPoint ν := { c₁ with attempts := c.attempts + 1 }
  have hmeet := hmeets _ List.mem_cons_self
  have hworks : link.works c.attempts = true := hmeet.works rfl
  have hreplies : link.replies = replies := hmeet.replies rfl
  have hperform : c₁.perform (.broadcast id) =
      ⟨c₂, replies.map .take ++ [.log (.searchSent link.interfaces)],
        [.sent id (searchRequest s.locator.config.searchWait)], none⟩ := by
    have hlocator : c₁.locator? id = some s.locator := ControlPoint.locator?_eq hs
    rw [← hreplies]
    simp only [ControlPoint.perform, ControlPoint.withLocator, hlocator, ControlPoint.broadcast]
    exact if_pos hworks
  rw [hperform] at hlater
  have hc₂ : Undisturbed id numbers c₂ := by
    have hnext := (hc.turn clock link).perform_search (.inr rfl)
    rw [hperform] at hnext
    exact hnext
  obtain ⟨c₃, first, last, hfirst, hlast, rfl⟩ := hlater.done_append
  have htakes := hfirst.attends_takes hc₂
  have hdiscreet : ∀ task ∈ replies.map .take, Task.Discreet (ν := ν) id numbers task :=
    List.forall_mem_map.2 fun reply _ => trivial
  have hlog := (hlast.attends_idle (hfirst.discreet hc₂ hdiscreet).1
    (List.forall_mem_singleton.2 trivial) (List.forall_mem_singleton.2 not_false)).1
  obtain ⟨hheard, hunsent, hslot⟩ := htakes.trans hlog
  rw [List.append_nil] at hheard
  have hnone : (⟨c₁, .broadcast id⟩ : Step ν).heard? id = none := rfl
  rw [heardOf, List.filterMap_cons_none hnone]
  refine ⟨hheard, shownBy (first ++ last), ?_, hunsent, (hslot s hs).2⟩
  rw [shownBy_cons]
  exact congrArg (·.journal ++ shownBy (first ++ last)) hperform

/-- Steps in which a locator reports what has expired at the sweep, sends its search once, and
handles the replies after that. -/
structure Searches (l : Locator) (id : LocatorId) (sweep : Instant) (replies : List Reply)
    (steps : List (Step ν)) : Prop where
  heard : (heardOf id steps).map (·.2) = replies.filterMap Reply.asks?
  shown : ∃ before after, ∃ clock : Conditions, clock.sweep = sweep ∧
    shownBy steps = before ++ .sent id (searchRequest l.config.searchWait) :: after ∧
      sentOf before = [] ∧ sentOf after = [] ∧
      eventsOf id before = (l.sweep clock).2 ∧
      eventsOf id after = ((l.sweep clock).1.reactAll (heardOf id steps)).2

/-- A step in which nothing is heard or shown may come first. -/
theorem Searches.cons {l : Locator} {step : Step ν} (h : Searches l id sweep replies steps)
    (hheard : step.heard? id = none) (hshown : step.outcome.journal = []) :
    Searches l id sweep replies (step :: steps) := by
  have hheardOf : heardOf id (step :: steps) = heardOf id steps := List.filterMap_cons_none hheard
  obtain ⟨hasked, before, after, clock, hsweep, hsteps, hbefore, hafter, hlost, htold⟩ := h
  refine ⟨hheardOf ▸ hasked, before, after, clock, hsweep, ?_, hbefore, hafter, hlost,
    hheardOf ▸ htold⟩
  rw [shownBy_cons, hshown, List.nil_append, hsteps]

/-- The losses are reported, and then the search is sent. -/
theorem Traced.swept (h : Traced c [.search id] steps c' []) (hc : Undisturbed id numbers c)
    (hs : c.slots[id]? = some s) (hd : s.locator.disposed = false)
    (hmeets : ∀ step ∈ steps, step.Meets id sweep replies) :
    Searches s.locator id sweep replies steps := by
  obtain ⟨clock, link, rest, hrest, rfl⟩ := h.performed
  let c₁ : ControlPoint ν := { c with clock, link }
  obtain ⟨hsearch, hmeets⟩ := List.forall_mem_cons.1 hmeets
  have hsweep : clock.sweep = sweep := hsearch.sweep rfl
  let lost := clock.order.arrange (s.locator.cache.sweepAt clock.sweep).2
  obtain ⟨htodo, hjournal⟩ :
      (c₁.perform (.search id)).todo = lost.map (.lose id .expired ·) ++ [.broadcast id] ∧
        (c₁.perform (.search id)).journal = [] := by
    have hlocator : c₁.locator? id = some s.locator := ControlPoint.locator?_eq hs
    simp only [ControlPoint.perform, ControlPoint.withLocator, hlocator, ControlPoint.search]
    exact ⟨rfl, trivial⟩
  have hc₂ : Undisturbed id numbers (c₁.perform (.search id)).state :=
    (hc.turn clock link).perform_search (.inl rfl)
  have hslot₂ := c₁.slots_perform hs (.search id)
  rw [Locator.undergo, if_pos rfl] at hslot₂
  rw [htodo] at hrest
  obtain ⟨c₃, losing, sending, hlosing, hsending, rfl⟩ := hrest.done_append
  obtain ⟨hunheard, hunsent, hslot₃, hevents⟩ := hlosing.lost hc₂ hslot₂ hd
  have hdiscreet : ∀ task ∈ lost.map (.lose id .expired ·),
      Task.Discreet (ν := ν) id numbers task := List.forall_mem_map.2 fun d _ => trivial
  have hc₃ := (hlosing.discreet hc₂ hdiscreet).1
  obtain ⟨hasked, after, hshown, hafter, htold⟩ := hsending.sent hc₃ hslot₃ fun step hstep =>
    hmeets step (List.mem_append_right _ hstep)
  have hheard : heardOf id (losing ++ sending) = heardOf id sending := by
    rw [heardOf_append, hunheard, List.nil_append]
  refine Searches.cons ⟨hheard ▸ hasked, _, after, clock, hsweep, ?_, hunsent, hafter, hevents,
    hheard ▸ htold⟩ rfl hjournal
  rw [shownBy_append, hshown]
  rfl

/-- A search reports what has expired, is sent, and handles the replies. -/
theorem Traced.searched (h : Traced c [.operate id .searchNow] steps c' [])
    (hc : Undisturbed id numbers c) (hs : c.slots[id]? = some s)
    (hmeets : ∀ step ∈ steps, step.Meets id sweep replies) :
    Searches s.locator id sweep replies steps := by
  obtain ⟨s', hs', hd, hdropped⟩ := hc.active
  obtain rfl : s = s' := Option.some.inj (hs.symm.trans hs')
  obtain ⟨clock, link, later, hlater, rfl⟩ := h.performed
  let c₁ : ControlPoint ν := { c with clock, link }
  have hperform : c₁.perform (.operate id .searchNow) = ⟨c₁, [.search id], [], none⟩ := by
    have hlocator : c₁.locator? id = some s.locator := ControlPoint.locator?_eq hs
    simp [ControlPoint.perform, ControlPoint.withLocator, hlocator, ControlPoint.operate, hd,
      hdropped]
  rw [hperform] at hlater
  have hswept := hlater.swept (hc.turn clock link) hs hd (List.forall_mem_cons.1 hmeets).2
  exact hswept.cons rfl (congrArg (·.journal) hperform)

end

omit [UrlParser] in
/-- What a sweep takes out are the devices that have expired. -/
theorem Cache.sweepAt_snd (c : Cache) (now : Instant) :
    (c.sweepAt now).2 = c.devices.filter (·.isExpiredAt now) := by
  rw [devices, List.filter_map]
  rfl

/-- A search reports losses before finds. Let a locator that is not disposed be asked to
search, while all code that is called calls nothing and takes none of the numbers of the
locator out; let the search get through, and let its replies be answers to searches and
announcements that devices are there or changed. Then all that follows comes to an end. When
it is done, the search was sent once. Before that the owner was told that those cached devices
are lost that had expired at the sweep, of each of them once and of nothing else. After that
it was told of one event for each reply that told the locator of a device, in their order: of
the first one with a certain key, that the device was updated if it was cached and had not
expired, and that it was found otherwise, even if it had just been reported lost; of every
later one, that it was updated from what the reply before it with this key had told. -/
theorem search_reports_losses_first {log : List (Registration (Received → Script ν))}
    {c : ControlPoint ν} {id : LocatorId} {s : Slot ν} (horder : InOrder log c) (hquiet : c.Quiet)
    (hs : c.slots[id]? = some s) (hd : s.locator.disposed = false)
    (hspares : c.Spares id s.locator.subscriptions) {sweep : Instant} {replies : List Reply}
    (hreplies : ∀ op ∈ replies.filterMap Reply.asks?, op.Tells) :
    (∃ n, (c.run n [.operate id .searchNow]).agenda = []) ∧
    ∀ steps c', Traced c [.operate id .searchNow] steps c' [] →
      (∀ step ∈ steps, step.Meets id sweep replies) →
      ∃ (before after : List Entry) (lost : List Device) (told : List (Option Device)),
        shownBy steps = before ++ .sent id (searchRequest s.locator.config.searchWait) :: after ∧
        sentOf before = [] ∧ sentOf after = [] ∧
        lost.Perm (s.locator.cache.devices.filter (·.isExpiredAt sweep)) ∧
        eventsOf id before = lost.map .lost ∧
        (heardOf id steps).map (·.2) = replies.filterMap Reply.asks? ∧
        List.Forall₂ (fun x v => ∀ d, s.locator.Takes x.1.stamp x.2 (.refresh d) ↔ v = some d)
          (heardOf id steps) told ∧
        (eventsOf id after).length = told.reduceOption.length ∧
        ∀ earlier d later, told.reduceOption = earlier ++ d :: later →
          let event? := (eventsOf id after)[earlier.length]?
          ((∀ d' ∈ earlier, d'.key ≠ d.key) →
            (event? =
              some (match (s.locator.cache.device? d.key).filter (!·.isExpiredAt sweep) with
                | none => .found d
                | some old => .updated old d)) ∧
            ∀ old, s.locator.cache.device? d.key = some old → old.isExpiredAt sweep = true →
              .lost old ∈ eventsOf id before ∧ event? = some (.found d)) ∧
          ∀ first old between, earlier = first ++ old :: between → old.key = d.key →
            (∀ d' ∈ between, d'.key ≠ d.key) → event? = some (.updated old d) := by
  have hc := horder.undisturbed hquiet hs hd hspares
  have hsound := (horder.sound id s hs)
  refine ⟨?_, fun steps c' h hmeets => ?_⟩
  · obtain ⟨n, hn, -⟩ := Task.Passes.operate id .searchNow c hquiet []
    exact ⟨n, hn⟩
  obtain ⟨hheard, before, after, clock, rfl, hshown, hbefore, hafter, hlosses, hevents⟩ :=
    h.searched hc hs hmeets
  have htells : ∀ x ∈ heardOf id steps, x.2.Tells := by
    intro x hx
    exact hreplies x.2 (hheard ▸ List.mem_map_of_mem hx)
  obtain ⟨told, htold, htaken⟩ := Locator.exists_takeIn (l := (s.locator.sweep clock).1) hd htells
  rw [htaken] at hevents
  have hlost : (clock.order.arrange (s.locator.cache.sweepAt clock.sweep).2).Perm
      (s.locator.cache.devices.filter (·.isExpiredAt clock.sweep)) :=
    (clock.order.arrange_perm _).trans (.of_eq (Cache.sweepAt_snd _ _))
  refine ⟨before, after, _, told, hshown, hbefore, hafter, hlost, hlosses, hheard, ?_, ?_,
    fun earlier d later hsplit => ?_⟩
  · exact htold.imp fun x v hv d =>
      (Locator.takes_with_cache _ _ x.1.stamp x.2 _).symm.trans (hv d)
  · rw [hevents, Locator.length_takeIn]
  rw [hevents, hsplit]
  refine ⟨fun hfirst => ?_, fun first old between hearlier hkey hlast => ?_⟩
  · have hcached : (s.locator.sweep clock).1.cache.device? d.key =
        (s.locator.cache.device? d.key).filter (!·.isExpiredAt clock.sweep) :=
      hsound.device?_takeOut _ _
    have hevent := (s.locator.sweep clock).1.takeIn_first hfirst later
    rw [hcached] at hevent
    refine ⟨hevent, fun old hold hexpired => ⟨?_, ?_⟩⟩
    · have hmem : old ∈ s.locator.cache.devices := by
        rw [hsound.mem_devices_iff, hsound.key_eq hold, hold]
      rw [hlosses]
      exact List.mem_map_of_mem (hlost.mem_iff.2 (List.mem_filter.2 ⟨hmem, hexpired⟩))
    · rw [hold, Option.filter_some_neg (by simp [hexpired])] at hevent
      exact hevent
  · rw [hearlier]
    exact (s.locator.sweep clock).1.takeIn_again first hkey hlast later

/-- A time at which devices that were heard of at the beginning have expired. -/
def Instant.later : Instant :=
  ⟨1000, 0, by decide, by decide, by decide⟩

/-- A device answers a search and announces that it changed. -/
def returning : List Reply :=
  [.message (messageOf responseStartLine "ST".toList "a".toList []),
    .message (messageOf notifyStartLine "NT".toList "a".toList "SSDP:Update".toList)]

end

attribute [local instance] UrlParser.verbatim

/-- A locator is built whose owner panics. -/
def newcomer : ControlPoint Unit :=
  (ControlPoint.perform { notes := () } (.script .program
    (.build .forAll (fun _ => .panic .wordless) fun _ => .done))).state

/-- It is started and hears of a device. -/
def acquainted : ControlPoint Unit :=
  ((newcomer.perform (.operate 0 .start)).state.perform (.operate 0 (.announcement
    (messageOf notifyStartLine "NT".toList "a".toList "ssdp:alive".toList)))).state

/-- Long after that it is about to search. -/
def reunion : ControlPoint Unit :=
  { acquainted with
    clock := { stamp := .later, sweep := .later }
    link := { replies := returning } }

theorem mute_reunion : reunion.Mute := by
  have hfresh : ({ notes := () } : ControlPoint Unit).Mute := .fresh () {} {} 0
  have hbuilt : newcomer.Mute := by
    refine hfresh.perform_of_code (fun _ => trivial) (fun _ _ _ _ h => nomatch h) ?_
    rintro caller config owner next ⟨⟩ event
    trivial
  have hstarted : (newcomer.perform (.operate 0 .start)).state.Mute := hbuilt.perform trivial
  have hacquainted : acquainted.Mute := hstarted.perform trivial
  exact hacquainted.turn _ _

/-- The device is reported lost, found and updated. -/
theorem reunion_reported : ∃ before after,
    shownBy (reunion.steps 30 [.operate 0 .searchNow]) =
      before ++ .sent 0 (searchRequest (.ofSecs 4)) :: after ∧
    sentOf before = [] ∧ sentOf after = [] ∧
    (eventsOf 0 before).map (fun event => (event.isLost, event.isNew)) = [(true, false)] ∧
    (eventsOf 0 after).map (fun event => (event.isLost, event.isNew)) =
      [(false, true), (false, false)] := by
  have hend : (reunion.run 30 [.operate 0 .searchNow]).agenda = [] :=
    List.eq_nil_of_length_eq_zero (by decide +kernel)
  have htraced := traced_run reunion 30 [.operate 0 .searchNow]
  rw [hend] at htraced
  have hmeets : ∀ step ∈ reunion.steps 30 [.operate 0 .searchNow],
      step.Meets 0 .later returning := by
    intro step hstep
    obtain ⟨hclock, hlink⟩ := reunion.surroundings_steps 30 _ step hstep
    exact ⟨fun _ => by rw [hclock]; rfl, fun _ => by rw [hlink]; rfl, fun _ => by rw [hlink]; rfl⟩
  obtain ⟨log, horder⟩ := mute_reunion.inOrder
  have hlocator : (reunion.locator? 0).map (fun l => (l.disposed, l.config.searchWait,
      (l.cache.devices.filter (·.isExpiredAt .later)).length)) = some (false, .ofSecs 4, 1) := by
    decide +kernel
  obtain ⟨l, hl, hstate⟩ := Option.map_eq_some_iff.1 hlocator
  obtain ⟨s, hs, rfl⟩ := Option.map_eq_some_iff.1 hl
  obtain ⟨hd, hstate'⟩ := Prod.mk.inj hstate
  obtain ⟨hwait, hexpired⟩ := Prod.mk.inj hstate'
  have htells : ∀ op ∈ returning.filterMap Reply.asks?, op.Tells := by
    have hasked : returning.filterMap Reply.asks? =
        [.answer (messageOf responseStartLine "ST".toList "a".toList []),
          .announcement (messageOf notifyStartLine "NT".toList "a".toList "SSDP:Update".toList)] :=
      by decide
    rw [hasked]
    have hupdate : (messageOf notifyStartLine "NT".toList "a".toList
        "SSDP:Update".toList).Announces .update := ⟨"SSDP:Update".toList, rfl, by decide⟩
    refine List.forall_mem_cons.2 ⟨trivial, List.forall_mem_singleton.2 fun hleaves => ?_⟩
    nomatch hleaves.unique hupdate
  obtain ⟨-, hdone⟩ := search_reports_losses_first horder mute_reunion.quiet hs hd
    (mute_reunion.spares _ _) htells
  obtain ⟨before, after, lost, told, hshown, hbefore, hafter, hperm, hlosses, -⟩ :=
    hdone _ _ htraced hmeets
  obtain ⟨d, rfl⟩ := List.length_eq_one_iff.1 (hperm.length_eq.trans hexpired)
  have hall : (eventsOf 0 (shownBy (reunion.steps 30 [.operate 0 .searchNow]))).map
      (fun event => (event.isLost, event.isNew)) =
        [(true, false), (false, true), (false, false)] := by
    decide +kernel
  rw [hwait] at hshown
  refine ⟨before, after, hshown, hbefore, hafter, by rw [hlosses]; rfl, ?_⟩
  rw [hshown, eventsOf_append, List.map_append, hlosses] at hall
  exact (List.cons.inj hall).2

end Ssdp
