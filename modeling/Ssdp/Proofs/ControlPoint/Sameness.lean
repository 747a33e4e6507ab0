import Ssdp.Proofs.ControlPoint.Independence
import Ssdp.Proofs.Locator.Sameness

/-!
# Equal messages are interchangeable

That messages are equal is an equivalence, and one that nobody sees through who goes by what
locators do: an equal message in place of another one makes no difference to what a locator
lets through, to the devices it caches and to what it tells its owner, except for the order
and the spelling of the headers that come with a device.

* `ControlPoint.Same`, `Task.Same`, `Outcome.Same`: the same but for the copies of headers;
* `ControlPoint.Same.perform_operate`: the same operation leads to the same in one step, with
  whatever code around;
* `Outlook.Same`, `Session.same`: in a session, the same is made of messages that are the same;
* `equality_is_congruence`: equality of headers and of messages, and what it is good for.
-/

namespace Ssdp

variable {ν : Type}

section

/-! ## The same at one step -/

/-- The same owner, with a locator that is the same. -/
def Slot.Same (s s' : Slot ν) : Prop :=
  ∃ locator, s.locator.Same locator ∧ s' = { s with locator }

/-- The same state, with locators that are the same. -/
def ControlPoint.Same (c c' : ControlPoint ν) : Prop :=
  ∃ slots, List.Forall₂ Slot.Same c.slots slots ∧ c' = { c with slots }

/-- The same task, or a report about devices that are the same. -/
inductive Task.Same : Task ν → Task ν → Prop
  | refl (task : Task ν) : Same task task
  | emit (id : LocatorId) {event event' : Event} (h : event.Same event') :
    Same (.emit id event) (.emit id event')
  | lose (id : LocatorId) (cause : LossCause) {d d' : Device} (h : d.Same d') :
    Same (.lose id cause d) (.lose id cause d')

/-- A step shows the same, and leads to the same state and the same tasks. -/
structure Outcome.Same (o o' : Outcome ν) : Prop where
  state : o.state.Same o'.state
  todo : List.Forall₂ Task.Same o.todo o'.todo
  journal : o.journal = o'.journal

/-- Lists are alike in every place. -/
theorem forall₂_getElem? {α β : Type} {R : α → β → Prop} {as : List α} {bs : List β}
    (h : List.Forall₂ R as bs) (i : Nat) : Option.Rel R as[i]? bs[i]? := by
  induction h generalizing i with
  | nil => exact .none
  | cons hab _ ih =>
    cases i with
    | zero => exact .some hab
    | succ i => exact ih i

theorem forall₂_modify {α β : Type} {R : α → β → Prop} {as : List α} {bs : List β}
    (h : List.Forall₂ R as bs) {f : α → α} {g : β → β} (hfg : ∀ a b, R a b → R (f a) (g b))
    (i : Nat) : List.Forall₂ R (as.modify i f) (bs.modify i g) := by
  induction h generalizing i with
  | nil => cases i <;> exact .nil
  | cons hab hrest ih =>
    cases i with
    | zero => exact .cons (hfg _ _ hab) hrest
    | succ i => exact .cons hab (ih i)

namespace ControlPoint

section

variable {c c' : ControlPoint ν} {l l' : Locator} {id : LocatorId}

theorem Same.locator? (h : c.Same c') (id : LocatorId) :
    Option.Rel Locator.Same (c.locator? id) (c'.locator? id) := by
  obtain ⟨slots, hslots, rfl⟩ := h
  have hslot := forall₂_getElem? hslots id
  unfold ControlPoint.locator?
  generalize c.slots[id]? = s, slots[id]? = s' at hslot ⊢
  cases hslot with
  | none => exact .none
  | some hs =>
    obtain ⟨locator, hl, rfl⟩ := hs
    exact .some hl

/-- The same change to locators that are the same. -/
theorem Same.modifyLocator (h : c.Same c') (id : LocatorId) {f f' : Locator → Locator}
    (hf : ∀ l l' : Locator, l.Same l' → (f l).Same (f' l')) :
    (c.modifyLocator id f).Same (c'.modifyLocator id f') := by
  obtain ⟨slots, hslots, rfl⟩ := h
  refine ⟨_, forall₂_modify hslots (fun s s' hs => ?_) id, rfl⟩
  obtain ⟨locator, hl, rfl⟩ := hs
  exact ⟨_, hf _ _ hl, rfl⟩

theorem Same.with_router (h : c.Same c') (router : Router (Subscriber ν)) :
    Same { c with router } { c' with router } := by
  obtain ⟨slots, hslots, rfl⟩ := h
  exact ⟨slots, hslots, rfl⟩

/-- The same verdict leads to the same. -/
theorem Same.carryOut (h : c.Same c') (hl : l.Same l') {v v' : Verdict × List LogRecord}
    (hv : v.1.Same v'.1 ∧ v.2 = v'.2) : (c.carryOut id l v).Same (c'.carryOut id l' v') := by
  obtain ⟨verdict, records⟩ := v
  obtain ⟨verdict', records'⟩ := v'
  obtain ⟨hverdict, rfl⟩ := hv
  cases hverdict with
  | ignore => exact ⟨h, .nil, rfl⟩
  | @refresh d d' hd =>
    obtain ⟨hlocator, hevent⟩ := hl.refresh hd
    have hrecords : (l.refresh d).2.records = (l'.refresh d').2.records := by
      generalize (l.refresh d).2 = event, (l'.refresh d').2 = event' at hevent ⊢
      cases hevent with
      | found hd =>
        obtain ⟨_, -, rfl⟩ := hd
        rfl
      | _ => rfl
    refine ⟨h.modifyLocator id fun _ _ _ => hlocator, .cons (.emit id hevent) .nil, ?_⟩
    simp only [ControlPoint.carryOut, hrecords]
  | farewell usn =>
    obtain ⟨hcache, hlost⟩ := hl.remove usn
    have hclock : c'.clock = c.clock := by
      obtain ⟨_, -, rfl⟩ := h
      rfl
    refine ⟨h.modifyLocator id fun _ _ hl => hl.with_cache hcache, ?_, rfl⟩
    simp only [ControlPoint.carryOut, hclock]
    exact List.rel_map (fun _ _ => .lose id .left) (c.clock.order.forall₂_arrange hlost)

theorem Same.dispose (h : c.Same c') (hl : l.Same l') (id : LocatorId) :
    (c.dispose id l).Same (c'.dispose id l') := by
  have hmodify := h.modifyLocator id fun _ _ hl => hl.retire
  obtain ⟨_, -, rfl⟩ := hl
  obtain ⟨_, -, rfl⟩ := h
  exact ⟨hmodify.with_router _, .nil, rfl⟩

/-- The same operation on locators that are the same leads to the same. -/
theorem Same.operate [UrlParser] (h : c.Same c') (hl : l.Same l') {op op' : Operation}
    (hop : op.Same op') : (c.operate id l op).Same (c'.operate id l' op') := by
  have hsurroundings : c'.clock = c.clock ∧ c'.link = c.link := by
    obtain ⟨_, -, rfl⟩ := h
    exact ⟨rfl, rfl⟩
  obtain ⟨hclock, hlink⟩ := hsurroundings
  have hflags : l'.disposed = l.disposed ∧ l'.listening = l.listening ∧ l'.timer = l.timer ∧
      l'.config = l.config := by
    obtain ⟨_, -, rfl⟩ := hl
    exact ⟨rfl, rfl, rfl, rfl⟩
  obtain ⟨hdisposed, hlistening, htimer, hconfig⟩ := hflags
  have hanswer {e e' : Received} (he : e.Same e') :
      (c.operate id l (.answer e)).Same (c'.operate id l' (.answer e')) := by
    simp only [ControlPoint.operate, hclock]
    exact h.carryOut hl (hl.judgeAnswer _ he)
  have hannouncement {e e' : Received} (he : e.Same e') :
      (c.operate id l (.announcement e)).Same (c'.operate id l' (.announcement e')) := by
    simp only [ControlPoint.operate, hclock, hlink, he.localAddress]
    exact h.carryOut hl (hl.judgeAnnouncement _ he _)
  cases hop with
  | answer he => exact hanswer he
  | announcement he => exact hannouncement he
  | refl =>
    cases op with
    | answer e => exact hanswer (.refl e)
    | announcement e => exact hannouncement (.refl e)
    | start =>
      simp only [ControlPoint.operate, ControlPoint.start, hdisposed, htimer, hconfig]
      split
      · exact ⟨h, .nil, rfl⟩
      · exact ⟨h.modifyLocator id fun _ _ hl => hl.with_listening true true, .nil, rfl⟩
    | stop => exact ⟨h.modifyLocator id fun _ _ hl => hl.with_listening false false, .nil, rfl⟩
    | dispose => exact h.dispose hl id
    | drop =>
      have hgone : ∀ l l' : Locator, l.Same l' →
          Locator.Same { l with dropped := true } { l' with dropped := true } := by
        rintro l _ ⟨cache, hc, rfl⟩
        exact ⟨cache, hc, rfl⟩
      obtain ⟨hstate, htodo, hjournal⟩ := h.dispose hl id
      exact ⟨hstate.modifyLocator id hgone, htodo, hjournal⟩
    | searchNow =>
      simp only [ControlPoint.operate, hdisposed]
      exact ⟨h, List.forall₂_same.2 fun task _ => .refl task, rfl⟩
    | tick =>
      simp only [ControlPoint.operate, hdisposed, hlistening]
      exact ⟨h, List.forall₂_same.2 fun task _ => .refl task, rfl⟩

/-- In one step, a locator makes the same of messages that are the same, whoever is around. -/
theorem Same.perform_operate [UrlParser] (h : c.Same c') (id : LocatorId) {op op' : Operation}
    (hop : op.Same op') :
    (c.perform (.operate id op)).Same (c'.perform (.operate id op')) := by
  have hlocator := h.locator? id
  simp only [perform, withLocator]
  generalize c.locator? id = l?, c'.locator? id = l?' at hlocator ⊢
  cases hlocator with
  | none => exact ⟨h, .nil, rfl⟩
  | @some l l' hl =>
    have hdropped : l'.dropped = l.dropped := by
      obtain ⟨_, -, rfl⟩ := hl
      rfl
    simp only [hdropped]
    split
    · exact ⟨h, .nil, rfl⟩
    · exact h.operate hl hop

end

end ControlPoint

/-! ## The same in a session -/

/-- The same request, or one about messages that are the same. -/
inductive Request.Same : Request ν → Request ν → Prop
  | refl (request : Request ν) : Same request request
  | deliver {e e' : Received} (h : e.Same e') : Same (.deliver e) (.deliver e')
  | operate (id : LocatorId) {op op' : Operation} (h : op.Same op') :
    Same (.operate id op) (.operate id op')

/-- The same request at the same time. -/
structure Occasion.Same (o o' : Occasion ν) : Prop where
  request : o.request.Same o'.request
  time : o.time = o'.time

/-- The same can be foretold of a locator. -/
structure Outlook.Same (v v' : Outlook) : Prop where
  built : v.built = v'.built
  locator? : Option.Rel Locator.Same v.locator? v'.locator?
  events : List.Forall₂ Event.Same v.events v'.events

/-- The same request has the same in store for a locator. -/
theorem Request.Same.fate [UrlParser] {r r' : Request ν} (h : r.Same r') {l l' : Locator}
    (hl : l.Same l') (id : LocatorId) (clock : Conditions) :
    (r.task.fate id clock l).1.Same (r'.task.fate id clock l').1 ∧
      List.Forall₂ Event.Same (r.task.fate id clock l).2 (r'.task.fate id clock l').2 := by
  have hoperate (id' : LocatorId) {op op' : Operation} (hop : op.Same op') :
      ((Request.operate id' op).task (ν := ν) |>.fate id clock l).1.Same
          ((Request.operate id' op').task (ν := ν) |>.fate id clock l').1 ∧
        List.Forall₂ Event.Same ((Request.operate id' op).task (ν := ν) |>.fate id clock l).2
          ((Request.operate id' op').task (ν := ν) |>.fate id clock l').2 := by
    simp only [Request.task, Task.fate]
    split
    · exact hl.meet clock hop
    · exact ⟨hl, .nil⟩
  cases h with
  | deliver he => exact hl.hear clock he
  | operate id' hop => exact hoperate id' hop
  | refl =>
    cases r with
    | deliver e => exact hl.hear clock (.refl e)
    | operate id' op => exact hoperate id' (.refl op)
    | _ => exact ⟨hl, .nil⟩

namespace Outlook.Same

variable {v v' : Outlook}

theorem build (h : v.Same v') (id : LocatorId) (config : LocatorConfig) :
    (v.build id config).Same (v'.build id config) := by
  unfold Outlook.build
  split
  · exact h
  · refine ⟨congrArg (· + 1) h.built, ?_, h.events⟩
    rw [← h.built]
    split
    · exact .some (.refl _)
    · exact h.locator?

theorem work [UrlParser] (h : v.Same v') (id : LocatorId) (clock : Conditions) {r r' : Request ν}
    (hr : r.Same r') : (v.work id clock r.task).Same (v'.work id clock r'.task) := by
  have hlocator := h.locator?
  obtain ⟨built, l?, events⟩ := v
  obtain ⟨built', l?', events'⟩ := v'
  cases hlocator with
  | none => exact h
  | some hl =>
    obtain ⟨hfate, hevents⟩ := hr.fate hl id clock
    exact ⟨h.built, .some hfate, List.rel_append h.events hevents⟩

/-- The same occasion leaves the same to be foretold. -/
theorem after [UrlParser] (h : v.Same v') (id : LocatorId) {o o' : Occasion ν} (ho : o.Same o') :
    (v.after id o).Same (v'.after id o') := by
  obtain ⟨request, time⟩ := o
  obtain ⟨request', time'⟩ := o'
  obtain ⟨hrequest, htime⟩ := ho
  obtain rfl : time = time' := htime
  have hwork := h.work id (time id) hrequest
  cases hrequest with
  | deliver he => exact hwork
  | operate id' hop => exact hwork
  | refl =>
    cases request with
    | build config owner => exact h.build id config
    | _ => exact hwork

end Outlook.Same

/-- The same occasions, one after the other, leave the same to be foretold. -/
theorem outlook_same [UrlParser] {occasions occasions' : List (Occasion ν)}
    (h : List.Forall₂ Occasion.Same occasions occasions') (id : LocatorId) :
    (outlook id occasions).Same (outlook id occasions') := by
  suffices hfold : ∀ v v' : Outlook, v.Same v' →
      (occasions.foldl (·.after id ·) v).Same (occasions'.foldl (·.after id ·) v') from
    hfold _ _ ⟨rfl, .none, .nil⟩
  induction h with
  | nil => exact fun _ _ hv => hv
  | cons ho _ ih => exact fun v v' hv => ih _ _ (hv.after id ho)

theorem Request.Same.mute {r r' : Request ν} (h : r.Same r') (hr : r.Mute) : r'.Mute := by
  cases h with
  | refl => exact hr
  | _ => trivial

/-- Sessions with the same occasions end with the same locators, after the same events. -/
theorem Session.same [UrlParser] {occasions occasions' : List (Occasion ν)} {c c' : ControlPoint ν}
    {shown shown' : List Entry} (h : Session occasions c shown)
    (h' : Session occasions' c' shown') (hmute : ∀ o ∈ occasions, o.request.Mute)
    (hsame : List.Forall₂ Occasion.Same occasions occasions') (id : LocatorId) :
    Option.Rel Locator.Same ((c.locator? id).map Locator.bare)
        ((c'.locator? id).map Locator.bare) ∧
      List.Forall₂ Event.Same (eventsOf id shown) (eventsOf id shown') := by
  have hmute' : ∀ o ∈ occasions', o.request.Mute := by
    clear h h'
    induction hsame with
    | nil => exact hmute
    | cons ho _ ih =>
      obtain ⟨hfirst, hrest⟩ := List.forall_mem_cons.1 hmute
      exact List.forall_mem_cons.2 ⟨ho.request.mute hfirst, ih hrest⟩
  obtain ⟨-, hfits⟩ := h.foretold hmute id
  obtain ⟨-, hfits'⟩ := h'.foretold hmute' id
  have houtlook := outlook_same hsame id
  rw [hfits.locator?, hfits'.locator?, hfits.events, hfits'.events]
  exact ⟨houtlook.locator?, houtlook.events⟩

/-! ## Equality -/

/-- Equality of headers and of messages is an equivalence that nothing sees through but their
order and spelling.

* Let headers be those of messages that were read or put together, with whatever edits. Their
  equality is reflexive, symmetric and transitive, and they are equal if and only if they
  answer alike for every name. The same insertion into equal headers, or the same removal from
  them, comes to the same answer or to the same panic, and leaves headers that are equal. The
  equality of messages is an equivalence, too.
* Equal messages that come from the same sender to the same local address are invoked under
  the same key. Whatever code is around, a locator that gets one of them in a step, as an
  answer or as an announcement, shows what it shows for the other, and has the same left to
  do, and they leave the same state: the devices that are cached, replaced and reported differ
  in the order and the spelling of their headers at most. This goes for any two locators, and
  control points, that differ no more than that to begin with.
* Let sessions have the same occasions at the same times, but for messages that are the same,
  and let no code call back and no search get a reply. Then each locator ends with the same
  options, flags and devices, after the same events were told to its owner in the same order. -/
theorem equality_is_congruence [UrlParser] :
    (∀ a b c : Headers, a.Reached → b.Reached → c.Reached →
      a.agree a = true ∧ (a.agree b = true → b.agree a = true) ∧
      (a.agree b = true → b.agree c = true → a.agree c = true) ∧
      (a.agree b = true ↔ ∀ name, a.get? name = b.get? name) ∧
      (a.agree b = true → ∀ name value,
        Headers.SameResult ((Headers.tryInsert name value).run a)
          ((Headers.tryInsert name value).run b) ∧
        Headers.SameResult ((Headers.insertOrPanic name value).run a)
          ((Headers.insertOrPanic name value).run b) ∧
        Headers.SameResult ((Headers.takeOut name).run a) ((Headers.takeOut name).run b))) ∧
    (∀ m m' m'' : Message, m.Made → m'.Made → m''.Made →
      m.agree m = true ∧ (m.agree m' = true → m'.agree m = true) ∧
      (m.agree m' = true → m'.agree m'' = true → m.agree m'' = true)) ∧
    (∀ m m' : Message, m.Made → m'.Made → m.agree m' = true → ∀ sender localAddress,
      let e : Received := ⟨m, sender, localAddress⟩
      let e' : Received := ⟨m', sender, localAddress⟩
      e.Same e' ∧ e.routeKey = e'.routeKey ∧
      ∀ (c c' : ControlPoint ν), c.Same c' → ∀ id,
        (c.perform (.operate id (.answer e))).Same (c'.perform (.operate id (.answer e'))) ∧
        (c.perform (.operate id (.announcement e))).Same
          (c'.perform (.operate id (.announcement e')))) ∧
    ∀ (occasions occasions' : List (Occasion ν)) (c c' : ControlPoint ν)
        (shown shown' : List Entry),
      Session occasions c shown → Session occasions' c' shown' →
      (∀ o ∈ occasions, o.request.Mute) → List.Forall₂ Occasion.Same occasions occasions' →
      ∀ id,
        Option.Rel Locator.Same ((c.locator? id).map Locator.bare)
          ((c'.locator? id).map Locator.bare) ∧
        List.Forall₂ Event.Same (eventsOf id shown) (eventsOf id shown') := by
  refine ⟨fun a b c ha hb hc => ?_, fun m m' m'' hm hm' hm'' => ?_,
    fun m m' hm hm' hagree sender localAddress => ?_,
    fun _ _ _ _ _ _ h h' hmute hsame id => h.same h' hmute hsame id⟩
  · rw [ha.sound.agree_iff_same hb.sound, hb.sound.agree_iff_same ha.sound,
      hb.sound.agree_iff_same hc.sound, ha.sound.agree_iff_same hc.sound]
    refine ⟨ha.sound.agree_refl, .symm, .trans, ha.sound.same_iff_get? hb.sound,
      fun hab name value => ⟨?_, ?_, ?_⟩⟩
    · exact hab.run_tryInsert ha.sound hb.sound name value
    · exact hab.run_insertOrPanic ha.sound hb.sound name value
    · exact hab.run_takeOut ha.sound hb.sound name
  · simp only [Message.agree_iff, hm.sound.agree_iff_same hm'.sound,
      hm'.sound.agree_iff_same hm.sound, hm'.sound.agree_iff_same hm''.sound,
      hm.sound.agree_iff_same hm''.sound]
    refine ⟨⟨trivial, hm.sound.agree_refl⟩, fun h => ⟨h.1.symm, h.2.symm⟩, fun h h' => ?_⟩
    exact ⟨h.1.trans h'.1, h.2.trans h'.2⟩
  · have hsame := Received.same_of_agree hm hm' hagree sender localAddress
    refine ⟨hsame, hsame.routeKey, fun c c' hc id => ⟨?_, ?_⟩⟩
    · exact hc.perform_operate id (.answer hsame)
    · exact hc.perform_operate id (.announcement hsame)

end

/-- An announcement of a device. -/
def presence : Message :=
  ⟨notifyStartLine, ⟨[⟨"NT".toList, "t".toList⟩, ⟨"USN".toList, "u".toList⟩,
    ⟨"NTS".toList, "ssdp:alive".toList⟩, ⟨"Location".toList, "http://h/".toList⟩]⟩⟩

/-- The same in another order and another spelling. -/
def respelledPresence : Message :=
  ⟨notifyStartLine, ⟨[⟨"nts".toList, "ssdp:alive".toList⟩, ⟨"LOCATION".toList, "http://h/".toList⟩,
    ⟨"usn".toList, "u".toList⟩, ⟨"Nt".toList, "t".toList⟩]⟩⟩

/-- A locator is built and hears a message. -/
def heardOnce (m : Message) : List (Occasion Unit) :=
  [⟨.build .forAll fun _ => .done, fun _ => {}⟩,
    ⟨.deliver ⟨m, .v4 .unspecified 1900, .v4 .unspecified⟩, fun _ => {}⟩]

attribute [local instance] UrlParser.verbatim

/-- The device is found in either case, whatever the order of the headers that come with
it. -/
theorem respelled_presence_congruent :
    presence.headers.agree respelledPresence.headers = true ∧
    respelledPresence.headers.agree presence.headers = true ∧
    Headers.SameResult ((Headers.takeOut "Nts".toList).run presence.headers)
      ((Headers.takeOut "Nts".toList).run respelledPresence.headers) ∧
    ∃ c shown c' shown', Session (heardOnce presence) c shown ∧
      Session (heardOnce respelledPresence) c' shown' ∧
      (eventsOf 0 shown).map Event.isNew = [true] ∧
      List.Forall₂ Event.Same (eventsOf 0 shown) (eventsOf 0 shown') := by
  have hread : Message.read? presence.toBytes = .ok ⟨presence, []⟩ := by
    rw [Message.toBytes, Message.read?_toUTF8]
    rfl
  have hread' : Message.read? respelledPresence.toBytes = .ok ⟨respelledPresence, []⟩ := by
    rw [Message.toBytes, Message.read?_toUTF8]
    rfl
  have hmade : presence.Made := .read hread
  have hmade' : respelledPresence.Made := .read hread'
  obtain ⟨hheaders, -, hreceived, hsessions⟩ := equality_is_congruence (ν := Unit)
  obtain ⟨-, hsymm, -, -, hedits⟩ :=
    hheaders _ _ _ ⟨_, hmade, rfl⟩ ⟨_, hmade', rfl⟩ ⟨_, hmade, rfl⟩
  have hagree : presence.headers.agree respelledPresence.headers = true := by decide
  obtain ⟨hsame, -⟩ := hreceived presence respelledPresence hmade hmade' (by decide)
    (.v4 .unspecified 1900) (.v4 .unspecified)
  have hmute (m : Message) : ∀ o ∈ heardOnce m, o.request.Mute := by
    simp [heardOnce, Request.Mute, Script.Mute]
  have hexists (m : Message) : ∃ c shown, Session (heardOnce m) c shown := by
    refine Session.exists () (heardOnce m) fun o ho => ⟨hmute m o ho, {}, ?_⟩
    revert o
    simp [heardOnce]
  obtain ⟨c, shown, h⟩ := hexists presence
  obtain ⟨c', shown', h'⟩ := hexists respelledPresence
  have hoccasions : List.Forall₂ Occasion.Same (heardOnce presence) (heardOnce respelledPresence) :=
    .cons ⟨.refl _, rfl⟩ (.cons ⟨.deliver hsame, rfl⟩ .nil)
  obtain ⟨-, hevents⟩ := hsessions _ _ c c' shown shown' h h' (hmute presence) hoccasions 0
  refine ⟨hagree, hsymm hagree, (hedits hagree "Nts".toList []).2.2, c, shown, c', shown', h, h',
    ?_, hevents⟩
  obtain ⟨-, hfits⟩ := h.foretold (hmute presence) 0
  rw [hfits.events]
  decide +kernel

end Ssdp
