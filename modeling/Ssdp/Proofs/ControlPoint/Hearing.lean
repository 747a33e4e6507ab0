import Ssdp.Proofs.ControlPoint.Dispatch
import Ssdp.Proofs.ControlPoint.Shelter
import Ssdp.Proofs.Locator.Registry
import Ssdp.Transport.Receive

/-!
# From bytes to the cache

Announcements are written as bytes, received one after the other, read, dispatched and
judged. What comes of it in the cache of a locator is what the announcements themselves
make of the registry that the cache showed before, whatever other code does meanwhile, as
long as it leaves the locator alone.

* `Task.told`, `Task.heard`: the announcements that a task has for a locator, and those
  that it hands over to it;
* `Sheltered.told_perform`: what a task has for a locator is heard or passed on;
* `Hearing`, `Hearing.perform`: what was heard so far and what is still to come are the
  announcements, in order, and the cache shows what was heard;
* `registry_of_received`: the cache after any announcements.
-/

namespace Ssdp

variable {ν : Type}

section

variable {id : LocatorId}

/-! ## Announcements on their way -/

/-- The announcements that a task has for the locator in a place. -/
def Task.told (id : LocatorId) : Task ν → List Received
  | .deliver e => if e.routeKey = notifyKey then [e] else []
  | .invoke ⟨_, .announcements place⟩ e => if place = id then [e] else []
  | .operate place (.announcement e) => if place = id then [e] else []
  | _ => []

/-- The announcements that tasks have for the locator in a place. -/
def toldBy (id : LocatorId) (agenda : List (Task ν)) : List Received :=
  agenda.flatMap (Task.told id)

/-- The announcement that a task hands over to the locator in a place. -/
def Task.heard (id : LocatorId) : Task ν → List Received
  | .operate place (.announcement e) => if place = id then [e] else []
  | _ => []

@[simp] theorem toldBy_nil : toldBy id ([] : List (Task ν)) = [] := rfl

@[simp] theorem toldBy_cons (task : Task ν) (rest : List (Task ν)) :
    toldBy id (task :: rest) = task.told id ++ toldBy id rest := rfl

@[simp] theorem toldBy_append (xs ys : List (Task ν)) :
    toldBy id (xs ++ ys) = toldBy id xs ++ toldBy id ys :=
  List.flatMap_append

@[simp] theorem Task.told_script (caller : Caller) (body : Script ν) :
    (Task.script caller body).told id = [] := rfl

@[simp] theorem Task.told_lose (place : LocatorId) (cause : LossCause) (d : Device) :
    (Task.lose place cause d : Task ν).told id = [] := rfl

/-- Only the handlers of a locator have something for it. -/
theorem toldBy_invoke (subs : List (Subscription (Subscriber ν))) (e : Received) :
    toldBy id (subs.map (.invoke · e)) =
      toldBy id ((subs.filter (·.handler.locator? = some id)).map (.invoke · e)) := by
  induction subs with
  | nil => rfl
  | cons s rest ih =>
    by_cases hmine : s.handler.locator? = some id
    · rw [List.filter_cons_of_pos (by simpa using hmine)]
      simp only [List.map_cons, toldBy_cons, ih]
    · have hnone : (Task.invoke s e).told id = [] := by
        obtain ⟨hid, handler⟩ := s
        cases handler with
        | announcements place =>
          have hplace : place ≠ id := fun heq => hmine (congrArg some heq)
          exact if_neg hplace
        | _ => rfl
      rw [List.filter_cons_of_neg (by simpa using hmine)]
      simp only [List.map_cons, toldBy_cons, ih, hnone, List.nil_append]

theorem Operation.Spares.told {op : Operation} {place : LocatorId} (h : op.Spares id place) :
    (Task.operate place op : Task ν).told id = [] := by
  cases op with
  | announcement e => exact if_neg h
  | _ => rfl

/-- An operation or an event leaves nothing for the locator. -/
theorem Leaves.toldBy_eq_nil {c : ControlPoint ν} {task : Task ν} {todo : List (Task ν)}
    (h : Leaves c task todo)
    (htask : (∃ place op, task = .operate place op) ∨ ∃ place event, task = .emit place event) :
    toldBy id todo = [] := by
  cases h with
  | farewell place op ds => simp [toldBy]
  | nothing | search | refresh | emit => rfl
  | _ => obtain ⟨_, _, heq⟩ | ⟨_, _, heq⟩ := htask <;> cases heq

variable [UrlParser]

namespace Sheltered

variable {numbers : List (Text × HandlerId)} {c : ControlPoint ν} {task : Task ν}

omit [UrlParser] in
/-- A dispatch has its message for the locator once, if it is an announcement. -/
theorem toldBy_dispatchTasks (h : Sheltered id numbers c) {e : Received}
    (hkey : e.routeKey ≠ responseStartLine) :
    toldBy id (c.dispatchTasks e) = (Task.deliver e : Task ν).told id := by
  obtain ⟨hid, hfilter⟩ := h.filter_subscriptions hkey
  rw [ControlPoint.dispatchTasks, toldBy_invoke, hfilter, Task.told]
  split
  · simp [Task.told]
  · rfl

omit [UrlParser] in
theorem toldBy_performScript (h : Sheltered id numbers c) {caller : Caller} {body : Script ν}
    (hb : body.Spares id numbers) : toldBy id (c.performScript caller body).todo = [] := by
  cases body with
  | read datagram next =>
    simp only [ControlPoint.performScript]
    split <;> rfl
  | dispatch e next =>
    have hkeys : e.routeKey ≠ notifyKey ∧ e.routeKey ≠ responseStartLine := by
      simpa using hb.1
    have htold : (Task.deliver e : Task ν).told id = [] := if_neg hkeys.1
    simp [ControlPoint.performScript, h.toldBy_dispatchTasks hkeys.2, htold]
  | operate place op next => simp [ControlPoint.performScript, hb.1.told]
  | _ => rfl

/-- What a mild task has for the locator, it hands over or passes on. -/
theorem told_perform (h : Sheltered id numbers c) (ht : task.Mild id numbers) :
    task.told id = task.heard id ++ toldBy id (c.perform task).todo := by
  cases task with
  | script caller body => exact (h.toldBy_performScript ht).symm
  | deliver e => exact (h.toldBy_dispatchTasks ht).symm
  | invoke s e =>
    obtain ⟨hid, handler⟩ := s
    cases handler with
    | announcements place => exact (List.append_nil _).symm
    | _ => rfl
  | operate place op =>
    rw [(leaves_perform c _).toldBy_eq_nil (.inl ⟨place, op, rfl⟩), List.append_nil]
    cases op <;> rfl
  | emit place event =>
    exact ((leaves_perform c _).toldBy_eq_nil (.inr ⟨place, event, rfl⟩)).symm
  | lose place cause d => rfl
  | log record => rfl
  | _ => exact ht.elim

end Sheltered

/-! ## What is heard -/

/-- A mild task that hands nothing over starts or stops the locator at most. -/
theorem Task.Mild.undergo {numbers : List (Text × HandlerId)} {task : Task ν}
    (ht : task.Mild id numbers) (hnone : task.heard id = []) (l : Locator) (clock : Conditions) :
    ∃ listening timer, (l.undergo id clock task).1 = { l with listening, timer } := by
  have same : ∃ listening timer, l = { l with listening, timer } := ⟨l.listening, l.timer, rfl⟩
  cases task with
  | operate place op =>
    simp only [Locator.undergo]
    split
    · rename_i hplace
      obtain ⟨rfl, -⟩ := hplace
      cases op with
      | start =>
        simp only [Locator.react]
        split
        · exact same
        · exact ⟨true, true, rfl⟩
      | stop => exact ⟨false, false, rfl⟩
      | searchNow => exact same
      | tick => exact same
      | announcement e => simp [heard] at hnone
      | _ =>
        rcases ht with ht | ⟨e, heq⟩
        · exact absurd rfl ht
        · cases heq
    · exact same
  | search place => exact ht.elim
  | _ => exact same

omit [UrlParser] in
/-- A task that hands an announcement over to the locator. -/
theorem Task.eq_operate_of_heard {task : Task ν} {e : Received} {more : List Received}
    (h : task.heard id = e :: more) : task = .operate id (.announcement e) ∧ more = [] := by
  unfold heard at h
  split at h
  · split at h
    · rename_i hplace
      obtain ⟨rfl, rfl⟩ := List.cons.inj h
      exact ⟨by rw [hplace], rfl⟩
    · cases h
  · cases h

/-- A locator is left alone while announcements are on their way to it: those that it has
heard and those that tasks still have for it are these, in order. -/
structure Hearing (id : LocatorId) (l : Locator) (announcements : List Announcement)
    (c : ControlPoint ν) (left : List (Task ν)) : Prop where
  sheltered : Sheltered id l.subscriptions c
  mild : ∀ task ∈ left, task.Mild id l.subscriptions
  progress : ∃ heard pending s, announcements = heard ++ pending ∧
    List.Forall₂ (fun e a => a.Written e.message) (toldBy id left) pending ∧
    c.slots[id]? = some s ∧ l.Heard heard s.locator

namespace Hearing

variable {l : Locator} {announcements : List Announcement} {c c' : ControlPoint ν}
  {task : Task ν} {tasks left rest : List (Task ν)} {shown : List Entry}

theorem perform (h : Hearing id l announcements c (task :: rest)) :
    Hearing id l announcements (c.perform task).state ((c.perform task).todo ++ rest) := by
  obtain ⟨htask, hrest⟩ := List.forall_mem_cons.1 h.mild
  obtain ⟨heard, pending, s, heq, hwritten, hs, hheard⟩ := h.progress
  have hs' := ControlPoint.slots_perform hs task
  rw [toldBy_cons, h.sheltered.told_perform htask, List.append_assoc, ← toldBy_append]
    at hwritten
  refine ⟨h.sheltered.perform htask,
    List.forall_mem_append.2 ⟨h.sheltered.todo_mild htask, hrest⟩, ?_⟩
  cases htold : task.heard id with
  | nil =>
    obtain ⟨listening, timer, hl⟩ := htask.undergo htold s.locator c.clock
    rw [htold] at hwritten
    refine ⟨heard, pending, _, heq, hwritten, hs', ?_⟩
    rw [hl]
    exact hheard.with_timer listening timer
  | cons e more =>
    obtain ⟨rfl, rfl⟩ := Task.eq_operate_of_heard htold
    rw [htold] at hwritten
    cases hwritten with
    | @cons _ a _ pending hfirst hothers =>
      refine ⟨heard ++ [a], pending, _, by rw [heq, List.append_assoc]; rfl, hothers, hs', ?_⟩
      simp only [Locator.undergo, hheard.dropped, and_self, if_true]
      exact hheard.hear c.clock hfirst

theorem works (h : Hearing id l announcements c tasks) (hw : Works c tasks c' shown left) :
    Hearing id l announcements c' left := by
  induction hw with
  | start => exact h
  | perform _ ih => exact ih.perform
  | turn clock link _ ih => exact ⟨ih.sheltered.turn clock link, ih.mild, ih.progress⟩

/-- Once nothing is left, all was heard. -/
theorem heard_all (h : Hearing id l announcements c []) :
    ∃ s, c.slots[id]? = some s ∧ l.Heard announcements s.locator := by
  obtain ⟨heard, pending, s, heq, hwritten, hs, hheard⟩ := h.progress
  cases hwritten
  rw [List.append_nil] at heq
  exact ⟨s, hs, heq ▸ hheard⟩

end Hearing

/-! ## What is received -/

/-- An announcement as it is sent: headers that carry it, and the addresses that it comes
from and arrives on. -/
structure Notice where
  announcement : Announcement
  headers : List Header
  carries : announcement.Carries headers
  sender : SocketAddress
  localAddress : Address

/-- What a notice leads to. It is written as a message, and what the bytes of this are
read as is dispatched. -/
def Notice.tasks (n : Notice) : List (Task ν) :=
  match Message.build notifyStartLine (n.headers.map fun e => (e.name, e.value)) with
  | .ok m => ((accept m.toBytes n.sender n.localAddress).1.map Task.deliver).toList
  | .error _ => []

/-- Every notice is received as what it was written as. -/
theorem Notice.exists_tasks_eq (n : Notice) : ∃ e : Received,
    n.announcement.Written e.message ∧ (n.tasks : List (Task ν)) = [.deliver e] := by
  obtain ⟨m, hwritten, hbuild⟩ := Announcement.exists_written n.carries
  refine ⟨⟨m, n.sender, n.localAddress⟩, hwritten, ?_⟩
  rw [tasks, hbuild]
  simp only [accept, hwritten.canonical.read_back]
  rfl

/-- All notices are announcements to the locator, in order. -/
theorem toldBy_notices (notices : List Notice) :
    List.Forall₂ (fun e a => a.Written e.message)
      (toldBy id (notices.flatMap Notice.tasks : List (Task ν)))
      (notices.map (·.announcement)) := by
  induction notices with
  | nil => exact .nil
  | cons n rest ih =>
    obtain ⟨e, hwritten, htasks⟩ := n.exists_tasks_eq (ν := ν)
    have htold : (Task.deliver e : Task ν).told id = [e] := if_pos hwritten.routeKey
    rw [List.flatMap_cons, htasks, toldBy_append, toldBy_cons, htold]
    exact .cons hwritten ih

/-- What is true of the delivery of every announcement is true of all that notices lead
to. -/
theorem forall_notices {P : Task ν → Prop}
    (h : ∀ e (a : Announcement), a.Written e.message → P (.deliver e)) (notices : List Notice) :
    ∀ task ∈ notices.flatMap Notice.tasks, P task := by
  refine List.forall_mem_flatMap.2 fun n _ => ?_
  obtain ⟨e, hwritten, htasks⟩ := n.exists_tasks_eq (ν := ν)
  rw [htasks]
  exact List.forall_mem_singleton.2 (h e _ hwritten)

theorem mild_notices {numbers : List (Text × HandlerId)} (notices : List Notice) :
    ∀ task ∈ (notices.flatMap Notice.tasks : List (Task ν)), task.Mild id numbers := by
  refine forall_notices (fun e a hwritten heq => notifyKey_ne_responseStartLine ?_) notices
  rw [← heq]
  exact hwritten.routeKey.symm

/-- Quiet tasks that are worked off in quiet leave quiet tasks, in quiet. -/
theorem Works.quiet {c c' : ControlPoint ν} {tasks left : List (Task ν)} {shown : List Entry}
    (h : Works c tasks c' shown left) (hc : c.Quiet) (htasks : ∀ task ∈ tasks, task.Quiet) :
    c'.Quiet ∧ ∀ task ∈ left, task.Quiet := by
  induction h with
  | start => exact ⟨hc, htasks⟩
  | perform _ ih =>
    obtain ⟨htask, hrest⟩ := List.forall_mem_cons.1 ih.2
    exact ⟨ih.1.perform htask, List.forall_mem_append.2 ⟨ih.1.todo_perform htask, hrest⟩⟩
  | turn clock link _ ih => exact ⟨⟨ih.1.wired, ih.1.handlers, ih.1.owners⟩, ih.2⟩

/-- In quiet, receiving comes to an end, wherever it has got to. -/
theorem Works.exists_run_notices {c c' : ControlPoint ν} {notices : List Notice}
    {left : List (Task ν)} {shown : List Entry}
    (h : Works c (notices.flatMap Notice.tasks) c' shown left) (hc : c.Quiet) :
    ∃ n, (c'.run n left).agenda = [] := by
  obtain ⟨hc', hleft⟩ := h.quiet hc (forall_notices (fun _ _ _ => trivial) notices)
  obtain ⟨n, hn, -⟩ := Task.Passes.all (fun task ht => .of_quiet (hleft task ht)) hc' []
  rw [List.append_nil] at hn
  exact ⟨n, hn⟩

/-- From announcements on the wire to the registry. Wherever civil moves have led, let a
locator be there that is not disposed, and let all code leave it alone from then on. Any
announcements are written as messages, with their headers in any order and among any
others, and the bytes of these are received, read and dispatched one after the other, at
any times. Once all that they led to is done, the locator is still there, no two of its
devices have the same key, and its cache shows what the announcements by themselves make of
the registry that it showed before. Where no code calls back, receiving comes to that end. -/
theorem registry_of_received {notes : ν} {clock : Conditions} {link : Link} {attempts threads : Nat}
    {c : ControlPoint ν} {before : List Entry} {agendas : List (List (Task ν))}
    {log : List (Registration (Received → Script ν))}
    (h : CivilLeads (.fresh notes clock link attempts threads) ⟨⟨c, before, agendas⟩, log⟩)
    {s : Slot ν} (hs : c.slots[id]? = some s) (hd : s.locator.disposed = false)
    (hspares : c.Spares id s.locator.subscriptions) (notices : List Notice) :
    let l := s.locator
    let received : List (Task ν) := notices.flatMap Notice.tasks
    (∀ c' shown, Works c received c' shown [] → ∃ s', c'.slots[id]? = some s' ∧
      s'.locator.disposed = false ∧ (s'.locator.cache.devices.map Device.key).Nodup ∧
      s'.locator.cache.registry = (notices.map (·.announcement)).foldl
        (Announcement.apply l.config.filters) l.cache.registry) ∧
    (c.Quiet → ∀ c' shown left, Works c received c' shown left → ∃ n,
      let r := c'.run n left
      r.agenda = [] ∧ Works c received r.state (shown ++ r.journal) []) := by
  intro l received
  have horder := h.inOrder
  have hdropped : l.dropped = false := by
    have hdisposed := (horder.orderly id s hs).disposed
    rw [hd] at hdisposed
    exact Bool.eq_false_iff.2 fun ht => Bool.false_ne_true (hdisposed ht)
  have hearing : Hearing id l (notices.map (·.announcement)) c received :=
    ⟨horder.sheltered hs hd hspares, mild_notices notices, [], _, s, rfl, toldBy_notices notices,
      hs, hd, hdropped, rfl, horder.sound id s hs, rfl⟩
  constructor
  · intro c' shown hworks
    obtain ⟨s', hs', hheard⟩ := (hearing.works hworks).heard_all
    exact ⟨s', hs', hheard.disposed, hheard.sound.nodup_keys, hheard.registry⟩
  · intro hquiet c' shown left hworks
    obtain ⟨n, hn⟩ := hworks.exists_run_notices hquiet
    exact ⟨n, hn, hn ▸ hworks.run n⟩

/-- The announcement, sent with its headers as they are listed. -/
def Announcement.notice (a : Announcement) : Notice where
  announcement := a
  headers := a.headers
  carries := a.carries_headers
  sender := .v4 .unspecified 1900
  localAddress := .v4 .unspecified

end

attribute [local instance] UrlParser.verbatim

/-- A device with a `USN` and three types, of which a locator looks for two, and another
device, whose announcement may be believed for as long as can be told. Then the second one
leaves as a type that is not looked for, and the first one as one of its own. -/
def comingAndGoing : List Announcement :=
  let a : Designation := ⟨"urn:a:1".toList, by decide, by decide, by decide, by decide⟩
  let a' : Designation := ⟨"URN:A:2".toList, by decide, by decide, by decide, by decide⟩
  let b : Designation := ⟨"urn:b:1".toList, by decide, by decide, by decide, by decide⟩
  let first : Designation := ⟨"uuid:1".toList, by decide, by decide, by decide, by decide⟩
  let second : Designation := ⟨"uuid:2".toList, by decide, by decide, by decide, by decide⟩
  let location : Whereabouts :=
    { text := "http://h/".toList
      url := ⟨"http://h/".toList⟩
      reads := by decide +kernel
      trimmed := by decide
      cr_not_mem := by decide
      lf_not_mem := by decide }
  [.presence false a first location 900 (by decide),
    .presence true a' first location 1800 (by decide),
    .presence false b first location 900 (by decide),
    .presence false a second location 18446744073709551615 (by decide),
    .byeBye b second,
    .byeBye a' first]

/-- The program builds a locator that looks for two of the types. -/
def lookout : Script Unit :=
  .build { LocatorConfig.forAll with filters := ["urn:A:".toList] } (fun _ => .done) fun _ => .done

/-- Of all that was announced, the second device is left. -/
theorem comingAndGoing_received : ∃ (c c' : ControlPoint Unit) (shown : List Entry)
    (s : Slot Unit),
    Works c ((comingAndGoing.map Announcement.notice).flatMap Notice.tasks) c' shown [] ∧
    c'.slots[0]? = some s ∧ (s.locator.cache.devices.map Device.key).Nodup ∧
    (s.locator.cache.registry ⟨"urn:a:1".toList, "uuid:2".toList⟩).map
      (fun x => (x.notificationType, x.usn, x.location.text, x.maxAge.secs)) =
        some ("urn:a:1".toList, "uuid:2".toList, "http://h/".toList, 18446744073709551615) ∧
    s.locator.cache.registry ⟨"urn:a:1".toList, "uuid:1".toList⟩ = none ∧
    s.locator.cache.registry ⟨"URN:A:2".toList, "uuid:1".toList⟩ = none ∧
    s.locator.cache.registry ⟨"urn:b:1".toList, "uuid:1".toList⟩ = none := by
  let start : ControlPoint Unit := { notes := () }
  let c := (start.perform (.script .program lookout)).state
  have hleads : CivilLeads (.fresh () {} {} 0 1) ⟨⟨c, [], [[.script .program .done]]⟩, []⟩ := by
    have h₀ : CivilLeads (.fresh () {} {} 0 1) (.fresh () {} {} 0 1 : Logged Unit) := .refl
    have h₁ := h₀.tail (@CivilMove.ask _ _ _ _ _ [] [] _ (.script lookout))
    exact h₁.tail (@CivilMove.perform _ _ _ _ _ [] [] _ _ trivial)
  have hwired : Wired start.router start.kept := (InOrder.fresh () {} {} 0).wired
  have hslot : c.slots[0]? = some ⟨.built { LocatorConfig.forAll with
      filters := ["urn:A:".toList] } 0, fun _ => .done⟩ := rfl
  have hspares : c.Spares 0 [(responseStartLine, ⟨0⟩), (notifyKey, ⟨1⟩)] := by
    have hstart : start.Spares 0 [(responseStartLine, ⟨0⟩), (notifyKey, ⟨1⟩)] :=
      ⟨fun key s hs => (List.not_mem_nil hs).elim, fun place s hs => by simp [start] at hs⟩
    exact hstart.perform hwired ⟨fun _ => trivial, fun _ => trivial⟩
  have hquiet : c.Quiet := by
    have hstart : start.Quiet :=
      ⟨hwired, fun key s hs => (List.not_mem_nil hs).elim, fun place s hs => by simp [start] at hs⟩
    exact hstart.perform ⟨fun _ => trivial, fun _ => trivial⟩
  obtain ⟨hdone, hends⟩ := registry_of_received hleads hslot rfl hspares
    (comingAndGoing.map Announcement.notice)
  obtain ⟨n, -, hworks⟩ := hends hquiet c [] _ .start
  obtain ⟨s, hs, -, hkeys, hregistry⟩ := hdone _ _ hworks
  refine ⟨c, _, _, s, hworks, hs, hkeys, ?_⟩
  rw [hregistry]
  decide +kernel

end Ssdp
