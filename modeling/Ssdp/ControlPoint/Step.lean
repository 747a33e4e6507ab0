import Ssdp.ControlPoint.Basic
import Ssdp.Message.Search

/-!
# Steps of a control point

The work at hand is an agenda of tasks. A task is performed at once, changes
the state, shows entries to an observer, and leaves tasks to be done before the
rest of the agenda; so a call in the middle of another is on the agenda above
what its caller has still to do. A dispatch puts the handlers subscribed at its
start on the agenda, whatever becomes of the subscriptions meanwhile. Devices
that leave together are reported in the order in which the cache is gone through.

* `Task`: what can be on the agenda;
* `Outcome`, `Caller.catching`: what a step leads to, and where panics are caught;
* `ControlPoint.perform`: one step.
-/

namespace Ssdp

/-- Whose script is running: a subscriber's, called with a message; the owner's
of a locator; or that of the program outside. -/
inductive Caller where
  | subscriber (e : Received)
  | owner (id : LocatorId)
  | program
deriving DecidableEq

/-- Why a device is lost. -/
inductive LossCause where
  | left
  | expired
deriving DecidableEq, Repr

/-- What a loss puts on record. -/
def LossCause.record (cause : LossCause) (d : Device) : LogRecord :=
  match cause with
  | .left => .deviceLeft d.usn d.notificationType
  | .expired => .deviceExpired d.usn d.notificationType

/-- A piece of work: to go on with a script, to dispatch a message, to take a reply
to a search, to invoke a handler of a dispatch, to operate a locator, to sweep
and search, to report a device lost, to tell the owner of an event, to send a
search, or to put something on record. -/
inductive Task (ν : Type) where
  | script (caller : Caller) (body : Script ν)
  | deliver (e : Received)
  | take (reply : Reply)
  | invoke (handler : Subscription (Subscriber ν)) (e : Received)
  | operate (id : LocatorId) (op : Operation)
  | search (id : LocatorId)
  | lose (id : LocatorId) (cause : LossCause) (device : Device)
  | emit (id : LocatorId) (event : Event)
  | broadcast (id : LocatorId)
  | log (record : LogRecord)

/-- What a step leads to: the state after it, the tasks to be done next, what it
showed, and whether it ended in a panic. -/
structure Outcome (ν : Type) where
  state : ControlPoint ν
  todo : List (Task ν) := []
  journal : List Entry := []
  panic : Option PanicReason := none

namespace Caller

/-- What is put on record where a panic is caught: in a dispatch the key and the
sender of the message, in telling an owner no more than that. Nobody catches a
panic of the program outside. -/
def caught? (caller : Caller) (reason : PanicReason) : Option LogRecord :=
  match caller with
  | subscriber e => some (.handlerPanicked e.routeKey e.sender reason)
  | owner _ => some .ownerPanicked
  | program => none

/-- The panic, if nobody catches it. -/
def uncaught? (caller : Caller) (reason : PanicReason) : Option PanicReason :=
  if (caller.caught? reason).isSome then none else some reason

/-- What code leads to, as seen from where it was called: a panic goes no further if
it is caught, and is put on record. -/
def catching {ν : Type} (caller : Caller) (o : Outcome ν) : Outcome ν :=
  { o with
    journal := (o.panic.bind caller.caught?).toList.map .logged ++ o.journal
    panic := o.panic.bind caller.uncaught? }

@[simp] theorem state_catching {ν : Type} (caller : Caller) (o : Outcome ν) :
    (caller.catching o).state = o.state := rfl

@[simp] theorem todo_catching {ν : Type} (caller : Caller) (o : Outcome ν) :
    (caller.catching o).todo = o.todo := rfl

/-- Where there is no panic, there is nothing to catch. -/
theorem catching_of_panic_none {ν : Type} (caller : Caller) {o : Outcome ν}
    (h : o.panic = none) : caller.catching o = o := by
  obtain ⟨state, todo, journal, panic⟩ := o
  obtain rfl : panic = none := h
  rfl

end Caller

namespace ControlPoint

variable [UrlParser] {ν : Type}

/-- The tasks of a dispatch: one for each handler subscribed at present. -/
def dispatchTasks (c : ControlPoint ν) (e : Received) : List (Task ν) :=
  (c.router.subscriptions e.routeKey).map (.invoke · e)

/-- The next request of a script. -/
def performScript (c : ControlPoint ν) (caller : Caller) : Script ν → Outcome ν
  | .done => { state := c }
  | .panic reason => { state := c, panic := some reason }
  | .note change next =>
    let notes := change c.notes
    { state := { c with notes }, todo := [.script caller (next notes)] }
  | .read datagram next =>
    match Message.read? datagram with
    | .ok reading =>
      { state := c
        todo := [.script caller (next (.ok reading.message))]
        journal := reading.skipped.map fun line => .logged (.skippedLine line) }
    | .error error => { state := c, todo := [.script caller (next (.error error))] }
  | .subscribe key handler next =>
    let (router, id) := c.router.subscribe key (.code handler)
    { state := { c with router }, todo := [.script caller (next id)] }
  | .unsubscribe key id next =>
    let (router, removed) := c.router.unsubscribe key id
    { state := { c with router }, todo := [.script caller (next removed)] }
  | .countHandlers key next =>
    { state := c, todo := [.script caller (next (c.router.handlerCount key))] }
  | .dispatch e next =>
    let calls := c.dispatchTasks e
    { state := c, todo := calls ++ [.script caller (next calls.length)] }
  | .build config owner next =>
    let (state, result) := c.build config owner
    { state, todo := [.script caller (next result)] }
  | .operate id op next => { state := c, todo := [.operate id op, .script caller next] }
  | .look id next =>
    let shown := ((c.locator? id).filter (!·.dropped)).map (·.inOrder c.clock.order)
    { state := c, todo := [.script caller (next shown)] }

/-- What a verdict on a message leads to in a locator. -/
def carryOut (c : ControlPoint ν) (id : LocatorId) (l : Locator) :
    Verdict × List LogRecord → Outcome ν
  | (.ignore, records) => { state := c, journal := records.map .logged }
  | (.refresh d, records) =>
    let (l, event) := l.refresh d
    { state := c.modifyLocator id fun _ => l
      todo := [.emit id event]
      journal := (records ++ event.records).map .logged }
  | (.farewell usn, records) =>
    let (cache, lost) := l.cache.remove usn
    { state := c.modifyCache id fun _ => cache
      todo := (c.clock.order.arrange lost).map (.lose id .left ·)
      journal := records.map .logged }

/-- Starts a locator, unless it does not search or is disposed: it listens to
answers from then on, and gets a timer if it has none. -/
def start (c : ControlPoint ν) (id : LocatorId) (l : Locator) : Outcome ν :=
  if !l.config.activeSearch || l.disposed then { state := c }
  else
    { state := c.modifyLocator id fun l => { l with listening := true, timer := true }
      journal := if l.timer then [] else [.logged (.locatorStarted l.config.interval)] }

/-- Stops a locator: it listens to answers no more and gives up its timer. -/
def stop (c : ControlPoint ν) (id : LocatorId) : Outcome ν :=
  { state := c.modifyLocator id fun l => { l with listening := false, timer := false } }

/-- Disposes of a locator: its subscriptions are taken out of the router, and it
ignores everything from then on. -/
def dispose (c : ControlPoint ν) (id : LocatorId) (l : Locator) : Outcome ν :=
  let c' := c.modifyLocator id fun l =>
    { l with disposed := true, listening := false, timer := false, subscriptions := [] }
  { state := { c' with router := unsubscribeAll c.router l.subscriptions }
    journal := if l.timer then [.logged .locatorDisposing] else [] }

/-- Operates a locator that is there. -/
def operate (c : ControlPoint ν) (id : LocatorId) (l : Locator) : Operation → Outcome ν
  | .start => c.start id l
  | .stop => c.stop id
  | .dispose => c.dispose id l
  | .drop =>
    let o := c.dispose id l
    { o with state := o.state.modifyLocator id fun l => { l with dropped := true } }
  | .searchNow => { state := c, todo := if l.disposed then [] else [.search id] }
  | .tick => { state := c, todo := if l.disposed || !l.listening then [] else [.search id] }
  | .answer e => c.carryOut id l (l.judgeAnswer c.clock.stamp e)
  | .announcement e =>
    c.carryOut id l (l.judgeAnnouncement (c.link.traces e.localAddress) c.clock.stamp e)

/-- Invokes a handler of a dispatch. -/
def invoke (c : ControlPoint ν) (e : Received) : Subscriber ν → Outcome ν
  | .answers id => { state := c, todo := [.operate id (.answer e)] }
  | .announcements id => { state := c, todo := [.operate id (.announcement e)] }
  | .code handler => { state := c, todo := [.script (.subscriber e) (handler e)] }

/-- Sweeps the cache of a locator; the losses are reported one by one before the
search is sent. -/
def search (c : ControlPoint ν) (id : LocatorId) (l : Locator) : Outcome ν :=
  let (cache, expired) := l.cache.sweepAt c.clock.sweep
  { state := c.modifyCache id fun _ => cache
    todo := (c.clock.order.arrange expired).map (.lose id .expired ·) ++ [.broadcast id] }

/-- Takes a reply: the header lines passed over are put on record, and the message
is dispatched. What is no message is dropped. -/
def take (c : ControlPoint ν) (reply : Reply) : Outcome ν :=
  match reply.read? with
  | some (e, skipped) =>
    { state := c
      todo := [.deliver e]
      journal := skipped.map fun line => .logged (.skippedLine line) }
  | none => { state := c }

/-- Sends the search of a locator; the replies are taken one after the other before
the send is over. -/
def broadcast (c : ControlPoint ν) (id : LocatorId) (l : Locator) : Outcome ν :=
  let state := { c with attempts := c.attempts + 1 }
  if c.link.works c.attempts then
    { state
      todo := c.link.replies.map .take ++ [.log (.searchSent c.link.interfaces)]
      journal := [.sent id (searchRequest l.config.searchWait)] }
  else { state, journal := [.logged (.searchFailed .noInterfaceSent)] }

/-- What is done with the locator in a place, or nothing if there is none. -/
def withLocator (c : ControlPoint ν) (id : LocatorId) (f : Locator → Outcome ν) : Outcome ν :=
  match c.locator? id with
  | some l => f l
  | none => { state := c }

/-- Performs a task. -/
def perform (c : ControlPoint ν) : Task ν → Outcome ν
  | .script caller body => caller.catching (c.performScript caller body)
  | .deliver e => { state := c, todo := c.dispatchTasks e }
  | .take reply => c.take reply
  | .invoke s e =>
    let o := c.invoke e s.handler
    { o with journal := .invoked s.id e :: o.journal }
  | .operate id op =>
    c.withLocator id fun l => if l.dropped then { state := c } else c.operate id l op
  | .search id => c.withLocator id fun l => c.search id l
  | .lose id cause d =>
    { state := c, todo := [.emit id (.lost d)], journal := [.logged (cause.record d)] }
  | .emit id event =>
    match c.slots[id]? with
    | some s =>
      if s.locator.disposed then { state := c }
      else
        { state := c
          todo := [.script (.owner id) (s.owner event)]
          journal := [.emitted id event] }
    | none => { state := c }
  | .broadcast id => c.withLocator id fun l => c.broadcast id l
  | .log record => { state := c, journal := [.logged record] }

end ControlPoint

end Ssdp
