import Ssdp.Proofs.Locator.Reaction
import Ssdp.ControlPoint.Basic

/-!
# A locator by itself

What a locator makes of what it meets with, if nothing else happens until all that follows
is done: an operation, with the search that it may start, or a message on its way to
everyone. This depends on the locator and the time alone, and not on its numbers at the
router.

* `Locator.tells`, `Locator.meet`, `Locator.hear`: the events that are told, and what is
  made of an operation and of a message;
* `Locator.bare`: the locator without its numbers;
* `Locator.meet_bare`, `Locator.hear_bare`: its numbers make no difference.
-/

namespace Ssdp.Locator

/-- The events of which the owner is told: none, once the locator is disposed. -/
def tells (l : Locator) (events : List Event) : List Event :=
  if l.disposed then [] else events

/-- The owner is told of all events that follow from an operation by itself. -/
theorem tells_react [UrlParser] (l : Locator) (clock : Conditions) (op : Operation) :
    (l.react clock op).1.tells (l.react clock op).2 = (l.react clock op).2 := by
  rw [tells]
  split
  · rename_i hd
    exact (react_snd_of_disposed hd).symm
  · rfl

/-- The locator once it is swept, and the losses of which the owner is told. -/
def search (l : Locator) (clock : Conditions) : Locator × List Event :=
  ((l.sweep clock).1, l.tells (l.sweep clock).2)

/-- The locator once it has been operated and all that follows is done, and what its owner
is told. -/
def meet [UrlParser] (l : Locator) (clock : Conditions) (op : Operation) : Locator × List Event :=
  if l.dropped then (l, [])
  else
    match op with
    | .searchNow => if l.disposed then (l, []) else l.search clock
    | .tick => if l.disposed || !l.listening then (l, []) else l.search clock
    | op => l.react clock op

/-- The locator once a message for everyone has been dispatched, and what its owner is
told. -/
def hear [UrlParser] (l : Locator) (clock : Conditions) (e : Received) : Locator × List Event :=
  if l.disposed then (l, [])
  else if e.routeKey = responseStartLine then l.meet clock (.answer e)
  else if e.routeKey = notifyKey then l.meet clock (.announcement e)
  else (l, [])

/-- The locator without its numbers at the router. -/
def bare (l : Locator) : Locator :=
  { l with subscriptions := [] }

@[simp] theorem config_bare (l : Locator) : l.bare.config = l.config := rfl

@[simp] theorem disposed_bare (l : Locator) : l.bare.disposed = l.disposed := rfl

@[simp] theorem dropped_bare (l : Locator) : l.bare.dropped = l.dropped := rfl

@[simp] theorem listening_bare (l : Locator) : l.bare.listening = l.listening := rfl

theorem heed_bare (l : Locator) (order : VisitOrder) (v : Verdict) :
    l.bare.heed order v = ((l.heed order v).1.bare, (l.heed order v).2) := by
  cases v with
  | ignore => rfl
  | refresh d =>
    simp only [heed, refresh, bare]
    split <;> simp [*]
  | farewell usn => rfl

theorem react_bare [UrlParser] (l : Locator) (clock : Conditions) (op : Operation) :
    l.bare.react clock op = ((l.react clock op).1.bare, (l.react clock op).2) := by
  cases op with
  | start => by_cases h : (!l.config.activeSearch || l.disposed) = true <;> simp [react, h, bare]
  | answer e => exact heed_bare l _ _
  | announcement e => exact heed_bare l _ _
  | _ => rfl

theorem search_bare (l : Locator) (clock : Conditions) :
    l.bare.search clock = ((l.search clock).1.bare, (l.search clock).2) := rfl

/-- What is made of an operation does not depend on the numbers. -/
theorem meet_bare [UrlParser] (l : Locator) (clock : Conditions) (op : Operation) :
    l.bare.meet clock op = ((l.meet clock op).1.bare, (l.meet clock op).2) := by
  by_cases hdropped : l.dropped = true
  · simp [meet, hdropped]
  · cases op with
    | searchNow =>
      by_cases hd : l.disposed = true <;> simp [meet, hdropped, hd, search_bare]
    | tick =>
      by_cases hidle : (l.disposed || !l.listening) = true <;>
        simp [meet, hdropped, hidle, search_bare]
    | _ => simp [meet, hdropped, react_bare]

/-- What is made of a message does not depend on the numbers. -/
theorem hear_bare [UrlParser] (l : Locator) (clock : Conditions) (e : Received) :
    l.bare.hear clock e = ((l.hear clock e).1.bare, (l.hear clock e).2) := by
  by_cases hd : l.disposed = true
  · simp [hear, hd]
  · by_cases hanswer : e.routeKey = responseStartLine
    · simp [hear, hd, hanswer, meet_bare]
    · simp only [hear, disposed_bare, if_neg hd, if_neg hanswer, meet_bare]
      split <;> rfl

end Ssdp.Locator
