import Ssdp.Text.Basic

/-!
# The router

Handlers are subscribed under a key and invoked for messages of that key in the
order of their subscription. Every subscription has a number of its own, which
is never given again; a key without subscriptions is not kept.

* `Router.subscribe`, `Router.unsubscribe`: change the subscriptions of a key;
* `Router.subscriptions`: the subscriptions of a key, in order.
-/

namespace Ssdp

/-- The number of a subscription. -/
structure HandlerId where
  number : Nat
deriving DecidableEq, Repr

/-- A handler with its number. -/
structure Subscription (H : Type) where
  id : HandlerId
  handler : H

/-- The subscriptions under one key. -/
structure Topic (H : Type) where
  key : Text
  subscriptions : List (Subscription H)

/-- Subscriptions by key, and the number that the next one gets. -/
structure Router (H : Type) where
  nextId : Nat := 0
  topics : List (Topic H) := []

namespace Router

variable {H : Type}

/-- The subscriptions under a key among topics. -/
def lookUp (key : Text) : List (Topic H) → List (Subscription H)
  | [] => []
  | topic :: rest => if topic.key = key then topic.subscriptions else lookUp key rest

/-- The topics with one more subscription at the end of a key's. -/
def append (key : Text) (s : Subscription H) : List (Topic H) → List (Topic H)
  | [] => [⟨key, [s]⟩]
  | topic :: rest =>
    if topic.key = key then { topic with subscriptions := topic.subscriptions ++ [s] } :: rest
    else topic :: append key s rest

/-- The topics with a number taken out of a key's subscriptions, and the key
itself when none is left. -/
def takeOut (key : Text) (id : HandlerId) : List (Topic H) → List (Topic H)
  | [] => []
  | topic :: rest =>
    if topic.key = key then
      match topic.subscriptions.filter (·.id ≠ id) with
      | [] => rest
      | kept => { topic with subscriptions := kept } :: rest
    else topic :: takeOut key id rest

/-- The subscriptions under a key, in order. -/
def subscriptions (r : Router H) (key : Text) : List (Subscription H) :=
  lookUp key r.topics

/-- How many handlers are subscribed under a key. -/
def handlerCount (r : Router H) (key : Text) : Nat :=
  (r.subscriptions key).length

/-- Whether a number is subscribed under a key. -/
def isSubscribed (r : Router H) (key : Text) (id : HandlerId) : Bool :=
  (r.subscriptions key).any (·.id = id)

/-- Subscribes a handler under a key. -/
def subscribe (r : Router H) (key : Text) (handler : H) : Router H × HandlerId :=
  let id : HandlerId := ⟨r.nextId⟩
  ({ nextId := r.nextId + 1, topics := append key ⟨id, handler⟩ r.topics }, id)

/-- Takes a number out of a key's subscriptions, and tells whether it was one of
them. -/
def unsubscribe (r : Router H) (key : Text) (id : HandlerId) : Router H × Bool :=
  if r.isSubscribed key id then ({ r with topics := takeOut key id r.topics }, true)
  else (r, false)

end Router

end Ssdp
