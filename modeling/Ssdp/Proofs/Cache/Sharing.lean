import Ssdp.Proofs.Cache

/-!
# A cache that several threads call

Every call of a cache is carried out as a whole before the next one, whichever thread
makes it; a thread chooses its next call by the answers it had. Between calls the
entries may change places, as in a table that is hashed.

* `CacheCall`, `Cache.ask`: the calls of a cache, and what they do;
* `CacheClient`: a thread of calls;
* `Shared`: where the calls of several threads lead, with what was asked and answered;
* `Shared.sound`: the cache is sound at any time.
-/

namespace Ssdp

/-- A call of a cache, by the type of its answer. -/
inductive CacheCall : Type → Type where
  | addOrUpdate (d : Device) : CacheCall Bool
  | replace (d : Device) : CacheCall (Option Device)
  | remove (usn : Text) : CacheCall (List Device)
  | sweep (now : Instant) : CacheCall (List Device)
  | find (notificationType usn : Text) : CacheCall (Option Device)
  | findAll (usn : Text) : CacheCall (List Device)
  | devices : CacheCall (List Device)
  | size : CacheCall Nat
  | isEmpty : CacheCall Bool

/-- The cache after a call, and the answer. -/
def Cache.ask {α : Type} (c : Cache) : CacheCall α → Cache × α
  | .addOrUpdate d => c.addOrUpdate d
  | .replace d => c.replace d
  | .remove usn => c.remove usn
  | .sweep now => c.sweepAt now
  | .find notificationType usn => (c, c.find? notificationType usn)
  | .findAll usn => (c, c.findAll usn)
  | .devices => (c, c.devices)
  | .size => (c, c.size)
  | .isEmpty => (c, c.isEmpty)

/-- A thread that calls a cache and goes on by the answer. -/
inductive CacheClient : Type 1 where
  | done
  | ask {α : Type} (call : CacheCall α) (next : α → CacheClient)

/-- A call that was carried out, with the cache it found and the answer. -/
structure Exchange where
  before : Cache
  {α : Type}
  call : CacheCall α
  answer : α

/-- Where the calls of threads lead from an empty cache, in any order that keeps that of
each thread, and what they have left to do. -/
inductive Shared (clients : List CacheClient) : Cache → List Exchange → List CacheClient → Prop
  | fresh : Shared clients {} [] clients
  | ask {c : Cache} {log : List Exchange} {before after : List CacheClient} {α : Type}
    {call : CacheCall α} {next : α → CacheClient} :
    Shared clients c log (before ++ .ask call next :: after) →
    Shared clients (c.ask call).1 (log ++ [⟨c, call, (c.ask call).2⟩])
      (before ++ next (c.ask call).2 :: after)
  | shuffle {c c' : Cache} {log : List Exchange} {left : List CacheClient} :
    Shared clients c log left → c.entries.Perm c'.entries → Shared clients c' log left

theorem Cache.Sound.ask {α : Type} {c : Cache} (h : c.Sound) (call : CacheCall α) :
    (c.ask call).1.Sound := by
  cases call with
  | addOrUpdate d => exact h.replace d
  | replace d => exact h.replace d
  | remove usn => exact h.takeOut _
  | sweep now => exact h.takeOut _
  | _ => exact h

theorem Shared.sound {clients left : List CacheClient} {c : Cache} {log : List Exchange}
    (h : Shared clients c log left) : c.Sound := by
  induction h with
  | fresh => exact Cache.sound_empty
  | ask _ ih => exact ih.ask _
  | shuffle _ hp ih => exact ih.perm hp

end Ssdp
