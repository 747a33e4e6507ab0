import Ssdp.Proofs.ControlPoint.Disposal

/-!
# The life of a locator

A locator is built with two subscriptions and without a timer. It gets a timer when
it is started, which it may be any number of times, gives it up when it is stopped,
and gives everything up when it is disposed of. No other operation, no message and no
sweep makes a difference to that.

* `Locator.Coherent`: how its timer, its subscriptions and its flags belong together;
* `Locator.Coherent.undergo`: they do so whatever a task does to it.
-/

namespace Ssdp.Locator

variable {ν : Type}

/-- A locator holds a timer exactly while it is listening, listens only if it searches
and is not disposed, and is subscribed under both keys until it is disposed of. -/
structure Coherent (l : Locator) : Prop where
  timer_eq : l.timer = l.listening
  activeSearch : l.listening = true → l.config.activeSearch = true
  disposed : l.listening = true → l.disposed = false
  keys : l.disposed = false → l.subscriptions.map (·.1) = [responseStartLine, notifyKey]

theorem coherent_built (config : LocatorConfig) (n : Nat) : (built config n).Coherent :=
  ⟨rfl, nofun, nofun, fun _ => rfl⟩

namespace Coherent

variable {l : Locator}

theorem with_cache (h : l.Coherent) (cache : Cache) : Coherent { l with cache } :=
  ⟨h.timer_eq, h.activeSearch, h.disposed, h.keys⟩

theorem heed (h : l.Coherent) (order : VisitOrder) (v : Verdict) :
    (l.heed order v).1.Coherent := by
  obtain ⟨cache, heq⟩ := l.exists_heed order v
  rw [heq]
  exact h.with_cache cache

theorem react [UrlParser] (h : l.Coherent) (clock : Conditions) (op : Operation) :
    (l.react clock op).1.Coherent := by
  have idle {disposed dropped : Bool} {subscriptions : List (Text × HandlerId)}
      (hkeys : disposed = false → subscriptions.map (·.1) = [responseStartLine, notifyKey]) :
      Coherent { l with listening := false, timer := false, disposed, dropped, subscriptions } :=
    ⟨rfl, Bool.noConfusion, Bool.noConfusion, hkeys⟩
  cases op with
  | start =>
    simp only [Locator.react]
    split
    · exact h
    · rename_i hcond
      simp only [Bool.or_eq_true, Bool.not_eq_true', not_or, Bool.not_eq_true,
        Bool.not_eq_false] at hcond
      exact ⟨rfl, fun _ => hcond.1, fun _ => hcond.2, h.keys⟩
  | stop => exact idle h.keys
  | dispose => exact idle Bool.noConfusion
  | drop => exact idle Bool.noConfusion
  | searchNow => exact h
  | tick => exact h
  | answer e => exact h.heed _ _
  | announcement e => exact h.heed _ _

theorem undergo [UrlParser] (h : l.Coherent) (id : LocatorId) (clock : Conditions) (task : Task ν) :
    (l.undergo id clock task).1.Coherent :=
  undergo_cases h (h.react clock) (h.with_cache _) id task

end Coherent

end Ssdp.Locator
