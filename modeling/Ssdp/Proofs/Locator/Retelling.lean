import Ssdp.Proofs.Locator.Solo

/-!
# Losses in another order

Devices that leave or expire together are lost in the order in which the cache is gone
through. What a locator has and does does not depend on that order, and neither does what
its owner is told, but for the order of losses that follow each other.

* `Retold`: the same events, in the same order but for such losses;
* `Locator.SameTold`: the same is made of a locator, and the same is told;
* `Locator.sameTold_meet`, `Locator.sameTold_hear`: so it is for operations and messages at
  the same time.
-/

namespace Ssdp

/-- The same events, in the same order but for losses that follow each other. -/
inductive Retold : List Event → List Event → Prop
  | nil : Retold [] []
  | cons (event : Event) {xs ys : List Event} (h : Retold xs ys) :
    Retold (event :: xs) (event :: ys)
  | swap (d d' : Device) (rest : List Event) :
    Retold (.lost d :: .lost d' :: rest) (.lost d' :: .lost d :: rest)
  | trans {xs ys zs : List Event} (h : Retold xs ys) (h' : Retold ys zs) : Retold xs zs

namespace Retold

variable {xs xs' ys ys' : List Event}

theorem refl : (xs : List Event) → Retold xs xs
  | [] => .nil
  | event :: rest => .cons event (refl rest)

theorem append_right (h : Retold xs ys) (zs : List Event) : Retold (xs ++ zs) (ys ++ zs) := by
  induction h with
  | nil => exact refl zs
  | cons event _ ih => exact .cons event ih
  | swap d d' rest => exact .swap d d' (rest ++ zs)
  | trans _ _ ih ih' => exact ih.trans ih'

theorem append_left (zs : List Event) (h : Retold xs ys) : Retold (zs ++ xs) (zs ++ ys) := by
  induction zs with
  | nil => exact h
  | cons event _ ih => exact .cons event ih

theorem append (h : Retold xs ys) (h' : Retold xs' ys') : Retold (xs ++ xs') (ys ++ ys') :=
  (h.append_right xs').trans (h'.append_left ys)

/-- Losses alone may be told in any order. -/
theorem losses {ds ds' : List Device} (h : ds.Perm ds') :
    Retold (ds.map .lost) (ds'.map .lost) := by
  induction h with
  | nil => exact .nil
  | cons d _ ih => exact .cons _ ih
  | swap d d' rest => exact .swap d' d _
  | trans _ _ ih ih' => exact ih.trans ih'

end Retold

namespace Locator

/-- The same becomes of a locator, and its owner is told the same. -/
structure SameTold (made made' : Locator × List Event) : Prop where
  locator : made.1 = made'.1
  events : Retold made.2 made'.2

theorem SameTold.refl (made : Locator × List Event) : SameTold made made :=
  ⟨rfl, .refl _⟩

variable {clock clock' : Conditions}

theorem sameTold_lose (l : Locator) (order order' : VisitOrder) (taken : Cache × List Device) :
    SameTold (l.lose order taken) (l.lose order' taken) :=
  ⟨rfl, .losses ((order.arrange_perm _).trans (order'.arrange_perm _).symm)⟩

theorem sameTold_heed (l : Locator) (order order' : VisitOrder) (v : Verdict) :
    SameTold (l.heed order v) (l.heed order' v) := by
  cases v with
  | farewell usn => exact l.sameTold_lose order order' _
  | _ => exact .refl _

theorem sameTold_react [UrlParser] (h : clock.toClock = clock'.toClock) (l : Locator)
    (op : Operation) : SameTold (l.react clock op) (l.react clock' op) := by
  have hstamp : clock.stamp = clock'.stamp := congrArg Clock.stamp h
  cases op with
  | answer e =>
    simp only [react, hstamp]
    exact l.sameTold_heed _ _ _
  | announcement e =>
    simp only [react, hstamp]
    exact l.sameTold_heed _ _ _
  | _ => exact .refl _

/-- Whether the locator is disposed decides if its owner is told at all. -/
theorem SameTold.tells {made made' : Locator × List Event} (h : SameTold made made')
    (l : Locator) : SameTold (made.1, l.tells made.2) (made'.1, l.tells made'.2) := by
  refine ⟨h.locator, ?_⟩
  simp only [Locator.tells]
  split
  · exact .nil
  · exact h.events

theorem sameTold_search (h : clock.toClock = clock'.toClock) (l : Locator) :
    SameTold (l.search clock) (l.search clock') := by
  have hsweep : clock.sweep = clock'.sweep := congrArg Clock.sweep h
  have hlost := l.sameTold_lose clock.order clock'.order (l.cache.sweepAt clock.sweep)
  simp only [search, sweep, ← hsweep]
  exact hlost.tells l

/-- The same is made of an operation, in whichever order losses are told. -/
theorem sameTold_meet [UrlParser] (h : clock.toClock = clock'.toClock) (l : Locator)
    (op : Operation) : SameTold (l.meet clock op) (l.meet clock' op) := by
  simp only [meet]
  split
  · exact .refl _
  cases op with
  | searchNow =>
    dsimp only
    split
    · exact .refl _
    · exact sameTold_search h l
  | tick =>
    dsimp only
    split
    · exact .refl _
    · exact sameTold_search h l
  | _ => exact sameTold_react h l _

/-- The same is made of a message. -/
theorem sameTold_hear [UrlParser] (h : clock.toClock = clock'.toClock) (l : Locator)
    (e : Received) : SameTold (l.hear clock e) (l.hear clock' e) := by
  simp only [hear]
  split
  · exact .refl _
  split
  · exact sameTold_meet h l _
  split
  · exact sameTold_meet h l _
  · exact .refl _

end Locator

end Ssdp
