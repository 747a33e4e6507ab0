import Ssdp.Router

/-!
# Subscriptions of a router

A router that is changed only through its operations keeps no key twice and
gives every subscription a number that it gives no more (`Router.Sound`). Its
operations are then operations on the lists of subscriptions, one for each key:

* `subscriptions_subscribe`: a new subscription goes to the end of its key's;
* `Sound.subscriptions_unsubscribe`: a number is taken out of its key's, and the
  others stay in order;
* `Sound.subscribe`, `Sound.unsubscribe`: the router stays sound;
* `Distinct`: no number stands twice under a key;
* `Tidy`: no key is kept without subscriptions, and no number stands twice in the whole
  table; where it is so, `Tidy.unsubscribe_eq` says all that taking a number out does;
* `Router.map`: other handlers in the places of those subscribed, which no operation of a
  router notices.
-/

namespace Ssdp.Router

variable {H : Type}

/-- No key is kept twice, and the numbers in use are below the next one. -/
structure Sound (r : Router H) : Prop where
  distinct : (r.topics.map (·.key)).Nodup
  ids_lt : ∀ key s, s ∈ r.subscriptions key → s.id.number < r.nextId

theorem sound_empty : Sound ({} : Router H) :=
  ⟨List.nodup_nil, fun _ _ h => (List.not_mem_nil h).elim⟩

/-! ## Subscribing -/

section Append

variable {key k : Text} {s : Subscription H} {topics : List (Topic H)}

theorem lookUp_append : lookUp k (append key s topics) =
    if k = key then lookUp k topics ++ [s] else lookUp k topics := by
  induction topics with
  | nil =>
    by_cases h : k = key
    · simp [append, lookUp, h]
    · simp [append, lookUp, h, Ne.symm h]
  | cons topic rest ih =>
    by_cases ht : topic.key = key
    · by_cases h : k = key
      · simp [append, lookUp, ht, h]
      · simp [append, lookUp, ht, h, Ne.symm h]
    · simp only [append, ht, if_false, lookUp, ih]
      by_cases h : topic.key = k
      · have hk : k ≠ key := fun hk => ht (h.trans hk)
        simp [h, hk]
      · simp [h]

theorem keys_append : (append key s topics).map (·.key) =
    if key ∈ topics.map (·.key) then topics.map (·.key) else topics.map (·.key) ++ [key] := by
  induction topics with
  | nil => rfl
  | cons topic rest ih =>
    by_cases ht : topic.key = key
    · simp [append, ht]
    · simp only [append, ht, if_false, List.map_cons, ih, List.mem_cons, Ne.symm ht, false_or]
      split <;> rfl

end Append

theorem subscriptions_subscribe (r : Router H) (key : Text) (handler : H) (k : Text) :
    (r.subscribe key handler).1.subscriptions k =
      if k = key then r.subscriptions k ++ [⟨⟨r.nextId⟩, handler⟩] else r.subscriptions k :=
  lookUp_append

theorem mem_subscriptions_subscribe {r : Router H} {key k : Text} {handler : H}
    {s : Subscription H} (h : s ∈ (r.subscribe key handler).1.subscriptions k) :
    s ∈ r.subscriptions k ∨ k = key ∧ s = ⟨⟨r.nextId⟩, handler⟩ := by
  rw [subscriptions_subscribe] at h
  split at h
  · rename_i hk
    rcases List.mem_append.1 h with h | h
    · exact .inl h
    · exact .inr ⟨hk, List.mem_singleton.1 h⟩
  · exact .inl h

theorem Sound.subscribe {r : Router H} (h : r.Sound) (key : Text) (handler : H) :
    (r.subscribe key handler).1.Sound where
  distinct := by
    show ((append key _ r.topics).map (·.key)).Nodup
    rw [keys_append]
    split
    · exact h.distinct
    · rename_i hk
      refine List.nodup_append.2 ⟨h.distinct, by simp, fun a ha b hb => ?_⟩
      rintro rfl
      exact hk (List.mem_singleton.1 hb ▸ ha)
  ids_lt k s hs := by
    rcases mem_subscriptions_subscribe hs with hs | ⟨-, rfl⟩
    · exact Nat.lt_succ_of_lt (h.ids_lt k s hs)
    · exact Nat.lt_succ_self _

/-! ## Unsubscribing -/

section TakeOut

variable {key k : Text} {id : HandlerId} {topics : List (Topic H)}

theorem keys_takeOut_sublist :
    ((takeOut key id topics).map (·.key)).Sublist (topics.map (·.key)) := by
  induction topics with
  | nil => exact .refl _
  | cons topic rest ih =>
    simp only [takeOut]
    split
    · split
      · exact List.sublist_cons_self _ _
      · exact .refl _
    · exact ih.cons_cons _

theorem lookUp_eq_nil (h : k ∉ topics.map (·.key)) : lookUp k topics = [] := by
  induction topics with
  | nil => rfl
  | cons topic rest ih =>
    simp only [List.map_cons, List.mem_cons, not_or] at h
    rw [lookUp, if_neg (Ne.symm h.1), ih h.2]

/-- Where keys are distinct, a key that is left without subscriptions has none
elsewhere. -/
theorem lookUp_takeOut (hd : (topics.map (·.key)).Nodup) : lookUp k (takeOut key id topics) =
    if k = key then (lookUp k topics).filter (·.id ≠ id) else lookUp k topics := by
  induction topics with
  | nil => simp [takeOut, lookUp]
  | cons topic rest ih =>
    obtain ⟨hnot, hd⟩ := List.nodup_cons.1 hd
    by_cases ht : topic.key = key
    · by_cases hk : k = key
      · subst hk
        have hrest : lookUp k rest = [] := lookUp_eq_nil (ht ▸ hnot)
        simp only [takeOut, ht, if_true, lookUp]
        split
        · rename_i hnil
          rw [hrest, hnil]
        · rename_i kept hkept
          simp [lookUp]
      · have hne : topic.key ≠ k := fun h => hk (h.symm.trans ht)
        simp only [takeOut, ht, if_true, hk, if_false, lookUp]
        split
        · rw [if_neg (Ne.symm hk)]
        · rw [lookUp, if_neg (Ne.symm hk), if_neg (Ne.symm hk)]
    · simp only [takeOut, ht, if_false, lookUp, ih hd]
      by_cases hk : topic.key = k
      · have hne : k ≠ key := fun h => ht (hk.trans h)
        simp [hk, hne]
      · simp [hk]

end TakeOut

theorem isSubscribed_iff {r : Router H} {key : Text} {id : HandlerId} :
    r.isSubscribed key id = true ↔ ∃ s ∈ r.subscriptions key, s.id = id := by
  simp [isSubscribed]

theorem Sound.subscriptions_unsubscribe {r : Router H} (h : r.Sound) (key : Text)
    (id : HandlerId) (k : Text) : (r.unsubscribe key id).1.subscriptions k =
      if k = key then (r.subscriptions k).filter (·.id ≠ id) else r.subscriptions k := by
  cases hs : r.isSubscribed key id with
  | true =>
    rw [Router.unsubscribe, if_pos hs]
    exact lookUp_takeOut h.distinct
  | false =>
    rw [Router.unsubscribe, if_neg (by simp [hs])]
    split
    · rename_i hk
      subst hk
      refine (List.filter_eq_self.2 fun s hmem => ?_).symm
      have hne : s.id ≠ id := fun heq => by
        rw [isSubscribed_iff.2 ⟨s, hmem, heq⟩] at hs
        cases hs
      simpa using hne
    · rfl

theorem nextId_unsubscribe (r : Router H) (key : Text) (id : HandlerId) :
    (r.unsubscribe key id).1.nextId = r.nextId := by
  unfold unsubscribe
  split <;> rfl

theorem Sound.mem_of_unsubscribe {r : Router H} (h : r.Sound) {key k : Text} {id : HandlerId}
    {s : Subscription H} (hs : s ∈ (r.unsubscribe key id).1.subscriptions k) :
    s ∈ r.subscriptions k := by
  rw [h.subscriptions_unsubscribe] at hs
  split at hs
  · exact (List.mem_filter.1 hs).1
  · exact hs

theorem Sound.unsubscribe {r : Router H} (h : r.Sound) (key : Text) (id : HandlerId) :
    (r.unsubscribe key id).1.Sound where
  distinct := by
    unfold Router.unsubscribe
    split
    · exact h.distinct.sublist keys_takeOut_sublist
    · exact h.distinct
  ids_lt k s hs := by
    rw [nextId_unsubscribe]
    exact h.ids_lt k s (h.mem_of_unsubscribe hs)

/-! ## Distinct numbers -/

/-- No number stands twice under a key. -/
def Distinct (r : Router H) : Prop :=
  ∀ key, ((r.subscriptions key).map (·.id)).Nodup

/-- A number that is not given yet is not in use. -/
theorem Sound.id_ne {r : Router H} (h : r.Sound) {key : Text} {s : Subscription H}
    (hs : s ∈ r.subscriptions key) {id : HandlerId} (hid : r.nextId ≤ id.number) : s.id ≠ id := by
  rintro rfl
  exact Nat.lt_irrefl _ (Nat.lt_of_lt_of_le (h.ids_lt key s hs) hid)

theorem Distinct.subscribe {r : Router H} (hr : r.Distinct) (h : r.Sound) (key : Text)
    (handler : H) : (r.subscribe key handler).1.Distinct := by
  intro k
  rw [subscriptions_subscribe]
  split
  · rw [List.map_append, List.map_singleton]
    refine List.nodup_append.2 ⟨hr k, by simp, fun a ha b hb => ?_⟩
    obtain ⟨s, hs, rfl⟩ := List.mem_map.1 ha
    rw [List.mem_singleton.1 hb]
    exact h.id_ne hs (Nat.le_refl _)
  · exact hr k

theorem Distinct.unsubscribe {r : Router H} (hr : r.Distinct) (h : r.Sound) (key : Text)
    (id : HandlerId) : (r.unsubscribe key id).1.Distinct := by
  intro k
  rw [h.subscriptions_unsubscribe]
  split
  · exact (hr k).sublist (List.filter_sublist.map _)
  · exact hr k

/-! ## The whole table -/

/-- The numbers in use under some topics. -/
def idsOf (topics : List (Topic H)) : List HandlerId :=
  topics.flatMap fun topic => topic.subscriptions.map (·.id)

/-- All numbers in use. -/
def ids (r : Router H) : List HandlerId :=
  idsOf r.topics

/-- No key is kept without subscriptions, no number stands twice in the whole table, and
all of them are below the next one. -/
structure Tidy (r : Router H) : Prop where
  filled : ∀ topic ∈ r.topics, topic.subscriptions ≠ []
  unique : r.ids.Nodup
  ids_lt : ∀ id ∈ r.ids, id.number < r.nextId

theorem tidy_empty : Tidy ({} : Router H) :=
  ⟨nofun, List.nodup_nil, nofun⟩

section Table

variable {key : Text} {s : Subscription H} {id : HandlerId} {topics : List (Topic H)}

theorem idsOf_cons (topic : Topic H) (rest : List (Topic H)) :
    idsOf (topic :: rest) = topic.subscriptions.map (·.id) ++ idsOf rest := rfl

theorem idsOf_append_perm : (idsOf (append key s topics)).Perm (s.id :: idsOf topics) := by
  induction topics with
  | nil => exact .refl _
  | cons topic rest ih =>
    rw [append]
    split
    · rw [idsOf_cons, idsOf_cons, List.map_append, List.append_assoc]
      exact List.perm_middle
    · rw [idsOf_cons, idsOf_cons]
      exact (ih.append_left _).trans List.perm_middle

theorem filled_append (h : ∀ topic ∈ topics, topic.subscriptions ≠ []) :
    ∀ topic ∈ append key s topics, topic.subscriptions ≠ [] := by
  induction topics with
  | nil => exact List.forall_mem_singleton.2 (List.cons_ne_nil _ _)
  | cons topic rest ih =>
    obtain ⟨htopic, hrest⟩ := List.forall_mem_cons.1 h
    rw [append]
    split
    · exact List.forall_mem_cons.2 ⟨List.append_ne_nil_of_left_ne_nil htopic _, hrest⟩
    · exact List.forall_mem_cons.2 ⟨htopic, ih hrest⟩

theorem idsOf_takeOut_sublist : (idsOf (takeOut key id topics)).Sublist (idsOf topics) := by
  induction topics with
  | nil => exact .refl _
  | cons topic rest ih =>
    rw [takeOut, idsOf_cons]
    split
    · split
      · exact List.sublist_append_right _ _
      · rw [idsOf_cons]
        exact (List.filter_sublist.map _).append_right _
    · rw [idsOf_cons]
      exact ih.append_left _

theorem filled_takeOut (h : ∀ topic ∈ topics, topic.subscriptions ≠ []) :
    ∀ topic ∈ takeOut key id topics, topic.subscriptions ≠ [] := by
  induction topics with
  | nil => exact h
  | cons topic rest ih =>
    obtain ⟨htopic, hrest⟩ := List.forall_mem_cons.1 h
    rw [takeOut]
    split
    · split
      · exact hrest
      · rename_i hne
        exact List.forall_mem_cons.2 ⟨hne, hrest⟩
    · exact List.forall_mem_cons.2 ⟨htopic, ih hrest⟩

/-- Taking out a number that is not there leaves all topics as they are: none of them can
get lost for want of subscriptions. -/
theorem takeOut_eq_self (h : ∀ topic ∈ topics, topic.subscriptions ≠ [])
    (hnot : ∀ s ∈ lookUp key topics, s.id ≠ id) : takeOut key id topics = topics := by
  induction topics with
  | nil => rfl
  | cons topic rest ih =>
    obtain ⟨htopic, hrest⟩ := List.forall_mem_cons.1 h
    rw [lookUp] at hnot
    rw [takeOut]
    split
    · rename_i hkey
      rw [if_pos hkey] at hnot
      have hall : topic.subscriptions.filter (·.id ≠ id) = topic.subscriptions :=
        List.filter_eq_self.2 fun s hs => decide_eq_true (hnot s hs)
      rw [hall]
      split
      · rename_i hnil
        exact absurd hnil htopic
      · rfl
    · rename_i hkey
      rw [if_neg hkey] at hnot
      rw [ih hrest hnot]

end Table

namespace Tidy

variable {r : Router H}

theorem subscribe (h : r.Tidy) (key : Text) (handler : H) : (r.subscribe key handler).1.Tidy := by
  have hperm : (r.subscribe key handler).1.ids.Perm (⟨r.nextId⟩ :: r.ids) := idsOf_append_perm
  refine ⟨filled_append h.filled, hperm.nodup_iff.2 (List.nodup_cons.2 ⟨fun hmem => ?_, h.unique⟩),
    fun id hid => ?_⟩
  · exact Nat.lt_irrefl _ (h.ids_lt _ hmem)
  · rcases List.mem_cons.1 (hperm.mem_iff.1 hid) with rfl | hid
    · exact Nat.lt_succ_self _
    · exact Nat.lt_succ_of_lt (h.ids_lt id hid)

theorem unsubscribe (h : r.Tidy) (key : Text) (id : HandlerId) :
    (r.unsubscribe key id).1.Tidy := by
  rw [Router.unsubscribe]
  split
  · exact ⟨filled_takeOut h.filled, h.unique.sublist idsOf_takeOut_sublist,
      fun id' hid => h.ids_lt id' (idsOf_takeOut_sublist.subset hid)⟩
  · exact h

/-- Looking first whether the number is there makes no difference: it is taken out of its
key's subscriptions, if it is among them. -/
theorem unsubscribe_eq (h : r.Tidy) (key : Text) (id : HandlerId) :
    r.unsubscribe key id =
      ({ r with topics := takeOut key id r.topics }, r.isSubscribed key id) := by
  rw [Router.unsubscribe]
  cases hs : r.isSubscribed key id with
  | true => rfl
  | false =>
    have hnot : ∀ s ∈ r.subscriptions key, s.id ≠ id := fun s hmem heq => by
      rw [isSubscribed_iff.2 ⟨s, hmem, heq⟩] at hs
      cases hs
    rw [takeOut_eq_self h.filled hnot]
    rfl

end Tidy

end Ssdp.Router

/-! ## Other handlers -/

namespace Ssdp

variable {H H' : Type}

/-- The subscription with another handler. -/
def Subscription.map (f : H → H') (s : Subscription H) : Subscription H' :=
  ⟨s.id, f s.handler⟩

/-- The topic with other handlers. -/
def Topic.map (f : H → H') (topic : Topic H) : Topic H' :=
  ⟨topic.key, topic.subscriptions.map (·.map f)⟩

@[simp] theorem Topic.key_map (f : H → H') (topic : Topic H) : (topic.map f).key = topic.key := rfl

@[simp] theorem Topic.subscriptions_map (f : H → H') (topic : Topic H) :
    (topic.map f).subscriptions = topic.subscriptions.map (·.map f) := rfl

namespace Router

/-- The router with other handlers. -/
def map (f : H → H') (r : Router H) : Router H' :=
  ⟨r.nextId, r.topics.map (·.map f)⟩

variable (f : H → H') (r : Router H)

theorem lookUp_map (key : Text) (topics : List (Topic H)) :
    lookUp key (topics.map (·.map f)) = (lookUp key topics).map (·.map f) := by
  induction topics with
  | nil => rfl
  | cons topic rest ih =>
    by_cases hk : topic.key = key
    · simp [lookUp, hk]
    · simp [lookUp, hk, ih]

theorem append_map (key : Text) (s : Subscription H) (topics : List (Topic H)) :
    append key (s.map f) (topics.map (·.map f)) = (append key s topics).map (·.map f) := by
  induction topics with
  | nil => rfl
  | cons topic rest ih =>
    by_cases hk : topic.key = key
    · simp [append, Topic.map, hk]
    · simp [append, hk, ih]

theorem filter_map_subscriptions (id : HandlerId) (subs : List (Subscription H)) :
    (subs.map (·.map f)).filter (·.id ≠ id) = (subs.filter (·.id ≠ id)).map (·.map f) :=
  List.filter_map

theorem takeOut_map (key : Text) (id : HandlerId) (topics : List (Topic H)) :
    takeOut key id (topics.map (·.map f)) = (takeOut key id topics).map (·.map f) := by
  induction topics with
  | nil => rfl
  | cons topic rest ih =>
    by_cases hk : topic.key = key
    · simp only [List.map_cons, takeOut, Topic.key_map, Topic.subscriptions_map, hk, if_true,
        filter_map_subscriptions]
      cases topic.subscriptions.filter (·.id ≠ id) <;> rfl
    · simp [takeOut, hk, ih]

theorem subscriptions_map (key : Text) :
    (r.map f).subscriptions key = (r.subscriptions key).map (·.map f) :=
  lookUp_map f key r.topics

theorem handlerCount_map (key : Text) : (r.map f).handlerCount key = r.handlerCount key := by
  rw [handlerCount, subscriptions_map, List.length_map, handlerCount]

theorem isSubscribed_map (key : Text) (id : HandlerId) :
    (r.map f).isSubscribed key id = r.isSubscribed key id := by
  rw [isSubscribed, subscriptions_map, List.any_map]
  rfl

theorem subscribe_map (key : Text) (handler : H) :
    (r.map f).subscribe key (f handler) =
      ((r.subscribe key handler).1.map f, (r.subscribe key handler).2) := by
  have htopics := append_map f key ⟨⟨r.nextId⟩, handler⟩ r.topics
  simp only [subscribe, map, ← htopics]
  rfl

theorem unsubscribe_map (key : Text) (id : HandlerId) :
    (r.map f).unsubscribe key id =
      ((r.unsubscribe key id).1.map f, (r.unsubscribe key id).2) := by
  rw [unsubscribe, unsubscribe, isSubscribed_map]
  split
  · simp only [map, takeOut_map]
  · rfl

end Router

end Ssdp
