import Mathlib.Data.List.Chain
import Ssdp.Proofs.ControlPoint.Effect

/-!
# The order of the agenda

What a step leaves to be done stands in front of the rest of the agenda, so the
agenda keeps a shape that the steps by themselves would not give it:

* `SearchFirst`, `SearchFirst.move`: a sweep is always the next task, of a
  locator that is not disposed;
* `Run.WithoutCallback`: the condition that an owner does not call its locator back;
* `Guarded`, `Guarded.move`: a pending event stands first, or directly behind a
  task that shows an event of the same locator, or behind the script of its
  owner, who is being told of one.
-/

namespace Ssdp

variable {ν : Type}

/-! ## Sweeps -/

/-- Sweeps are never put off, and only asked of a locator that is not disposed. -/
structure SearchFirst (r : Run ν) : Prop where
  tail : ∀ id, .search id ∉ r.agenda.tail
  head : ∀ id rest s, r.agenda = .search id :: rest → r.state.slots[id]? = some s →
    s.locator.disposed = false

/-- A step that asks for a sweep leaves nothing else to be done. -/
theorem Leaves.of_search_mem {c : ControlPoint ν} {id : LocatorId} {task : Task ν}
    {todo : List (Task ν)} (h : Leaves c task todo) (hm : .search id ∈ todo) :
    todo = [.search id] ∧ ∃ op l, task = .operate id op ∧ (op = .searchNow ∨ op = .tick) ∧
      c.locator? id = some l ∧ l.disposed = false := by
  cases h with
  | search id' op l hl hd hop =>
    obtain ⟨rfl⟩ := List.mem_singleton.1 hm
    exact ⟨rfl, op, l, rfl, hop, hl, hd⟩
  | _ => simp [ControlPoint.dispatchTasks] at hm

/-- A step that asks for a sweep leaves the locator as it was. -/
theorem disposed_of_search_mem [UrlParser] {c : ControlPoint ν} {id : LocatorId} {task : Task ν}
    {s : Slot ν} (hm : .search id ∈ (c.perform task).todo)
    (hs : (c.perform task).state.slots[id]? = some s) :
    s.locator.disposed = false := by
  obtain ⟨-, op, l, rfl, hop, hl, hd⟩ := (leaves_perform c task).of_search_mem hm
  obtain ⟨s', hs', rfl⟩ := Option.map_eq_some_iff.1 hl
  rw [ControlPoint.slots_perform hs'] at hs
  obtain ⟨rfl⟩ := Option.some.inj hs
  rcases hop with rfl | rfl
  · simp only [Locator.undergo, Locator.react, ite_self, hd]
  · simp only [Locator.undergo, Locator.react, ite_self, hd]

theorem SearchFirst.move [UrlParser] {r r' : Run ν} (h : SearchFirst r) (hm : Move r r') :
    SearchFirst r' := by
  cases hm with
  | perform c shown task rest =>
    have hrest : ∀ id, .search id ∉ rest := h.tail
    have hleaves := leaves_perform c task
    refine ⟨fun id hmem => ?_, fun id rest' s heq hs => ?_⟩
    · cases htodo : (c.perform task).todo with
      | nil =>
        simp only [htodo, List.nil_append] at hmem
        exact hrest id (List.mem_of_mem_tail hmem)
      | cons first others =>
        simp only [htodo, List.cons_append, List.tail_cons] at hmem
        rcases List.mem_append.1 hmem with hmem | hmem
        · have hfirst := (hleaves.of_search_mem (htodo ▸ List.mem_cons_of_mem _ hmem)).1
          rw [htodo] at hfirst
          obtain ⟨-, rfl⟩ := List.cons.inj hfirst
          exact List.not_mem_nil hmem
        · exact hrest id hmem
    · cases htodo : (c.perform task).todo with
      | nil =>
        simp only [htodo, List.nil_append] at heq
        exact absurd (heq ▸ List.mem_cons_self) (hrest id)
      | cons first others =>
        simp only [htodo, List.cons_append] at heq
        obtain ⟨rfl, -⟩ := List.cons.inj heq
        exact disposed_of_search_mem (htodo ▸ List.mem_cons_self) hs
  | turn c shown agenda clock link => exact ⟨h.tail, h.head⟩
  | ask c shown hreq =>
    refine ⟨fun id => List.not_mem_nil, fun id rest s heq => ?_⟩
    obtain ⟨rfl, -⟩ := List.cons.inj heq
    nomatch hreq

theorem Reached.searchFirst [UrlParser] {ok : Run ν → Prop} {r : Run ν} (h : Reached ok r) :
    SearchFirst r := by
  induction h with
  | fresh => exact ⟨fun id => List.not_mem_nil, fun id rest s heq => nomatch heq⟩
  | move _ _ hm ih => exact ih.move hm

/-! ## Pending events -/

/-- Whenever a locator is operated or swept, its owner is not still at work on an
event of it. -/
def Run.WithoutCallback (id : LocatorId) (r : Run ν) : Prop :=
  ∀ task rest, r.agenda = task :: rest → task.changes id = true →
    ∀ body, .script (.owner id) body ∉ rest

/-- Whether a task is about to show an event of a locator, or its owner is being
told of one. -/
def Task.guards (id : LocatorId) : Task ν → Bool
  | .lose id' _ _ => id' = id
  | .emit id' _ => id' = id
  | .script caller _ => caller = .owner id
  | _ => false

/-- Whether a task may stand directly behind another: pending events need a
guard. -/
def Follows (id : LocatorId) (task next : Task ν) : Prop :=
  task.guards id = true ∨ next.pending id = []

/-- Every pending event of a locator stands first, or behind a guard. -/
def Guarded (id : LocatorId) (agenda : List (Task ν)) : Prop :=
  agenda.IsChain (Follows id)

section

variable {id : LocatorId} {c : ControlPoint ν} {task : Task ν} {todo rest : List (Task ν)}

/-- In a list of tasks all that are pending guard each other. -/
theorem guarded_map_lose (id' : LocatorId) (cause : LossCause) (ds : List Device) :
    Guarded id (ds.map (.lose id' cause · : Device → Task ν)) := by
  induction ds with
  | nil => exact .nil
  | cons d ds ih =>
    refine ih.cons fun next hnext => ?_
    obtain ⟨d', -, rfl⟩ := List.mem_map.1 (List.mem_of_mem_head? hnext)
    by_cases hid : id' = id
    · exact .inl (by simp [Task.guards, hid])
    · exact .inr (by simp [Task.pending, hid])

/-- Tasks none of which is pending need no guard. -/
theorem guarded_of_pending_eq_nil (h : ∀ t ∈ todo, t.pending id = []) : Guarded id todo := by
  induction todo with
  | nil => exact .nil
  | cons t ts ih =>
    refine (ih fun t' ht' => h t' (List.mem_cons_of_mem _ ht')).cons fun next hnext => ?_
    exact .inr (h next (List.mem_cons_of_mem _ (List.mem_of_mem_head? hnext)))

theorem Leaves.guarded (h : Leaves c task todo) : Guarded id todo := by
  cases h with
  | farewell id' op ds => exact guarded_map_lose id' .left ds
  | sweep id' ds =>
    refine (guarded_map_lose id' .expired ds).append (.singleton _) fun t _ next hnext => ?_
    obtain ⟨rfl⟩ := Option.some.inj hnext
    exact .inr rfl
  | lose id' cause d => exact .singleton _
  | refresh id' op event => exact .singleton _
  | _ =>
    refine guarded_of_pending_eq_nil ?_
    simp [ControlPoint.dispatchTasks, Task.pending, or_imp, forall_and]

/-- What a guard leaves ends with a guard. -/
theorem Leaves.guards_getLast (h : Leaves c task todo) (hg : task.guards id = true) :
    ∀ t ∈ todo.getLast?, t.guards id = true := by
  cases h with
  | nothing => simp
  | goOn caller body body' => simpa [Task.guards] using hg
  | dispatch caller e next n => simpa [Task.guards] using hg
  | operate caller id' op next => simpa [Task.guards] using hg
  | lose id' cause d => simpa [Task.guards] using hg
  | emit id' event s hs hd => simpa [Task.guards] using hg
  | _ => cases hg

theorem Guarded.perform [UrlParser] (c : ControlPoint ν) (h : Guarded id (task :: rest)) :
    Guarded id ((c.perform task).todo ++ rest) := by
  have hl := leaves_perform c task
  refine hl.guarded.append h.tail fun t ht next hnext => ?_
  rcases h.rel_head? hnext with hg | hp
  · exact .inl (hl.guards_getLast hg t ht)
  · exact .inr hp

theorem Guarded.move [UrlParser] {r r' : Run ν} (h : Guarded id r.agenda) (hm : Move r r') :
    Guarded id r'.agenda := by
  cases hm with
  | perform c shown task rest => exact h.perform c
  | turn => exact h
  | ask => exact .singleton _

theorem Reached.guarded [UrlParser] {ok : Run ν → Prop} {r : Run ν} (h : Reached ok r) :
    Guarded id r.agenda := by
  induction h with
  | fresh => exact .nil
  | move _ _ hm ih => exact ih.move hm

/-- Without a script of the owner among them, and with no guard in front, guarded
tasks show no event. -/
theorem pendingEvents_eq_nil_of_guarded (h : Guarded id (task :: rest))
    (hg : task.guards id = false) (howner : ∀ body, .script (.owner id) body ∉ rest) :
    pendingEvents id rest = [] := by
  induction rest generalizing task with
  | nil => rfl
  | cons next rest ih =>
    have hp : next.pending id = [] := by
      rcases h.rel_head? rfl with hg' | hp
      · rw [hg] at hg'
        cases hg'
      · exact hp
    have hnext : next.guards id = false := by
      cases next with
      | lose id' cause d => simpa [Task.guards, Task.pending] using hp
      | emit id' event => simpa [Task.guards, Task.pending] using hp
      | script caller body =>
        have hcaller : caller ≠ .owner id := by
          rintro rfl
          exact howner body List.mem_cons_self
        simp [Task.guards, hcaller]
      | _ => rfl
    have hrest : ∀ body, .script (.owner id) body ∉ rest := fun body hb =>
      howner body (List.mem_cons_of_mem _ hb)
    rw [pendingEvents_cons, hp, ih h.tail hnext hrest]
    rfl

end

end Ssdp
