import Mathlib.Data.List.Forall2
import Mathlib.Data.List.Perm.Basic
import Ssdp.Cache

/-!
# Orders of visits

An order rearranges a list, and every rearrangement is one of an order. An order looks at
places alone, not at what stands there: lists of one length are rearranged alike.

* `VisitOrder.arrange_perm`, `VisitOrder.exists_arrange_eq`: nothing is left out or visited
  twice, and there is an order for every way to do so;
* `VisitOrder.arrange_map`, `VisitOrder.forall₂_arrange`: what stands at the places makes
  no difference.
-/

namespace Ssdp.VisitOrder

variable {α β : Type}

@[simp] theorem visit_nil_right (picks : List Nat) : visit picks ([] : List α) = [] := by
  cases picks <;> rfl

/-- A pick takes what stands at a place to the front. -/
theorem visit_cons {pick : Nat} {picks : List Nat} {xs : List α}
    (h : pick % xs.length < xs.length) :
    visit (pick :: picks) xs =
      xs[pick % xs.length] :: visit picks (xs.eraseIdx (pick % xs.length)) := by
  simp only [visit, List.getElem?_eq_getElem h]

/-- There is something at the place that is picked, unless there is nothing at all. -/
theorem pick_lt {xs : List α} (hne : xs ≠ []) (pick : Nat) : pick % xs.length < xs.length :=
  Nat.mod_lt _ (List.length_pos_iff.2 hne)

theorem visit_perm (picks : List Nat) (xs : List α) : (visit picks xs).Perm xs := by
  induction picks generalizing xs with
  | nil => exact .rfl
  | cons pick picks ih =>
    by_cases hne : xs = []
    · rw [hne, visit_nil_right]
    · have hpick := pick_lt hne pick
      rw [visit_cons hpick]
      exact ((ih _).cons _).trans (List.getElem_cons_eraseIdx_perm hpick)

/-- Each entry is visited once. -/
theorem arrange_perm (order : VisitOrder) (xs : List α) : (order.arrange xs).Perm xs :=
  visit_perm order.picks xs

/-- Entries may be visited in any order. -/
theorem exists_arrange_eq {xs ys : List α} (h : xs.Perm ys) :
    ∃ order : VisitOrder, order.arrange xs = ys := by
  induction ys generalizing xs with
  | nil => exact ⟨{}, h.eq_nil⟩
  | cons y ys ih =>
    obtain ⟨i, hi, hy⟩ := List.mem_iff_getElem.1 (h.mem_iff.2 List.mem_cons_self)
    have hrest : (xs.eraseIdx i).Perm ys := by
      have hfront := (List.getElem_cons_eraseIdx_perm hi).trans h
      rw [hy] at hfront
      exact hfront.cons_inv
    obtain ⟨order, horder⟩ := ih hrest
    have hmod : i % xs.length = i := Nat.mod_eq_of_lt hi
    refine ⟨⟨i :: order.picks⟩, ?_⟩
    rw [arrange, visit_cons (by rwa [hmod])]
    simp only [hmod, hy]
    exact congrArg (y :: ·) horder

theorem mem_arrange {order : VisitOrder} {xs : List α} {x : α} : x ∈ order.arrange xs ↔ x ∈ xs :=
  (order.arrange_perm xs).mem_iff

/-- Lists whose elements are related place by place are so in any order. -/
theorem forall₂_visit {R : α → β → Prop} (picks : List Nat) {xs : List α} {ys : List β}
    (h : List.Forall₂ R xs ys) : List.Forall₂ R (visit picks xs) (visit picks ys) := by
  induction picks generalizing xs ys with
  | nil => exact h
  | cons pick picks ih =>
    by_cases hne : xs = []
    · subst hne
      rw [List.forall₂_nil_left_iff.1 h]
      simp
    · have hlength := h.length_eq
      have hpick := pick_lt hne pick
      have hpick' : pick % ys.length < ys.length := hlength ▸ hpick
      rw [visit_cons hpick, visit_cons hpick']
      simp only [← hlength]
      refine .cons (h.get hpick (hlength ▸ hpick)) (ih ?_)
      rw [List.eraseIdx_eq_take_drop_succ, List.eraseIdx_eq_take_drop_succ]
      exact List.rel_append (List.forall₂_take _ h) (List.forall₂_drop _ h)

theorem forall₂_arrange {R : α → β → Prop} (order : VisitOrder) {xs : List α} {ys : List β}
    (h : List.Forall₂ R xs ys) : List.Forall₂ R (order.arrange xs) (order.arrange ys) :=
  forall₂_visit order.picks h

/-- It is all the same whether a list is rearranged or what is made of it. -/
theorem arrange_map (order : VisitOrder) (f : α → β) (xs : List α) :
    order.arrange (xs.map f) = (order.arrange xs).map f := by
  have hrelated : List.Forall₂ (fun x y => y = f x) xs (xs.map f) :=
    List.forall₂_map_right_iff.2 (List.forall₂_same.2 fun _ _ => rfl)
  have harranged := order.forall₂_arrange hrelated
  refine List.forall₂_eq_eq_eq ▸ ?_
  exact List.forall₂_map_right_iff.2 (harranged.flip.imp fun _ _ h => h)

end Ssdp.VisitOrder
