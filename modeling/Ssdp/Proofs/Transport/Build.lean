import Ssdp.Proofs.Transport.Grants
import Ssdp.Proofs.Transport.Select

/-!
# What becomes of a transport when calls are refused

The operating system may refuse any call. Every socket is attempted all the same: the calls
for it are made up to the first that is refused, and a listener asks for its memberships of
the group however many of them are refused. What was made is then read off the answers.

* `SenderAttempt`, `ListenerAttempt`: the calls made for one socket, with the answers;
* `Progress.makeSockets_attempts`: the calls of a whole run, one attempt after the other;
* `ListenerAttempt.joins_of_made`: the memberships of a listener that was made;
* `build_keeps_what_is_made`: the transport, or the error, that comes of a run.
-/

namespace Ssdp

/-! ## Calls of a run -/

namespace Progress

variable {os : Sockets}

/-- Between two states of a run, these calls were made with these answers. -/
def Hears (os : Sockets) (p p' : Progress) (heard : List Answered) : Prop :=
  os.answered p'.calls = os.answered p.calls ++ heard

theorem Hears.refl (p : Progress) : Hears os p p [] :=
  (List.append_nil _).symm

theorem Hears.trans {p q r : Progress} {heard later : List Answered} (h : Hears os p q heard)
    (hlater : Hears os q r later) : Hears os p r (heard ++ later) := by
  rw [Hears] at h hlater ⊢
  rw [hlater, h, List.append_assoc]

theorem Hears.note {p p' : Progress} {heard : List Answered} (h : Hears os p p' heard)
    (record : LogRecord) : Hears os p (p'.note record) heard :=
  h

theorem hears_of_ask {p p' : Progress} {call : SocketCall} {answer : Except IoError Unit}
    (h : p.ask os call = (p', answer)) : Hears os p p' [(call, answer)] := by
  cases h
  exact os.answered_concat p.calls call

/-- Calls made one after the other go as far as they are granted. -/
theorem askAll_pursues (os : Sockets) (p : Progress) (calls : List SocketCall) :
    ∃ heard, Pursues calls heard ∧ Hears os p (p.askAll os calls).1 heard ∧
      (p.askAll os calls).2.isOk = granted heard := by
  induction calls generalizing p with
  | nil => exact ⟨[], .done, .refl p, rfl⟩
  | cons call rest ih =>
    rw [askAll]
    split
    case h_1 p' hask =>
      obtain ⟨heard, hpursues, hheard, hok⟩ := ih p'
      exact ⟨_, .granted hpursues, (hears_of_ask hask).trans hheard, hok⟩
    case h_2 p' error hask =>
      exact ⟨_, .refused error, hears_of_ask hask, rfl⟩

end Progress

/-! ## Attempts -/

/-- A sender as it was attempted: the plan for it, and the calls that were made. -/
structure SenderAttempt where
  plan : SenderPlan
  heard : List Answered
  pursues : Pursues plan.calls heard

/-- The sender could be made: no call was refused. -/
def SenderAttempt.made (t : SenderAttempt) : Bool :=
  granted t.heard

/-- A sender that could be made has all that was planned. -/
theorem SenderAttempt.grants_of_made {t : SenderAttempt} (h : t.made = true) :
    grants t.heard = .ofCalls t.plan.calls := by
  rw [grants_of_granted h, t.pursues.map_fst h]

/-- A listener as it was attempted: the plan for it, the calls that open it, those for its
memberships on the planned interfaces, and those that close the attempt. Once it is open, a
membership is asked for on every planned interface, and one on the fallback after that if
all of them were refused. -/
structure ListenerAttempt where
  plan : ListenerPlan
  opening : List Answered
  joins : List Answered
  closing : List Answered
  opens : Pursues plan.opening opening
  joinsEach : joins.map Prod.fst =
    if granted opening then plan.points.map (.join plan.group) else []
  closes :
    if granted opening then Pursues (plan.remaining (joins.any (·.2.isOk))) closing
    else closing = []

namespace ListenerAttempt

/-- The calls that were made for the listener. -/
def heard (t : ListenerAttempt) : List Answered :=
  t.opening ++ t.joins ++ t.closing

/-- The listener could be made: no call was refused but memberships of the group. -/
def made (t : ListenerAttempt) : Bool :=
  granted t.opening && granted t.closing

end ListenerAttempt

/-- The sockets of one version as they were attempted. -/
structure SocketAttempt where
  senders : List SenderAttempt
  listener : ListenerAttempt

namespace SocketAttempt

/-- The plan for the sockets. -/
def plan (t : SocketAttempt) : SocketPlan :=
  ⟨t.senders.map (·.plan), t.listener.plan⟩

/-- The calls that were made for the sockets. -/
def heard (t : SocketAttempt) : List Answered :=
  t.senders.flatMap (·.heard) ++ t.listener.heard

/-- The addresses of the senders that could be made. -/
def madeSenders (t : SocketAttempt) : List Address :=
  (t.senders.filter (·.made)).map (·.plan.address)

/-- The address of the listener, if it could be made. -/
def madeListeners (t : SocketAttempt) : List Address :=
  if t.listener.made then [t.listener.plan.address] else []

end SocketAttempt

namespace Progress

variable {os : Sockets}

/-- Every planned sender is attempted, and those made have made of them. -/
theorem makeSenders_attempts (os : Sockets) (p : Progress) (plans : List SenderPlan) :
    ∃ attempts : List SenderAttempt, attempts.map (·.plan) = plans ∧
      Hears os p (p.makeSenders os plans).1 (attempts.flatMap (·.heard)) ∧
      (p.makeSenders os plans).2 = (attempts.filter (·.made)).map (·.plan.address) := by
  induction plans generalizing p with
  | nil => exact ⟨[], rfl, .refl p, rfl⟩
  | cons plan rest ih =>
    obtain ⟨heard, hpursues, hheard, hok⟩ := askAll_pursues os p plan.calls
    let attempt : SenderAttempt := ⟨plan, heard, hpursues⟩
    rw [makeSenders]
    split
    case h_1 p' hask =>
      rw [hask] at hheard hok
      have hmade : attempt.made = true := hok.symm
      obtain ⟨attempts, hplans, hlater, hsenders⟩ := ih p'
      refine ⟨attempt :: attempts, congrArg _ hplans, hheard.trans hlater, ?_⟩
      rw [List.filter_cons_of_pos hmade, List.map_cons, ← hsenders]
    case h_2 p' error hask =>
      rw [hask] at hheard hok
      have hmade : ¬attempt.made = true := fun h => Bool.false_ne_true (hok.trans h)
      obtain ⟨attempts, hplans, hlater, hsenders⟩ :=
        ih (p'.note (.bindFailed plan.address error))
      refine ⟨attempt :: attempts, congrArg _ hplans, (hheard.note _).trans hlater, ?_⟩
      rw [List.filter_cons_of_neg hmade, ← hsenders]

/-- A membership is asked for on every interface, and what is told is whether one of them
was granted. -/
theorem joinEach_attempts (os : Sockets) (p : Progress) (group : Address)
    (points : List JoinPoint) :
    ∃ joins : List Answered, joins.map Prod.fst = points.map (.join group) ∧
      Hears os p (p.joinEach os group points).1 joins ∧
      (p.joinEach os group points).2 = joins.any (·.2.isOk) := by
  induction points generalizing p with
  | nil => exact ⟨[], rfl, .refl p, rfl⟩
  | cons point rest ih =>
    rw [joinEach]
    split
    case h_1 p' hask =>
      obtain ⟨joins, hjoins, hlater, -⟩ := ih p'
      exact ⟨_ :: joins, congrArg _ hjoins, (hears_of_ask hask).trans hlater, rfl⟩
    case h_2 p' error hask =>
      obtain ⟨joins, hjoins, hlater, hany⟩ := ih (p'.note (.joinFailed group point error))
      exact ⟨_ :: joins, congrArg _ hjoins, ((hears_of_ask hask).note _).trans hlater, hany⟩

/-- A listener is attempted as it was planned. -/
theorem makeListener_attempt (os : Sockets) (p : Progress) (plan : ListenerPlan) :
    ∃ attempt : ListenerAttempt, attempt.plan = plan ∧
      Hears os p (p.makeListener os plan).1 attempt.heard ∧
      (p.makeListener os plan).2.isOk = attempt.made := by
  obtain ⟨opening, hopens, hopening, hopen⟩ := askAll_pursues os p plan.opening
  rw [makeListener]
  split
  case h_1 p' error hask =>
    rw [hask] at hopening hopen
    have hrefused : ¬granted opening = true := fun h => Bool.false_ne_true (hopen.trans h)
    have hheard : opening = opening ++ [] ++ [] := by rw [List.append_nil, List.append_nil]
    have hmade : (granted opening && granted []) = false := by
      rw [Bool.eq_false_of_not_eq_true hrefused, Bool.false_and]
    exact ⟨⟨plan, opening, [], [], hopens, (if_neg hrefused).symm, by rw [if_neg hrefused]⟩, rfl,
      hheard ▸ hopening, hmade.symm⟩
  case h_2 p' hask =>
    rw [hask] at hopening hopen
    have hgranted : granted opening = true := hopen.symm
    obtain ⟨joins, hjoins, hjoining, hjoined⟩ := joinEach_attempts os p' plan.group plan.points
    obtain ⟨closing, hcloses, hclosing, hclosed⟩ :=
      askAll_pursues os (p'.joinEach os plan.group plan.points).1
        (plan.remaining (joins.any (·.2.isOk)))
    rw [← hjoined] at hclosing hclosed
    have hmade : (granted opening && granted closing) = granted closing := by
      rw [hgranted, Bool.true_and]
    exact ⟨⟨plan, opening, joins, closing, hopens, by rw [hjoins, if_pos hgranted],
      by rwa [if_pos hgranted]⟩, rfl, (hopening.trans hjoining).trans hclosing,
      hclosed.trans hmade.symm⟩

/-- The listener has its address if it could be made. -/
theorem listen_attempt (os : Sockets) (p : Progress) (plan : ListenerPlan) :
    ∃ attempt : ListenerAttempt, attempt.plan = plan ∧
      Hears os p (p.listen os plan).1 attempt.heard ∧
      (p.listen os plan).2 = if attempt.made then [attempt.plan.address] else [] := by
  obtain ⟨attempt, rfl, hheard, hmade⟩ := makeListener_attempt os p plan
  refine ⟨attempt, rfl, ?_⟩
  rw [listen]
  split
  case h_1 p' hask =>
    rw [hask] at hheard hmade
    exact ⟨hheard, (if_pos hmade.symm).symm⟩
  case h_2 p' error hask =>
    rw [hask] at hheard hmade
    exact ⟨hheard, (if_neg fun h => Bool.false_ne_true (hmade.trans h)).symm⟩

/-- Every planned socket is attempted, and those made have made of them. -/
theorem makeSockets_attempts (os : Sockets) (p : Progress) (plans : List SocketPlan) :
    ∃ attempts : List SocketAttempt, attempts.map (·.plan) = plans ∧
      Hears os p (p.makeSockets os plans).1 (attempts.flatMap (·.heard)) ∧
      (p.makeSockets os plans).2 =
        (attempts.flatMap (·.madeSenders), attempts.flatMap (·.madeListeners)) := by
  induction plans generalizing p with
  | nil => exact ⟨[], rfl, .refl p, rfl⟩
  | cons plan rest ih =>
    obtain ⟨senders, hsenders, hsending, hsent⟩ := makeSenders_attempts os p plan.senders
    obtain ⟨listener, hlistener, hlistening, hlistens⟩ :=
      listen_attempt os (p.makeSenders os plan.senders).1 plan.listener
    obtain ⟨attempts, hplans, hlater, hmade⟩ :=
      ih ((p.makeSenders os plan.senders).1.listen os plan.listener).1
    have hplan : SocketAttempt.plan ⟨senders, listener⟩ = plan := by
      rw [SocketAttempt.plan, hsenders, hlistener]
    refine ⟨⟨senders, listener⟩ :: attempts, by rw [List.map_cons, hplan, hplans],
      (hsending.trans hlistening).trans hlater, ?_⟩
    rw [Prod.ext_iff] at hmade
    exact Prod.ext (congrArg₂ (· ++ ·) hsent hmade.1) (congrArg₂ (· ++ ·) hlistens hmade.2)

end Progress

/-! ## Memberships of a listener -/

/-- A plan of a listener asks for memberships between its opening and its closing calls only,
and its fallback is none of its interfaces. -/
structure ListenerPlan.Proper (plan : ListenerPlan) : Prop where
  opening : ∀ point, .join plan.group point ∉ plan.opening
  closing : ∀ point, .join plan.group point ∉ plan.closing
  fallback : plan.fallback ∉ plan.points

theorem ListenerPlan.proper_ofV4 (loopback : Bool) (ips : List V4) :
    (ofV4 loopback ips).Proper where
  opening := by simp [ofV4, openingV4]
  closing := by simp [ofV4, binding]
  fallback := by simp [ofV4, V4.isUnspecified]

theorem ListenerPlan.proper_ofV6 (loopback : Bool) (ips : List (V6 × Nat)) :
    (ofV6 loopback ips).Proper where
  opening := by simp [ofV6, openingV6]
  closing := by simp [ofV6, binding]
  fallback := by simp [ofV6]

/-- The memberships of a listener in a group: there is one at least, one was asked for on
every interface, and there is one on the fallback if and only if all those were refused. -/
structure ListenerAttempt.Joins (t : ListenerAttempt) (group : Address)
    (points : List JoinPoint) (fallback : JoinPoint) : Prop where
  somewhere : ∃ point, (.join group point, .ok ()) ∈ t.heard
  everywhere : ∀ point ∈ points, ∃ answer, (.join group point, answer) ∈ t.heard
  fallback_iff : (.join group fallback, .ok ()) ∈ t.heard ↔
    ∀ point ∈ points, (.join group point, .ok ()) ∉ t.heard

namespace ListenerAttempt

variable {t : ListenerAttempt}

theorem granted_of_made (h : t.made = true) :
    granted t.opening = true ∧ granted t.closing = true :=
  Bool.and_eq_true_iff.1 h

theorem map_fst_closing (h : t.made = true) :
    t.closing.map Prod.fst = t.plan.remaining (t.joins.any (·.2.isOk)) := by
  obtain ⟨hopening, hclosing⟩ := granted_of_made h
  have hcloses := t.closes
  rw [if_pos hopening] at hcloses
  exact hcloses.map_fst hclosing

/-- The memberships that a listener asked for are those on its interfaces, and the one on
the fallback if all those were refused. -/
theorem mem_heard_iff (hproper : t.plan.Proper) (h : t.made = true) {point : JoinPoint}
    {answer : Except IoError Unit} :
    (.join t.plan.group point, answer) ∈ t.heard ↔
      (.join t.plan.group point, answer) ∈ t.joins ∨
        t.joins.any (·.2.isOk) = false ∧ point = t.plan.fallback ∧ answer = .ok () := by
  obtain ⟨hopening, hclosing⟩ := granted_of_made h
  have hlast := map_fst_closing h
  have hout : (SocketCall.join t.plan.group point, answer) ∉ t.opening := fun hmem =>
    hproper.opening point (t.opens.map_fst hopening ▸ List.mem_map_of_mem hmem)
  rw [heard, List.mem_append, List.mem_append, or_iff_right hout]
  refine or_congr_right ⟨fun hmem => ?_, ?_⟩
  · have hcall : SocketCall.join t.plan.group point ∈ t.plan.remaining (t.joins.any (·.2.isOk)) :=
      hlast ▸ List.mem_map_of_mem hmem
    cases hany : t.joins.any (·.2.isOk) with
    | true =>
      rw [hany] at hcall
      exact absurd hcall (hproper.closing point)
    | false =>
      rw [hany] at hcall
      rcases List.mem_cons.1 hcall with hfallback | hcall
      · exact ⟨rfl, (SocketCall.join.inj hfallback).2, eq_ok_of_granted hclosing hmem⟩
      · exact absurd hcall (hproper.closing point)
  · rintro ⟨hnone, rfl, rfl⟩
    refine mem_of_granted hclosing ?_
    rw [hlast, hnone]
    exact List.mem_cons_self

theorem map_fst_joins (h : t.made = true) :
    t.joins.map Prod.fst = t.plan.points.map (.join t.plan.group) := by
  rw [t.joinsEach, if_pos (granted_of_made h).1]

/-- The memberships asked for between the opening and the closing are on the interfaces. -/
theorem exists_point_of_mem_joins (h : t.made = true) {entry : Answered}
    (hentry : entry ∈ t.joins) : ∃ point ∈ t.plan.points, .join t.plan.group point = entry.1 :=
  List.mem_map.1 (map_fst_joins h ▸ List.mem_map_of_mem hentry)

/-- A listener that could be made has all that was planned besides its memberships. -/
theorem unjoined_of_made (h : t.made = true) :
    (grants t.heard).unjoined =
      (Grants.ofCalls (t.plan.opening ++ t.plan.closing)).unjoined := by
  obtain ⟨hopening, hclosing⟩ := granted_of_made h
  have hopened : grants t.opening = .ofCalls t.plan.opening := by
    rw [grants_of_granted hopening, t.opens.map_fst hopening]
  have hjoined : (grants t.joins).unjoined = {} := by
    refine Grants.unjoined_joins fun call hcall => ?_
    obtain ⟨entry, hentry, rfl⟩ := List.mem_map.1 hcall
    obtain ⟨point, -, hpoint⟩ := exists_point_of_mem_joins h (List.mem_of_mem_filter hentry)
    exact ⟨t.plan.group, point, hpoint⟩
  have hclosed : (grants t.closing).unjoined = (Grants.ofCalls t.plan.closing).unjoined := by
    rw [grants_of_granted hclosing, map_fst_closing h]
    cases t.joins.any (·.2.isOk) <;> rfl
  rw [heard, List.append_assoc, grants_append, grants_append, Grants.ofCalls_append,
    Grants.unjoined_append, Grants.unjoined_append, Grants.unjoined_append, hopened, hjoined,
    hclosed]
  rfl

/-- On an interface, a membership is asked for there only. -/
theorem mem_heard_point_iff (hproper : t.plan.Proper) (h : t.made = true) {point : JoinPoint}
    (hpoint : point ∈ t.plan.points) {answer : Except IoError Unit} :
    (.join t.plan.group point, answer) ∈ t.heard ↔
      (.join t.plan.group point, answer) ∈ t.joins := by
  rw [mem_heard_iff hproper h]
  exact or_iff_left fun hlast => hproper.fallback (hlast.2.1 ▸ hpoint)

/-- The fallback is joined if no membership on an interface was granted. -/
theorem mem_heard_fallback_iff (hproper : t.plan.Proper) (h : t.made = true) :
    (.join t.plan.group t.plan.fallback, .ok ()) ∈ t.heard ↔
      ¬t.joins.any (·.2.isOk) = true := by
  have hout : (SocketCall.join t.plan.group t.plan.fallback, .ok ()) ∉ t.joins := by
    intro hmem
    obtain ⟨point, hpoint, hcall⟩ := exists_point_of_mem_joins h hmem
    exact hproper.fallback ((SocketCall.join.inj hcall).2 ▸ hpoint)
  rw [mem_heard_iff hproper h, Bool.not_eq_true]
  exact ⟨fun hmem => (hmem.resolve_left hout).1, fun hnone => .inr ⟨hnone, rfl, rfl⟩⟩

theorem any_joins_iff (hproper : t.plan.Proper) (h : t.made = true) :
    t.joins.any (·.2.isOk) = true ↔
      ∃ point ∈ t.plan.points, (.join t.plan.group point, .ok ()) ∈ t.heard := by
  rw [List.any_eq_true]
  constructor
  · rintro ⟨⟨call, answer⟩, hmem, hok⟩
    obtain ⟨point, hpoint, rfl⟩ := exists_point_of_mem_joins h hmem
    exact ⟨point, hpoint, (mem_heard_point_iff hproper h hpoint).2 (eq_ok_of_isOk hok ▸ hmem)⟩
  · rintro ⟨point, hpoint, hmem⟩
    exact ⟨_, (mem_heard_point_iff hproper h hpoint).1 hmem, rfl⟩

/-- A listener that could be made has joined its group. -/
theorem joins_of_made (hproper : t.plan.Proper) (h : t.made = true) :
    t.Joins t.plan.group t.plan.points t.plan.fallback where
  somewhere := by
    by_cases hsome : t.joins.any (·.2.isOk) = true
    · obtain ⟨point, -, hmem⟩ := (any_joins_iff hproper h).1 hsome
      exact ⟨point, hmem⟩
    · exact ⟨_, (mem_heard_fallback_iff hproper h).2 hsome⟩
  everywhere point hpoint := by
    have hcall : SocketCall.join t.plan.group point ∈ t.joins.map Prod.fst := by
      rw [map_fst_joins h]
      exact List.mem_map_of_mem hpoint
    obtain ⟨⟨_, answer⟩, hmem, rfl⟩ := List.mem_map.1 hcall
    exact ⟨answer, (mem_heard_point_iff hproper h hpoint).2 hmem⟩
  fallback_iff := by
    rw [mem_heard_fallback_iff hproper h, any_joins_iff hproper h]
    simp only [not_exists, not_and]

/-- A listener of version 6 asks for memberships by the indexes of the selected addresses,
also where the fallback is all that is selected. -/
theorem Joins.asks_every_index {target : Target Nat} {resolve : V6 → Except IoError Nat}
    {addresses : List Address} (hresolve : ∀ ip, resolve ip ≠ .ok 0) {group : Address}
    (h : t.Joins group
      ((((selectV6 target resolve addresses).map (·.2)).filter (· ≠ 0)).map .index) (.index 0))
    {pick : V6 × Nat} (hpick : pick ∈ selectV6 target resolve addresses) :
    ∃ answer, (.join group (.index pick.2), answer) ∈ t.heard := by
  obtain ⟨ip, index⟩ := pick
  by_cases hzero : index = 0
  · subst hzero
    have honly := selectV6_of_zero hresolve hpick
    exact ⟨.ok (), h.fallback_iff.2 (by simp [honly])⟩
  · have hmem : index ∈ ((selectV6 target resolve addresses).map (·.2)).filter (· ≠ 0) :=
      List.mem_filter.2 ⟨List.mem_map_of_mem hpick, decide_eq_true hzero⟩
    exact h.everywhere _ (List.mem_map_of_mem hmem)

end ListenerAttempt

/-! ## The transport -/

/-- The senders that could be made are among those planned, in order. -/
theorem SocketAttempt.sublist_madeSenders (t : SocketAttempt) :
    t.madeSenders.Sublist (t.plan.senders.map (·.address)) := by
  rw [SocketAttempt.plan, List.map_map]
  exact List.filter_sublist.map _

theorem SocketAttempt.sublist_madeListeners (t : SocketAttempt) :
    t.madeListeners.Sublist [t.plan.listener.address] := by
  rw [madeListeners]
  split
  · exact List.Sublist.refl _
  · exact List.nil_sublist _

/-- The senders that are attempted are those that are planned, for each address one. -/
theorem senders_of_plan {α : Type} {attempts : List SocketAttempt} {used : Bool}
    {plan : SocketPlan} (h : attempts.map (·.plan) = if used then [plan] else []) {picks : List α}
    {planOf : α → SenderPlan} (hsenders : plan.senders = picks.map planOf) :
    List.Forall₂ (fun pick t => t.plan = planOf pick) (if used then picks else [])
      (attempts.flatMap (·.senders)) := by
  cases used with
  | false =>
    obtain rfl := List.map_eq_nil_iff.1 h
    exact .nil
  | true =>
    obtain ⟨t, rfl, rfl⟩ := List.map_eq_singleton_iff.1 h
    have heach : List.Forall₂ (fun (plan : SenderPlan) (s : SenderAttempt) => s.plan = plan)
        (t.senders.map (·.plan)) t.senders :=
      List.forall₂_map_left_iff.2 (List.forall₂_same.2 fun _ _ => rfl)
    have hplans : t.senders.map (·.plan) = picks.map planOf := hsenders
    rw [hplans] at heach
    rw [List.flatMap_singleton, if_pos rfl]
    exact List.forall₂_map_left_iff.1 heach

/-- The attempts for one version, if it is used, and what they can have made. -/
theorem attempts_of_plan {attempts : List SocketAttempt} {used : Bool} {plan : SocketPlan}
    (h : attempts.map (·.plan) = if used then [plan] else []) :
    (attempts.flatMap (·.madeSenders)).Sublist
        (if used then plan.senders.map (·.address) else []) ∧
      (attempts.flatMap (·.madeListeners)).Sublist
        (if used then [plan.listener.address] else []) ∧
      ∀ t ∈ attempts, t.plan = plan := by
  cases used with
  | false =>
    obtain rfl := List.map_eq_nil_iff.1 h
    exact ⟨List.nil_sublist _, List.nil_sublist _, fun t ht => absurd ht List.not_mem_nil⟩
  | true =>
    obtain ⟨t, rfl, rfl⟩ := List.map_eq_singleton_iff.1 h
    rw [List.flatMap_singleton, List.flatMap_singleton]
    exact ⟨t.sublist_madeSenders, t.sublist_madeListeners,
      fun other hother => List.mem_singleton.1 hother ▸ rfl⟩

/-- The transport has the sockets that could be made of those planned, and there is none if
no socket could be made. -/
theorem Transport.build_attempts (options : TransportOptions) (version : IpVersion)
    (network : Network) (resolve : V6 → Except IoError Nat) (os : Sockets) :
    ∃ attempts : List SocketAttempt,
      attempts.map (·.plan) = options.plans version network resolve ∧
      os.answered (build options version network resolve os).1.calls =
        attempts.flatMap (·.heard) ∧
      (build options version network resolve os).2 =
        (let senders := attempts.flatMap (·.madeSenders)
          let listeners := attempts.flatMap (·.madeListeners)
          if senders = [] ∧ listeners = [] then .error .noBindableInterface
          else .ok { senders, listeners, network, tracing := options.tracing }) := by
  obtain ⟨attempts, hplans, hheard, hmade⟩ :=
    Progress.makeSockets_attempts os {} (options.plans version network resolve)
  rcases hsockets : Progress.makeSockets {} os (options.plans version network resolve) with
    ⟨p, senders, listeners⟩
  rw [hsockets] at hheard hmade
  obtain ⟨rfl, rfl⟩ := Prod.mk.inj hmade
  refine ⟨attempts, hplans, ?_⟩
  have hnone : ((attempts.flatMap (·.madeSenders)).isEmpty &&
      (attempts.flatMap (·.madeListeners)).isEmpty) = true ↔
      attempts.flatMap (·.madeSenders) = [] ∧ attempts.flatMap (·.madeListeners) = [] := by
    rw [Bool.and_eq_true, List.isEmpty_iff, List.isEmpty_iff]
  rw [build, hsockets]
  by_cases hempty : attempts.flatMap (·.madeSenders) = [] ∧ attempts.flatMap (·.madeListeners) = []
  · simp only [if_pos (hnone.2 hempty), if_pos hempty, and_true]
    exact hheard
  · simp only [if_neg (mt hnone.1 hempty), if_neg hempty, and_true]
    exact hheard.note _

/-- What becomes of a transport, whatever the operating system answers to its calls, for any
network, targets and versions. The calls that are made are those of one attempt after the
other: one for each sender and one for each listener that is planned, and nothing is planned
for a version that is not used. An attempt ends with the first call that is refused, except
that memberships may be refused.

* A sender is attempted for each selected address of each version that is used, and for no
  other, in the order of the addresses and with version 4 first. One that was made is bound
  to its address, with a port of the operating system's choice.
* The senders are those whose attempts came to their ends without a refusal, in the same
  order. The listeners likewise, at most one for each version that is used. One that was made
  is bound to the port of the protocol on all addresses of its version.
* There is no transport if and only if there would be no sender and no listener in it.
* A listener that was made has joined the group of its version somewhere. It asked for a
  membership on every selected interface but the one that leaves the choice to the operating
  system, and it joined on that one if and only if all the others were refused. For version 6
  it asked for a membership on the interface of every selected address. -/
theorem build_keeps_what_is_made (options : TransportOptions) (version : IpVersion)
    (network : Network) {resolve : V6 → Except IoError Nat} (hresolve : ∀ ip, resolve ip ≠ .ok 0)
    (os : Sockets) :
    let ips4 := selectV4 options.v4 network.bindAddresses
    let ips6 := selectV6 options.v6 resolve network.bindAddresses
    let run := Transport.build options version network resolve os
    ∃ attempts4 attempts6 : List SocketAttempt,
      attempts4.map (·.plan) = (if version.includes (.v4 .unspecified) then
        [SocketPlan.ofV4 options.loopback ips4] else []) ∧
      attempts6.map (·.plan) = (if version.includes (.v6 .unspecified) then
        [SocketPlan.ofV6 options.loopback ips6] else []) ∧
      List.Forall₂ (fun ip t => t.plan.address = .v4 ip ∧
          (t.made = true → grants t.heard = .senderV4 options.loopback ip))
        (if version.includes (.v4 .unspecified) then ips4 else [])
        (attempts4.flatMap (·.senders)) ∧
      List.Forall₂ (fun pick t => t.plan.address = .v6 pick.1 ∧
          (t.made = true → grants t.heard = .senderV6 options.loopback pick.1 pick.2))
        (if version.includes (.v6 .unspecified) then ips6 else [])
        (attempts6.flatMap (·.senders)) ∧
      os.answered run.1.calls =
        attempts4.flatMap (·.heard) ++ attempts6.flatMap (·.heard) ∧
      (let senders := attempts4.flatMap (·.madeSenders) ++ attempts6.flatMap (·.madeSenders)
        let listeners :=
          attempts4.flatMap (·.madeListeners) ++ attempts6.flatMap (·.madeListeners)
        run.2 = (if senders = [] ∧ listeners = [] then .error .noBindableInterface
          else .ok { senders, listeners, network, tracing := options.tracing }) ∧
        senders.Sublist
          ((if version.includes (.v4 .unspecified) then ips4.map .v4 else []) ++
            if version.includes (.v6 .unspecified) then ips6.map (.v6 ·.1) else []) ∧
        listeners.Sublist
          ((if version.includes (.v4 .unspecified) then [.v4 .unspecified] else []) ++
            if version.includes (.v6 .unspecified) then [.v6 .unspecified] else [])) ∧
      (∀ t ∈ attempts4, t.listener.made = true →
        (grants t.listener.heard).unjoined = .listenerV4 options.loopback ∧
        t.listener.Joins (.v4 groupV4) ((ips4.filter (!·.isUnspecified)).map .address)
          (.address .unspecified)) ∧
      (∀ t ∈ attempts6, t.listener.made = true →
        (grants t.listener.heard).unjoined = .listenerV6 options.loopback ∧
        t.listener.Joins (.v6 groupV6) (((ips6.map (·.2)).filter (· ≠ 0)).map .index)
          (.index 0) ∧
        ∀ pick ∈ ips6, ∃ answer,
          (.join (.v6 groupV6) (.index pick.2), answer) ∈ t.listener.heard) := by
  intro ips4 ips6 run
  obtain ⟨attempts, hplans, hcalls, hrun⟩ :=
    Transport.build_attempts options version network resolve os
  obtain ⟨attempts4, attempts6, rfl, h4, h6⟩ := List.map_eq_append_iff.1 hplans
  obtain ⟨hsenders4, hlisteners4, hplan4⟩ := attempts_of_plan h4
  obtain ⟨hsenders6, hlisteners6, hplan6⟩ := attempts_of_plan h6
  simp only [List.flatMap_append] at hcalls hrun
  refine ⟨attempts4, attempts6, h4, h6, ?_, ?_, hcalls,
    ⟨hrun, ?_, hlisteners4.append hlisteners6⟩, fun t ht hmade => ?_, fun t ht hmade => ?_⟩
  · refine (senders_of_plan h4 rfl).imp fun ip t hplan => ⟨by rw [hplan]; rfl, fun hmade => ?_⟩
    rw [SenderAttempt.grants_of_made hmade, hplan, SenderPlan.ofCalls_ofV4]
  · refine (senders_of_plan h6 rfl).imp fun pick t hplan => ⟨by rw [hplan]; rfl, fun hmade => ?_⟩
    rw [SenderAttempt.grants_of_made hmade, hplan, SenderPlan.ofCalls_ofV6]
  · have haddresses4 : (SocketPlan.ofV4 options.loopback ips4).senders.map (·.address) =
        ips4.map .v4 := List.map_map
    have haddresses6 : (SocketPlan.ofV6 options.loopback ips6).senders.map (·.address) =
        ips6.map (.v6 ·.1) := List.map_map
    rw [haddresses4] at hsenders4
    rw [haddresses6] at hsenders6
    exact hsenders4.append hsenders6
  · have hplan : t.listener.plan = .ofV4 options.loopback ips4 :=
      congrArg SocketPlan.listener (hplan4 t ht)
    have hjoins := ListenerAttempt.joins_of_made (hplan ▸ ListenerPlan.proper_ofV4 ..) hmade
    rw [hplan] at hjoins
    refine ⟨?_, hjoins⟩
    rw [ListenerAttempt.unjoined_of_made hmade, hplan, ListenerPlan.unjoined_ofV4]
  · have hplan : t.listener.plan = .ofV6 options.loopback ips6 :=
      congrArg SocketPlan.listener (hplan6 t ht)
    have hjoins := ListenerAttempt.joins_of_made (hplan ▸ ListenerPlan.proper_ofV6 ..) hmade
    rw [hplan] at hjoins
    refine ⟨?_, hjoins, fun pick hpick => hjoins.asks_every_index hresolve hpick⟩
    rw [ListenerAttempt.unjoined_of_made hmade, hplan, ListenerPlan.unjoined_ofV6]

/-- A machine with an address of version 6 that is not ready yet. -/
def patchyMachine : Machine :=
  { loopbackMachine with
    interfaces := loopbackMachine.interfaces ++
      [⟨loopbackName, .v6 (.ofGroups [0xfe80, 0, 0, 0, 0, 0, 0, 9]) ⟨BitVec.allOnes 128 <<< 64⟩⟩] }

/-- A network with an address of each version that its machine cannot bind. -/
def patchyNetwork : Network :=
  .ofList [.v4 (.ofOctets 10 0 0 9), .v6 .loopback, .v4 (.ofOctets 100 64 3 7),
    .v6 (.ofGroups [0xfe80, 0, 0, 0, 0, 0, 0, 9])]

/-- A sender is tried on all four addresses. There is none on those that cannot be bound, but
both listeners ask for memberships there as well, and are bound to the port of the protocol. -/
theorem patchy_build :
    (∀ ip, patchyMachine.indexOfAddress ip ≠ .ok 0) ∧
    (Transport.build {} .both patchyNetwork patchyMachine.indexOfAddress loopbackSockets).2.map
        (fun t => (t.senders, t.listeners)) =
      .ok ([.v4 (.ofOctets 100 64 3 7), .v6 .loopback], [.v4 .unspecified, .v6 .unspecified]) ∧
    ∃ t4 t6 : SocketAttempt,
      t4.senders.map (·.plan.address) = [.v4 (.ofOctets 10 0 0 9), .v4 (.ofOctets 100 64 3 7)] ∧
      t6.senders.map (·.plan.address) =
        [.v6 .loopback, .v6 (.ofGroups [0xfe80, 0, 0, 0, 0, 0, 0, 9])] ∧
      (∃ s ∈ t6.senders, s.made = true ∧ (grants s.heard).addresses = [.v6 .loopback 0 0]) ∧
      (grants t4.listener.heard).addresses = [.v4 .unspecified 1900] ∧
      (grants t6.listener.heard).addresses = [.v6 .unspecified 1900 0] ∧
      (∃ answer, (.join (.v4 groupV4) (.address (.ofOctets 10 0 0 9)), answer) ∈
        t4.listener.heard) ∧
      ∃ point, (.join (.v6 groupV6) point, .ok ()) ∈ t6.listener.heard := by
  have hresolve := patchyMachine.indexOfAddress_ne_zero
  have hbuilt : (Transport.build {} .both patchyNetwork patchyMachine.indexOfAddress
      loopbackSockets).2.map (fun t => (t.senders, t.listeners)) =
      .ok ([.v4 (.ofOctets 100 64 3 7), .v6 .loopback],
        [.v4 .unspecified, .v6 .unspecified]) := by decide +kernel
  have hips4 : selectV4 .all patchyNetwork.bindAddresses =
      [.ofOctets 10 0 0 9, .ofOctets 100 64 3 7] := by decide +kernel
  have hips6 : selectV6 .all patchyMachine.indexOfAddress patchyNetwork.bindAddresses =
      [(.loopback, 1), (.ofGroups [0xfe80, 0, 0, 0, 0, 0, 0, 9], 1)] := by decide +kernel
  refine ⟨hresolve, hbuilt, ?_⟩
  obtain ⟨attempts4, attempts6, h4, h6, htried4, htried6, -, ⟨hrun, -, -⟩, hjoins4, hjoins6⟩ :=
    build_keeps_what_is_made {} .both patchyNetwork hresolve loopbackSockets
  obtain ⟨t4, rfl, hplan4⟩ := List.map_eq_singleton_iff.1 h4
  obtain ⟨t6, rfl, hplan6⟩ := List.map_eq_singleton_iff.1 h6
  simp only [List.flatMap_singleton, IpVersion.includes, ↓reduceIte, hips4, hips6]
    at htried4 htried6 hrun hjoins4 hjoins6
  rw [hrun] at hbuilt
  split at hbuilt
  · contradiction
  obtain ⟨hsenders, hlisteners⟩ := Prod.mk.inj (Except.ok.inj hbuilt)
  have hmade : t4.listener.made = true ∧ t6.listener.made = true := by
    rw [SocketAttempt.madeListeners, SocketAttempt.madeListeners] at hlisteners
    cases hmade4 : t4.listener.made <;> cases hmade6 : t6.listener.made <;> simp_all
  obtain ⟨hlistens4, hjoined4⟩ := hjoins4 t4 (List.mem_singleton_self t4) hmade.1
  obtain ⟨hlistens6, hjoined6, -⟩ := hjoins6 t6 (List.mem_singleton_self t6) hmade.2
  rcases t4 with ⟨senders4, listener4⟩
  rcases t6 with ⟨senders6, listener6⟩
  dsimp only at htried4 htried6
  obtain _ | @⟨_, s1, _, _, ⟨h1, -⟩, _ | @⟨_, s2, _, _, ⟨h2, -⟩, _ | _⟩⟩ := htried4
  obtain _ | @⟨_, s3, _, _, ⟨h3, hgranted⟩, _ | @⟨_, s4, _, _, ⟨h4, -⟩, _ | _⟩⟩ := htried6
  have hready : s3.made = true := by
    have hmem : Address.v6 .loopback ∈
        (([s1, s2].filter (·.made)).map (·.plan.address) ++
          ([s3, s4].filter (·.made)).map (·.plan.address)) :=
      (congrArg (Address.v6 .loopback ∈ ·) hsenders).mpr (by decide)
    simp only [List.mem_append, List.mem_map, List.mem_filter, List.mem_cons, List.not_mem_nil,
      or_false] at hmem
    obtain ⟨s, ⟨rfl | rfl, -⟩, haddress⟩ | ⟨s, ⟨rfl | rfl, hready⟩, haddress⟩ := hmem
    · exact absurd (h1.symm.trans haddress) nofun
    · exact absurd (h2.symm.trans haddress) nofun
    · exact hready
    · exact absurd (h4.symm.trans haddress) (by decide)
  exact ⟨⟨_, _⟩, ⟨_, _⟩, by simp [h1, h2], by simp [h3, h4],
    ⟨s3, List.mem_cons_self, hready, congrArg Grants.addresses (hgranted hready)⟩,
    congrArg Grants.addresses hlistens4, congrArg Grants.addresses hlistens6,
    hjoined4.everywhere _ (by decide), hjoined6.somewhere⟩

end Ssdp
