import Mathlib.Data.List.Forall2
import Ssdp.Proofs.ControlPoint.Trace
import Ssdp.Proofs.Message.LineEnds
import Ssdp.Proofs.Transport.Background

/-!
# Datagrams with other line ends

Of two datagrams that differ in their line ends, either can be taken for the other: two
runs that differ in nothing else do the same, step by step. All that can be told apart
afterwards is what is on record of header lines that were passed over, and there only in
the blanks at the ends of these lines.

* `Reply.Alike`, `Task.Alike`, `Link.Alike`: what differs in line ends only;
* `ControlPoint.perform_hearing`: only the search that is sent looks at the replies;
* `ControlPoint.perform_alike`: alike tasks do the same;
* `Traced.exchange`, `Traced.alike`: a run can be taken again with alike tasks, and does the
  same;
* `line_ends_interchangeable`: what is read, queued and done.
-/

namespace Ssdp

variable {ν : Type}

section

/-! ## What is queued -/

variable [UrlParser]

omit [UrlParser] in
theorem accept_fst (datagram : ByteArray) (sender : SocketAddress) (localAddress : Address) :
    (accept datagram sender localAddress).1 =
      ((Message.read? datagram).map Reading.message).toOption.map (⟨·, sender, localAddress⟩) := by
  unfold accept
  cases Message.read? datagram <;> rfl

omit [UrlParser] in
/-- For a datagram that there is room for, what it brings is queued. -/
theorem Arrival.received?_of_size_le {a : Arrival} (h : a.datagram.size ≤ bufferSize)
    (localAddress : Address) :
    a.received? localAddress = (accept a.datagram a.sender localAddress).1 := by
  have hroom : a.datagram.extract 0 bufferSize = a.datagram := by
    rw [← Nat.max_eq_left h]
    exact ByteArray.extract_zero_max_size
  rw [received?_eq_accept, hroom]

omit [UrlParser] in
/-- Arrivals that differ in their line ends bring the same message to the queue. -/
theorem Arrival.received?_sameButReturns {t t' : Text} (h : t.SameButReturns t')
    (ht : t.utf8Encode.size ≤ bufferSize) (ht' : t'.utf8Encode.size ≤ bufferSize)
    (sender : SocketAddress) (localAddress : Address) :
    Arrival.received? ⟨t'.utf8Encode, sender⟩ localAddress =
      Arrival.received? ⟨t.utf8Encode, sender⟩ localAddress := by
  rw [received?_of_size_le ht', received?_of_size_le ht, accept_fst, accept_fst,
    Message.map_message_read? h]

/-! ## What is alike -/

/-- The replies are the same, or datagrams that differ in their line ends. -/
inductive Reply.Alike : Reply → Reply → Prop
  | same (reply : Reply) : Alike reply reply
  | datagram {t t' : Text} (h : t.SameButReturns t') (sender : SocketAddress)
    (localAddress : Address) :
    Alike (.datagram t.utf8Encode sender localAddress) (.datagram t'.utf8Encode sender localAddress)

/-- The tasks are the same, or they take or read datagrams that differ in their line
ends. -/
inductive Task.Alike : Task ν → Task ν → Prop
  | same (task : Task ν) : Alike task task
  | take {reply reply' : Reply} (h : reply.Alike reply') : Alike (.take reply) (.take reply')
  | read {t t' : Text} (h : t.SameButReturns t') (caller : Caller)
    (next : Except ParseError Message → Script ν) :
    Alike (.script caller (.read t.utf8Encode next)) (.script caller (.read t'.utf8Encode next))

/-- The links do the same with a search, but for the line ends of the replies. -/
structure Link.Alike (link link' : Link) : Prop where
  works : link'.works = link.works
  interfaces : link'.interfaces = link.interfaces
  traces : link'.traces = link.traces
  replies : List.Forall₂ Reply.Alike link.replies link'.replies

/-- The steps find the same time and alike links. -/
def Step.FindsAlike (step step' : Step ν) : Prop :=
  step'.state.clock = step.state.clock ∧ step.state.link.Alike step'.state.link

/-- The entry, without blanks at the end of a header line that was passed over. -/
def Entry.trimmed : Entry → Entry
  | .logged (.skippedLine line) => .logged (.skippedLine line.trimmed)
  | entry => entry

omit [UrlParser] in
theorem forall₂_alike_same (tasks : List (Task ν)) : List.Forall₂ Task.Alike tasks tasks :=
  List.forall₂_same.2 fun task _ => .same task

/-! ## One step -/

namespace ControlPoint

/-- The control point with other replies to searches. -/
def hearing (c : ControlPoint ν) (replies : List Reply) : ControlPoint ν :=
  { c with link := { c.link with replies } }

end ControlPoint

/-- The outcome with other replies to searches that are still to come. -/
def Outcome.hearing (o : Outcome ν) (replies : List Reply) : Outcome ν :=
  { o with state := o.state.hearing replies }

namespace ControlPoint

variable (c : ControlPoint ν) (replies : List Reply)

/-- Which replies are to come makes no difference to a task, unless it sends a search. -/
theorem perform_hearing {task : Task ν} (h : ∀ id, task ≠ .broadcast id) :
    (c.hearing replies).perform task = (c.perform task).hearing replies := by
  have hlink : (c.perform task).state.link = c.link := (c.surroundings_perform task).2
  have htraces : ({ c.link with replies } : Link).traces = c.link.traces := rfl
  have hperform := perform_withLink htraces h
  rw [← hlink] at hperform
  refine Eq.trans ?_ hperform
  rw [hlink]
  rfl

end ControlPoint

/-- The second outcome is the first one with other replies to come, with alike tasks left,
and shows the same but for blanks at the ends of header lines that were passed over. -/
structure Outcome.Alike (replies : List Reply) (o o' : Outcome ν) : Prop where
  state : o'.state = o.state.hearing replies
  todo : List.Forall₂ Task.Alike o.todo o'.todo
  journal : o'.journal.map Entry.trimmed = o.journal.map Entry.trimmed
  panic : o'.panic = o.panic

omit [UrlParser] in
theorem Outcome.alike_hearing (replies : List Reply) (o : Outcome ν) :
    o.Alike replies (o.hearing replies) :=
  ⟨rfl, forall₂_alike_same o.todo, rfl, rfl⟩

omit [UrlParser] in
/-- Header lines that were passed over are on record without the blanks at their ends. -/
theorem map_trimmed_skipped (skipped : List SkippedLine) :
    (skipped.map fun line => Entry.logged (.skippedLine line)).map Entry.trimmed =
      (skipped.map SkippedLine.trimmed).map fun line => .logged (.skippedLine line) := by
  rw [List.map_map, List.map_map]
  rfl

namespace ControlPoint

variable {c : ControlPoint ν} {replies : List Reply}

/-- A search is sent alike, and has alike replies. -/
theorem broadcast_alike (h : List.Forall₂ Reply.Alike c.link.replies replies) (id : LocatorId) :
    (c.perform (.broadcast id)).Alike replies ((c.hearing replies).perform (.broadcast id)) := by
  have hlocator : (c.hearing replies).locator? id = c.locator? id := rfl
  simp only [perform, withLocator, hlocator]
  cases c.locator? id with
  | none => exact Outcome.alike_hearing replies { state := c }
  | some l =>
    have hworks : (c.hearing replies).link.works = c.link.works := rfl
    have hattempts : (c.hearing replies).attempts = c.attempts := rfl
    simp only [broadcast, hworks, hattempts]
    by_cases hsent : c.link.works c.attempts = true
    · have htaken : List.Forall₂ Task.Alike (c.link.replies.map (.take (ν := ν)))
          (replies.map .take) := by
        rw [List.forall₂_map_left_iff, List.forall₂_map_right_iff]
        exact h.imp fun _ _ => .take
      rw [if_pos hsent, if_pos hsent]
      exact ⟨rfl, List.rel_append htaken (forall₂_alike_same _), rfl, rfl⟩
    · rw [if_neg hsent, if_neg hsent]
      exact ⟨rfl, .nil, rfl, rfl⟩

/-- Alike replies are taken alike. -/
theorem take_alike {reply reply' : Reply} (h : reply.Alike reply') :
    (c.perform (.take reply)).Alike replies ((c.hearing replies).perform (.take reply')) := by
  cases h with
  | same reply =>
    have hne (id : LocatorId) : Task.take (ν := ν) reply ≠ .broadcast id := nofun
    rw [perform_hearing c replies hne]
    exact Outcome.alike_hearing replies _
  | datagram h sender localAddress =>
    rcases Message.read?_sameButReturns h with
      ⟨error, ht, ht'⟩ | ⟨message, skipped, skipped', ht, ht', hskipped⟩
    · simp only [perform, take, Reply.read?, ht, ht']
      exact ⟨rfl, .nil, rfl, rfl⟩
    · simp only [perform, take, Reply.read?, ht, ht']
      refine ⟨rfl, forall₂_alike_same _, ?_, rfl⟩
      simp only [map_trimmed_skipped, hskipped]

/-- A script that reads a datagram goes on with the same message. -/
theorem read_alike {t t' : Text} (h : t.SameButReturns t') (caller : Caller)
    (next : Except ParseError Message → Script ν) :
    (c.perform (.script caller (.read t.utf8Encode next))).Alike replies
      ((c.hearing replies).perform (.script caller (.read t'.utf8Encode next))) := by
  rcases Message.read?_sameButReturns h with
    ⟨error, ht, ht'⟩ | ⟨message, skipped, skipped', ht, ht', hskipped⟩
  · simp only [perform, performScript, ht, ht']
    exact ⟨rfl, forall₂_alike_same _, rfl, rfl⟩
  · simp only [perform, performScript, ht, ht', caller.catching_of_panic_none]
    refine ⟨rfl, forall₂_alike_same _, ?_, rfl⟩
    simp only [map_trimmed_skipped, hskipped]

/-- Alike tasks do the same. -/
theorem perform_alike (h : List.Forall₂ Reply.Alike c.link.replies replies)
    {task task' : Task ν} (htask : task.Alike task') :
    (c.perform task).Alike replies ((c.hearing replies).perform task') := by
  cases htask with
  | same task =>
    by_cases hsearch : ∃ id, task = .broadcast id
    · obtain ⟨id, rfl⟩ := hsearch
      exact broadcast_alike h id
    · rw [perform_hearing c replies fun id hid => hsearch ⟨id, hid⟩]
      exact Outcome.alike_hearing replies _
  | take hreply => exact take_alike hreply
  | read ht caller next => exact read_alike ht caller next

end ControlPoint

/-! ## Runs -/

omit [UrlParser] in
theorem Link.Alike.refl (link : Link) : link.Alike link :=
  ⟨rfl, rfl, rfl, List.forall₂_same.2 fun reply _ => .same reply⟩

omit [UrlParser] in
theorem Link.Alike.eq {link link' : Link} (h : link.Alike link') :
    link' = { link with replies := link'.replies } := by
  obtain ⟨hworks, hinterfaces, htraces, -⟩ := h
  rw [← hworks, ← hinterfaces, ← htraces]

theorem Link.Alike.perform {link link' : Link} (h : link.Alike link') (c : ControlPoint ν)
    (clock : Conditions) {task task' : Task ν} (htask : task.Alike task') :
    (ControlPoint.perform { c with clock, link } task).Alike link'.replies
      (ControlPoint.perform { c with clock, link := link' } task') := by
  rw [h.eq]
  exact ControlPoint.perform_alike h.replies htask

/-- Which replies are to come can be changed at the beginning of a trace. -/
theorem traced_hearing_iff {c c' : ControlPoint ν} {replies : List Reply}
    {tasks left : List (Task ν)} {steps : List (Step ν)} :
    Traced (c.hearing replies) tasks steps c' left ↔ Traced c tasks steps c' left :=
  Traced.turn_iff c.clock { c.link with replies }

/-- Runs of alike tasks, which find the same time and alike links at each step, do the
same. -/
theorem Traced.alike {c₀ c c' : ControlPoint ν} {tasks tasks' left left' : List (Task ν)}
    {steps steps' : List (Step ν)} (h : Traced c₀ tasks steps c left)
    (h' : Traced c₀ tasks' steps' c' left') (htasks : List.Forall₂ Task.Alike tasks tasks')
    (hsteps : List.Forall₂ Step.FindsAlike steps steps') :
    c' = { c with clock := c'.clock, link := c'.link } ∧ List.Forall₂ Task.Alike left left' ∧
      (shownBy steps').map Entry.trimmed = (shownBy steps).map Entry.trimmed := by
  induction hsteps generalizing c₀ tasks tasks' with
  | nil =>
    obtain ⟨rfl, clock, link, rfl⟩ := h.of_no_steps
    obtain ⟨rfl, clock', link', rfl⟩ := h'.of_no_steps
    exact ⟨rfl, htasks, rfl⟩
  | @cons first first' later later' hfirst _ ih =>
    obtain ⟨task, rest, clock, link, rfl, rfl, hlater⟩ := h.of_cons
    obtain ⟨task', rest', clock', link', rfl, rfl, hlater'⟩ := h'.of_cons
    obtain ⟨htask, hrest⟩ := List.forall₂_cons.1 htasks
    obtain ⟨hclock, hlink⟩ : clock' = clock ∧ link.Alike link' := hfirst
    subst hclock
    obtain ⟨hstate, htodo, hjournal⟩ := hlink.perform c₀ clock' htask
    rw [Step.outcome, hstate] at hlater'
    obtain ⟨hend, hleft, hshown⟩ :=
      ih hlater (traced_hearing_iff.1 hlater') (List.rel_append htodo hrest)
    refine ⟨hend, hleft, ?_⟩
    rw [shownBy_cons, shownBy_cons, List.map_append, List.map_append, hshown]
    exact congrArg (· ++ _) hjournal

/-- A run can be taken again with alike tasks and alike links. -/
theorem Traced.exchange {c₀ c : ControlPoint ν} {tasks tasks' left : List (Task ν)}
    {steps : List (Step ν)} {links : List Link} (h : Traced c₀ tasks steps c left)
    (htasks : List.Forall₂ Task.Alike tasks tasks')
    (hlinks : List.Forall₂ Link.Alike (steps.map (·.state.link)) links) :
    ∃ steps' c' left', Traced c₀ tasks' steps' c' left' ∧
      List.Forall₂ Step.FindsAlike steps steps' ∧ steps'.map (·.state.link) = links := by
  rw [List.forall₂_map_left_iff] at hlinks
  induction hlinks generalizing c₀ tasks tasks' with
  | nil => exact ⟨[], c₀, tasks', .start, .nil, rfl⟩
  | @cons first link' later links hfirst _ ih =>
    obtain ⟨task, rest, clock, link, rfl, rfl, hlater⟩ := h.of_cons
    cases htasks with
    | @cons _ task' _ rest' htask hrest =>
      have hlink : link.Alike link' := hfirst
      obtain ⟨hstate, htodo, -⟩ := hlink.perform c₀ clock htask
      obtain ⟨later', c', left', hlater', hfinds, hlinks⟩ :=
        ih hlater (List.rel_append htodo hrest)
      have hfirst' : Traced c₀ (task' :: rest') [⟨{ c₀ with clock, link := link' }, task'⟩] _ _ :=
        .perform (.turn clock link' .start)
      rw [hstate] at hfirst'
      exact ⟨_, c', left', hfirst'.trans (traced_hearing_iff.2 hlater'),
        .cons ⟨rfl, hlink⟩ hfinds, congrArg (link' :: ·) hlinks⟩

/-- Line ends make no difference. Datagrams that differ at most in how many carriage
returns stand directly before line feeds, and at the very end, are read as the same
message, or as none for the same reason; and where there is room for both, they bring the
same to the queue of messages.

So let a run begin with some tasks, and let datagrams be exchanged for such that differ in
their line ends, in the tasks and in what comes back from searches at each step. The run
can be taken again with these. And whenever the same steps are taken at the same times with
these, they end in the same state, but for the clock and the link that were found last;
what is left to be done differs in line ends only; and the same is shown, but for blanks at
the ends of header lines that are put on record as passed over. -/
theorem line_ends_interchangeable :
    (∀ t t' : Text, t.SameButReturns t' →
      (Message.read? t'.utf8Encode).map Reading.message =
        (Message.read? t.utf8Encode).map Reading.message ∧
      ∀ sender localAddress, t.utf8Encode.size ≤ 8192 → t'.utf8Encode.size ≤ 8192 →
        Arrival.received? ⟨t'.utf8Encode, sender⟩ localAddress =
          Arrival.received? ⟨t.utf8Encode, sender⟩ localAddress) ∧
    ∀ {c₀ c : ControlPoint ν} {tasks tasks' left : List (Task ν)} {steps : List (Step ν)},
      Traced c₀ tasks steps c left → List.Forall₂ Task.Alike tasks tasks' →
      (∀ links, List.Forall₂ Link.Alike (steps.map (·.state.link)) links →
        ∃ steps' c' left', Traced c₀ tasks' steps' c' left' ∧
          List.Forall₂ Step.FindsAlike steps steps' ∧ steps'.map (·.state.link) = links) ∧
      ∀ steps' c' left', Traced c₀ tasks' steps' c' left' →
        List.Forall₂ Step.FindsAlike steps steps' →
        c' = { c with clock := c'.clock, link := c'.link } ∧ List.Forall₂ Task.Alike left left' ∧
          (shownBy steps').map Entry.trimmed = (shownBy steps).map Entry.trimmed := by
  refine ⟨fun t t' h => ⟨Message.map_message_read? h, fun sender localAddress ht ht' => ?_⟩,
    fun h htasks => ⟨fun links hlinks => h.exchange htasks hlinks,
      fun steps' c' left' h' hsteps => h.alike h' htasks hsteps⟩⟩
  exact Arrival.received?_sameButReturns h ht ht' sender localAddress

end

/-- Code is subscribed that writes down the messages it is called with. -/
def attentive : ControlPoint (List Message) where
  notes := []
  router := (Router.subscribe {} notifyKey (.code fun e => .jot (· ++ [e.message]))).1

/-- A datagram whose lines end as they should, but for one that has no colon. -/
def orderly : Text :=
  "NOTIFY * HTTP/1.1\r\nUSN: a\r\nodd\r\n\r\n".toList

/-- The same with other line ends. -/
def untidy : Text :=
  "NOTIFY * HTTP/1.1\nUSN: a\r\r\r\nodd\r\r\n\n\r".toList

theorem orderly_sameButReturns_untidy : orderly.SameButReturns untidy := by
  have horderly : orderly = "NOTIFY * HTTP/1.1".toList ++ List.replicate 1 '\r' ++ '\n' ::
      ("USN: a".toList ++ List.replicate 1 '\r' ++ '\n' ::
        ("odd".toList ++ List.replicate 1 '\r' ++ '\n' ::
          ([] ++ List.replicate 1 '\r' ++ '\n' :: ([] ++ List.replicate 0 '\r')))) := by decide
  have huntidy : untidy = "NOTIFY * HTTP/1.1".toList ++ List.replicate 0 '\r' ++ '\n' ::
      ("USN: a".toList ++ List.replicate 3 '\r' ++ '\n' ::
        ("odd".toList ++ List.replicate 2 '\r' ++ '\n' ::
          ([] ++ List.replicate 0 '\r' ++ '\n' :: ([] ++ List.replicate 1 '\r')))) := by decide
  rw [horderly, huntidy]
  exact .lineEnd _ 1 0 (.lineEnd _ 1 3 (.lineEnd _ 1 2 (.lineEnd [] 1 0 (.ending [] 0 1))))

/-- What both bring. -/
def heard : Received where
  message := ⟨"NOTIFY * HTTP/1.1".toList, ⟨[⟨"USN".toList, "a".toList⟩]⟩⟩
  sender := .v4 .unspecified 1900
  localAddress := .v4 .unspecified

/-- A text that comes from there as a datagram. -/
def arriving (t : Text) : Task (List Message) :=
  .take (.datagram (String.ofList t).toUTF8 heard.sender heard.localAddress)

theorem readText?_orderly :
    Message.readText? orderly = .ok ⟨heard.message, [.withoutColon "odd".toList]⟩ := by
  decide +kernel

attribute [local instance] UrlParser.verbatim

theorem perform_arriving_orderly : attentive.perform (arriving orderly) =
    { state := attentive
      todo := [.deliver heard]
      journal := [.logged (.skippedLine (.withoutColon "odd".toList))] } := by
  simp only [arriving, ControlPoint.perform, ControlPoint.take, Reply.read?,
    Message.read?_toUTF8, readText?_orderly]
  rfl

/-- The code that listens is called with the same message for both. -/
theorem untidy_heard : orderly.SameButReturns untidy ∧
    (Message.read? untidy.utf8Encode).map Reading.message = .ok heard.message ∧
    ∃ steps c, Traced attentive [arriving untidy] steps c [] ∧ c.notes = [heard.message] := by
  obtain ⟨hread, hruns⟩ := line_ends_interchangeable (ν := List Message)
  obtain ⟨hmessage, -⟩ := hread orderly untidy orderly_sameButReturns_untidy
  refine ⟨orderly_sameButReturns_untidy, ?_, ?_⟩
  · rw [hmessage, Message.read?_utf8Encode, readText?_orderly]
    rfl
  · have hrun : (attentive.run 5 [arriving orderly]).agenda = [] ∧
        (attentive.run 5 [arriving orderly]).state.notes = [heard.message] := by
      rw [ControlPoint.run_succ, perform_arriving_orderly]
      exact ⟨rfl, rfl⟩
    obtain ⟨hagenda, hnotes⟩ := hrun
    have htasks : List.Forall₂ Task.Alike [arriving orderly] [arriving untidy] :=
      .cons (.take (.datagram orderly_sameButReturns_untidy _ _)) .nil
    obtain ⟨hexchange, hsame⟩ := hruns (traced_run attentive 5 [arriving orderly]) htasks
    obtain ⟨steps, c, left, htraced, hfinds, -⟩ :=
      hexchange _ (List.forall₂_same.2 fun link _ => .refl link)
    obtain ⟨hstate, hleft, -⟩ := hsame steps c left htraced hfinds
    rw [hagenda, List.forall₂_nil_left_iff] at hleft
    subst hleft
    refine ⟨steps, c, htraced, ?_⟩
    rw [hstate]
    exact hnotes

end Ssdp
