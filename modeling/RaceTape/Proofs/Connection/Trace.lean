import RaceTape.Proofs.Connection.Step

/-!
# Traces of connections

A run of steps is cut into spans: each begins with the step that opens a connection and goes
up to the next close.  What the peer takes in on its connections, and what it sends on them,
is read off the spans, one for each connection; nothing passes from one to the next.
-/

namespace RaceTape
namespace Connection

open Wire

/-!
## Runs

A run is recorded with what the caller was told at each step.  Whether a connection is open depends
on the steps alone, and so does the cut into spans, one for each connection.
-/

structure Entry where
  step : Step
  outcome : Outcome
deriving Repr

namespace Entry

def sent (e : Entry) : Bytes :=
  e.step.sent e.outcome

def stays (e : Entry) : Bool :=
  e.step ≠ .close

end Entry

def runAll : List Step -> StateM Connection (List Entry)
  | [] => pure []
  | step :: rest => do
      let outcome ← step.run
      let entries ← runAll rest
      return ⟨step, outcome⟩ :: entries

theorem runAll_cons (step : Step) (rest : List Step) (c : Connection) :
    runAll (step :: rest) c =
      (⟨step, (step.run c).1⟩ :: (runAll rest (step.run c).2).1,
        (runAll rest (step.run c).2).2) := rfl

/-- Whether a connection is open after a step, given whether one was before. -/
def openAfter (isOpen : Bool) : Step -> Bool
  | .close => false
  | step => isOpen || step.opens

def isOpenAfter (steps : List Step) : Bool :=
  steps.foldl openAfter false

/-- The parts of a run that belong to one connection each, in order. -/
def spans : List Entry -> List (List Entry)
  | [] => []
  | e :: rest =>
      if e.step.opens then
        (e :: rest.takeWhile Entry.stays) :: spans (rest.dropWhile Entry.stays)
      else spans rest
termination_by entries => entries.length
decreasing_by
  · exact Nat.lt_succ_of_le (List.dropWhile_sublist Entry.stays).length_le
  · exact Nat.lt_succ_self _

def sentOn (span : List Entry) : Bytes :=
  span.flatMap Entry.sent

/-- The receiving steps of a span are told the replies that `unread` begins with, in order. -/
def ReadsReplies : Bytes -> List Entry -> Prop
  | _, [] => True
  | unread, e :: rest =>
      (forall route, e.step = .receive route ->
        e.outcome = route.told .reply (takeReply unread).1) ∧
        ReadsReplies (e.step.leaves unread) rest

def ReadInOrder (outgoing : List Bytes) (parts : List (List Entry)) : Prop :=
  forall i span, parts[i]? = some span -> ReadsReplies (outgoing.getD i []) span

/-!
## Spans, one entry at a time
-/

theorem spans_nil : spans [] = [] := by
  rw [spans]

theorem spans_cons_of_opens {e : Entry} (h : e.step.opens = true) (rest : List Entry) :
    spans (e :: rest) =
      (e :: rest.takeWhile Entry.stays) :: spans (rest.dropWhile Entry.stays) := by
  rw [spans, if_pos h]

theorem spans_cons_of_not_opens {e : Entry} (h : e.step.opens = false) (rest : List Entry) :
    spans (e :: rest) = spans rest := by
  rw [spans, h]
  rfl

theorem leaves_of_opens {step : Step} (h : step.opens = true) (unread : Bytes) :
    step.leaves unread = unread := by
  cases step with
  | connect => rfl
  | send route message => rfl
  | receive route => cases h
  | close => cases h

theorem ReadInOrder.cons {outgoing : List Bytes} {span : List Entry}
    {parts : List (List Entry)} (hspan : ReadsReplies (outgoing.headD []) span)
    (hparts : ReadInOrder outgoing.tail parts) : ReadInOrder outgoing (span :: parts) := by
  intro i found hfound
  cases i with
  | zero =>
      cases hfound
      cases outgoing with
      | nil => exact hspan
      | cons bytes outgoing => exact hspan
  | succ i =>
      have hread := hparts i found hfound
      cases outgoing with
      | nil => exact hread
      | cons bytes outgoing => exact hread

/-!
## What a run leaves

A run that finds no connection open has the spans of the connections that it opens.  One that finds
a connection open goes on with it up to the next close.  Both are shown in one induction on the
steps.
-/

structure FollowsIdle (outgoing received : List Bytes) (entries : List Entry)
    (c : Connection) : Prop where
  received : c.peer.received = received ++ (spans entries).map sentOn
  replies : ReadInOrder outgoing (spans entries)

structure FollowsOpen (outgoing earlier : List Bytes) (taken unread : Bytes)
    (entries : List Entry) (c : Connection) : Prop where
  received :
    c.peer.received =
      earlier ++ (taken ++ sentOn (entries.takeWhile Entry.stays)) ::
        (spans (entries.dropWhile Entry.stays)).map sentOn
  reads : ReadsReplies unread (entries.takeWhile Entry.stays)
  replies : ReadInOrder outgoing (spans (entries.dropWhile Entry.stays))

section

variable {outgoing earlier received : List Bytes} {taken unread : Bytes}
variable {entries : List Entry} {e : Entry} {c : Connection}

theorem followsIdle_nil (h : c.peer.received = received) :
    FollowsIdle outgoing received [] c := by
  constructor
  · rw [spans_nil, h]
    exact (List.append_nil received).symm
  · rw [spans_nil]
    intro i span hspan
    cases hspan

theorem followsOpen_nil (h : c.peer.received = earlier ++ [taken]) :
    FollowsOpen outgoing earlier taken unread [] c := by
  constructor
  · rw [h, List.takeWhile_nil, List.dropWhile_nil, spans_nil, sentOn, List.flatMap_nil,
      List.append_nil]
    rfl
  · trivial
  · rw [List.dropWhile_nil, spans_nil]
    intro i span hspan
    cases hspan

theorem FollowsIdle.cons_of_not_opens (h : FollowsIdle outgoing received entries c)
    (he : e.step.opens = false) : FollowsIdle outgoing received (e :: entries) c := by
  constructor
  · rw [spans_cons_of_not_opens he]
    exact h.received
  · rw [spans_cons_of_not_opens he]
    exact h.replies

theorem FollowsOpen.cons_of_opens
    (h : FollowsOpen outgoing.tail received e.sent (outgoing.headD []) entries c)
    (he : e.step.opens = true) : FollowsIdle outgoing received (e :: entries) c := by
  constructor
  · rw [spans_cons_of_opens he]
    exact h.received
  · rw [spans_cons_of_opens he]
    apply ReadInOrder.cons _ h.replies
    refine ⟨?_, ?_⟩
    · intro route hroute
      rw [hroute] at he
      cases he
    · rw [leaves_of_opens he]
      exact h.reads

theorem FollowsOpen.cons_of_stays
    (h : FollowsOpen outgoing earlier (taken ++ e.sent) (e.step.leaves unread) entries c)
    (he : e.step ≠ .close)
    (hreply : forall route, e.step = .receive route ->
      e.outcome = route.told .reply (takeReply unread).1) :
    FollowsOpen outgoing earlier taken unread (e :: entries) c := by
  have hstays : e.stays = true := decide_eq_true he
  constructor
  · rw [List.takeWhile_cons_of_pos hstays, List.dropWhile_cons_of_pos hstays, sentOn,
      List.flatMap_cons, ← List.append_assoc]
    exact h.received
  · rw [List.takeWhile_cons_of_pos hstays]
    exact ⟨hreply, h.reads⟩
  · rw [List.dropWhile_cons_of_pos hstays]
    exact h.replies

theorem FollowsIdle.cons_of_close (h : FollowsIdle outgoing (earlier ++ [taken]) entries c)
    (he : e.step = .close) : FollowsOpen outgoing earlier taken unread (e :: entries) c := by
  have hstays : ¬e.stays = true := by
    intro hstays
    exact of_decide_eq_true hstays he
  have hopens : e.step.opens = false := by
    rw [he]
    rfl
  constructor
  · rw [List.takeWhile_cons_of_neg hstays, List.dropWhile_cons_of_neg hstays,
      spans_cons_of_not_opens hopens, h.received, List.append_assoc, sentOn, List.flatMap_nil,
      List.append_nil]
    rfl
  · rw [List.takeWhile_cons_of_neg hstays]
    trivial
  · rw [List.dropWhile_cons_of_neg hstays, spans_cons_of_not_opens hopens]
    exact h.replies

end

/-- Every run follows its spans, from whichever of the two kinds of state it starts. -/
theorem runAll_follows (steps : List Step) :
    (forall (c : Connection) outgoing received, c.IsIdle ->
      c.peer = ⟨none, outgoing, received⟩ ->
        FollowsIdle outgoing received (runAll steps c).1 (runAll steps c).2) ∧
    (forall (c : Connection) outgoing earlier taken unread,
      c.IsOpen outgoing earlier taken unread ->
        FollowsOpen outgoing earlier taken unread (runAll steps c).1 (runAll steps c).2) := by
  induction steps with
  | nil =>
      constructor
      · intro c outgoing received _ hpeer
        exact followsIdle_nil (congrArg Peer.received hpeer)
      · intro c outgoing earlier taken unread hopen
        exact followsOpen_nil (congrArg Peer.received hopen.peer)
  | cons step steps ih =>
      rcases ih with ⟨ihIdle, ihOpen⟩
      constructor
      · intro c outgoing received hidle hpeer
        rw [runAll_cons]
        cases hstep : step.opens with
        | false =>
            rw [hidle.run_of_not_opens hstep]
            exact (ihIdle c outgoing received hidle hpeer).cons_of_not_opens hstep
        | true =>
            have hopen := (hidle.run_of_opens hpeer hstep).2
            exact (ihOpen _ _ _ _ _ hopen).cons_of_opens hstep
      · intro c outgoing earlier taken unread hopen
        rw [runAll_cons]
        by_cases hclose : step = .close
        · subst hclose
          rcases hopen.run_close with ⟨hidle, hpeer⟩
          exact (ihIdle _ _ _ hidle hpeer).cons_of_close rfl
        · apply (ihOpen _ _ _ _ _ (hopen.run hclose)).cons_of_stays hclose
          intro route hroute
          subst hroute
          exact (hopen.run_receive route).1

/-!
## When a connection is open

A connection to a peer that accepts has both halves, or neither.
-/

theorem openAfter_false (step : Step) : openAfter false step = step.opens := by
  cases step with
  | connect => rfl
  | send route message => rfl
  | receive route => rfl
  | close => rfl

theorem openAfter_true {step : Step} (h : step ≠ .close) : openAfter true step = true := by
  cases step with
  | connect => rfl
  | send route message => rfl
  | receive route => rfl
  | close => exact absurd rfl h

inductive Stands (c : Connection) : Bool -> Prop where
  | idle {outgoing received : List Bytes} (idle : c.IsIdle)
      (peer : c.peer = ⟨none, outgoing, received⟩) : Stands c false
  | live {outgoing earlier : List Bytes} {taken unread : Bytes}
      (live : c.IsOpen outgoing earlier taken unread) : Stands c true

namespace Stands

variable {c : Connection} {isOpen : Bool}

theorem halves (h : c.Stands isOpen) :
    c.writer.isSome = isOpen ∧ c.reader.isSome = isOpen := by
  cases h with
  | idle hidle _ =>
      rw [hidle.writer, hidle.reader]
      exact ⟨rfl, rfl⟩
  | live hopen =>
      rw [hopen.writer, hopen.reader]
      exact ⟨rfl, rfl⟩

theorem isIdle (h : c.Stands false) : c.IsIdle := by
  cases h with
  | idle hidle _ => exact hidle

theorem step (h : c.Stands isOpen) (step : Step) :
    (step.run c).2.Stands (openAfter isOpen step) := by
  cases h with
  | idle hidle hpeer =>
      rw [openAfter_false]
      cases hstep : step.opens with
      | false =>
          rw [hidle.run_of_not_opens hstep]
          exact Stands.idle hidle hpeer
      | true => exact Stands.live (hidle.run_of_opens hpeer hstep).2
  | live hopen =>
      by_cases hclose : step = .close
      · subst hclose
        rcases hopen.run_close with ⟨hidle, hpeer⟩
        exact Stands.idle hidle hpeer
      · rw [openAfter_true hclose]
        exact Stands.live (hopen.run hclose)

theorem runAll (h : c.Stands isOpen) (steps : List Step) :
    (Connection.runAll steps c).2.Stands (steps.foldl openAfter isOpen) := by
  induction steps generalizing c isOpen with
  | nil => exact h
  | cons step steps ih =>
      rw [runAll_cons]
      exact ih (h.step step)

/-- A step opens a connection exactly if it needs one and none is open. -/
theorem length_received (h : c.Stands isOpen) (step : Step) :
    (step.run c).2.peer.received.length =
      c.peer.received.length + (if step.opens && !isOpen then 1 else 0) := by
  cases h with
  | idle hidle hpeer =>
      cases hstep : step.opens with
      | false =>
          rw [hidle.run_of_not_opens hstep]
          rfl
      | true =>
          rw [(hidle.run_of_opens hpeer hstep).2.peer, hpeer]
          exact List.length_append
  | live hopen =>
      rw [Bool.not_true, Bool.and_false, hopen.peer]
      by_cases hclose : step = .close
      · subst hclose
        rw [hopen.run_close.2]
        rfl
      · rw [(hopen.run hclose).peer, List.length_append, List.length_append]
        rfl

theorem outcome_of_opens (h : c.Stands isOpen) {step : Step} (hstep : step.opens = true) :
    (step.run c).1 = .ok .done := by
  cases h with
  | idle hidle hpeer => exact (hidle.run_of_opens hpeer hstep).1
  | live hopen => exact hopen.run_of_opens hstep

theorem outcome_of_mem (h : c.Stands isOpen) {steps : List Step} {e : Entry}
    (he : e ∈ (Connection.runAll steps c).1) (hopens : e.step.opens = true) :
    e.outcome = .ok .done := by
  induction steps generalizing c isOpen with
  | nil => cases he
  | cons step steps ih =>
      rw [runAll_cons] at he
      rcases List.mem_cons.mp he with rfl | hrest
      · exact h.outcome_of_opens hopens
      · exact ih (h.step step) hrest

end Stands

theorem map_step_runAll (steps : List Step) (c : Connection) :
    (runAll steps c).1.map Entry.step = steps := by
  induction steps generalizing c with
  | nil => rfl
  | cons step steps ih =>
      rw [runAll_cons, List.map_cons, ih]

theorem IsIdle.runAll_of_refusal {c : Connection} {reason : String} (h : c.IsIdle)
    (hpeer : c.peer.refusal = some reason) (steps : List Step) :
    runAll steps c =
      (steps.map fun step => ⟨step, refusedOutcome c.endpoint reason step⟩, c) := by
  induction steps with
  | nil => rfl
  | cons step steps ih =>
      rw [runAll_cons, h.run_of_refusal hpeer, ih]
      rfl

/-!
## Whole runs

The run of a whole list of steps is arbitrary, so what is true after it is true at every point of
every run.  In the run at the end there are two connections, each with a message and a reply, and
on the first a byte is left unread.
-/

structure AcceptedRun (outgoing : List Bytes) (steps : List Step) (entries : List Entry)
    (c : Connection) : Prop where
  steps_eq : entries.map Entry.step = steps
  /-- The halves are there exactly if some step has opened a connection and none has closed it. -/
  halves : c.writer.isSome = isOpenAfter steps ∧ c.reader.isSome = isOpenAfter steps
  /-- The next step opens a connection exactly if it needs one and none is open. -/
  opened : forall step : Step,
    (step.run c).2.peer.received.length =
      c.peer.received.length + (if step.opens && !isOpenAfter steps then 1 else 0)
  /-- Each connection was sent the frames of its span. -/
  received : c.peer.received = (spans entries).map sentOn
  /-- The replies of each span are read from the start of what its connection sends. -/
  replies : forall i span,
    (spans entries)[i]? = some span -> ReadsReplies (outgoing.getD i []) span
  /-- A connection is always made, and a message that has a frame is always sent. -/
  succeeded : forall e, e ∈ entries -> e.step.opens = true -> e.outcome = .ok .done
  /-- A message that has no frame is too large, and changes nothing. -/
  rejected : forall route message, (encodeFrame message).isOk = false ->
    (Step.send route message).run c =
      (.error (route.report (.frame (.payloadTooLarge message.payload.length))), c)
  /-- Without a connection, receiving and closing change nothing. -/
  unconnected : isOpenAfter steps = false ->
    (forall route,
      (Step.receive route).run c = (.error (route.report .notConnected), c)) ∧
      Step.close.run c = (.ok .done, c)

/--
On a peer that accepts, every run follows its spans.  On a peer that refuses, no step
changes anything: every step that needs a connection fails to connect, every receiving step
finds none, and closing does nothing.
-/
theorem runs_follow_spans (endpoint : Endpoint) (steps : List Step) :
    (forall outgoing,
      AcceptedRun outgoing steps (runAll steps (new endpoint (.accepting outgoing))).1
        (runAll steps (new endpoint (.accepting outgoing))).2) ∧
    (forall reason outgoing,
      runAll steps (new endpoint ⟨some reason, outgoing, []⟩) =
        (steps.map fun step => ⟨step, refusedOutcome endpoint reason step⟩,
          new endpoint ⟨some reason, outgoing, []⟩)) := by
  constructor
  · intro outgoing
    have hidle := isIdle_new endpoint (.accepting outgoing)
    have hstands := (Stands.idle hidle rfl).runAll steps
    have hfollows := (runAll_follows steps).1 _ outgoing [] hidle rfl
    constructor
    · exact map_step_runAll steps _
    · exact hstands.halves
    · exact hstands.length_received
    · exact hfollows.received
    · exact hfollows.replies
    · intro e he hopens
      exact (Stands.idle hidle rfl).outcome_of_mem he hopens
    · intro route message hframe
      rcases exists_error_of_not_isOk hframe with ⟨error, herror⟩
      rw [run_send_of_error herror, eq_payloadTooLarge herror]
    · intro hclosed
      rw [isOpenAfter] at hclosed
      rw [hclosed] at hstands
      exact ⟨hstands.isIdle.run_receive, hstands.isIdle.run_close⟩
  · intro reason outgoing
    exact (isIdle_new endpoint _).runAll_of_refusal rfl steps

def reconnecting : List Step :=
  [.receive .direct, .connect, .send .transport .unload, .receive .direct, .close, .close,
    .send .direct (.script [7]), .receive .transport]

def reconnectingRun : List Entry × Connection :=
  runAll reconnecting
    (new ⟨.v4 127 0 0 1, 27015⟩ (.accepting [[1, 0, 0, 0, 97, 9], [1, 0, 0, 0, 98]]))

theorem spans_reconnectingRun :
    reconnectingRun.1.map (fun e => e.outcome.toOption) =
        [none, some .done, some .done, some (.reply [97]), some .done, some .done, some .done,
          some (.reply [98])] ∧
      (spans reconnectingRun.1).map sentOn = [[1, 0, 0, 0, 1], [2, 0, 0, 0, 0, 7]] := by
  have houtcomes : reconnectingRun.1.map (fun e => e.outcome.toOption) =
      [none, some .done, some .done, some (.reply [97]), some .done, some .done, some .done,
        some (.reply [98])] := by decide +kernel
  have hreceived : reconnectingRun.2.peer.received =
      [[1, 0, 0, 0, 1], [2, 0, 0, 0, 0, 7]] := by decide +kernel
  have hspans : reconnectingRun.2.peer.received = (spans reconnectingRun.1).map sentOn := by
    unfold reconnectingRun
    exact ((runs_follow_spans _ reconnecting).1 _).received
  rw [← hspans]
  exact ⟨houtcomes, hreceived⟩

end Connection
end RaceTape
