import RaceTape.Connection
import RaceTape.Proofs.Wire.Frame

/-!
# Steps of a connection

A caller connects, sends, receives and closes, directly or through the transport.  What one
step does is said once, for a connection without halves, for one with both halves, and for a
peer that refuses.  The two halves come and go together.
-/

namespace RaceTape

open Wire

namespace Connection

/-!
## The link to a peer

The actions of a link are written for any system that can dial, read and write.  Over a peer that
follows a script each of them is a function of the connection.  Receiving looks at the unread bytes
only, in one pass.
-/

theorem connect_of_writer {c : Connection} {n : Nat} (h : c.writer = some n) :
    connect c = (.ok (), c) := by
  rcases c with ⟨endpoint, peer, reader, writer, log⟩
  cases h
  rfl

theorem connect_of_refusal {c : Connection} {reason : String} (hwriter : c.writer = none)
    (hpeer : c.peer.refusal = some reason) :
    connect c = (.error (.connectFailed c.endpoint reason), c) := by
  rcases c with ⟨endpoint, ⟨refusal, outgoing, received⟩, reader, writer, log⟩
  cases hwriter
  cases hpeer
  rfl

theorem connect_of_accepting {c : Connection} (hwriter : c.writer = none)
    (hpeer : c.peer.refusal = none) :
    connect c =
      (.ok (),
        { c with
          peer := ⟨none, c.peer.outgoing.tail, c.peer.received ++ [[]]⟩
          reader := some (c.peer.outgoing.headD [])
          writer := some c.peer.received.length
          log := c.log ++ [Link.connectedEvent c.endpoint] }) := by
  rcases c with ⟨endpoint, ⟨refusal, outgoing, received⟩, reader, writer, log⟩
  cases hwriter
  cases hpeer
  rfl

theorem connect_cases (c : Connection) :
    (exists error, connect c = (.error error, c)) ∨
      exists next n, connect c = (.ok (), next) ∧ next.writer = some n ∧
        next.endpoint = c.endpoint := by
  cases hwriter : c.writer with
  | some n => exact Or.inr ⟨c, n, connect_of_writer hwriter, hwriter, rfl⟩
  | none =>
      cases hpeer : c.peer.refusal with
      | some reason => exact Or.inl ⟨_, connect_of_refusal hwriter hpeer⟩
      | none => exact Or.inr ⟨_, _, connect_of_accepting hwriter hpeer, rfl, rfl⟩

theorem endpoint_connect (c : Connection) : (connect c).2.endpoint = c.endpoint := by
  rcases connect_cases c with ⟨error, h⟩ | ⟨next, n, h, _, hendpoint⟩
  · rw [h]
  · rw [h]
    exact hendpoint

section

variable {c next : Connection} {kind : Kind} {bytes : Bytes}

theorem send_eq (message : Message) (c : Connection) :
    send message c = transmit message.kind (encodeFrame message) c :=
  rfl

theorem transmit_of_connect_error {error : ConnectionError}
    (h : connect c = (.error error, next)) :
    transmit kind (.ok bytes) c = (.error error, next) := by
  have hlink : (link c.endpoint).connect c = (.error error, next) := h
  simp only [transmit, onLink, Link.transmit, bind, StateT.bind, hlink]
  rfl

theorem transmit_of_connect_ok {n : Nat} (h : connect c = (.ok (), next))
    (hwriter : next.writer = some n) :
    transmit kind (.ok bytes) c =
      (.ok (),
        { next with
          peer := next.peer.takeIn n bytes
          log := next.log ++ [Link.sentEvent c.endpoint kind bytes.length] }) := by
  have hlink : (link c.endpoint).connect c = (.ok (), next) := h
  simp only [transmit, onLink, Link.transmit, bind, StateT.bind, hlink]
  rcases next with ⟨endpoint, peer, reader, writer, log⟩
  cases hwriter
  rfl

end

theorem close_eq (c : Connection) : close c = ((), { c with reader := none, writer := none }) := by
  rcases c with ⟨endpoint, peer, reader, writer, log⟩
  cases writer with
  | none => rfl
  | some n => rfl

def takeReply : Bytes -> Except ConnectionError Bytes × Bytes
  | b0 :: b1 :: b2 :: b3 :: rest =>
      match Link.replySize b0 b1 b2 b3 with
      | .error error => (.error error, rest)
      | .ok size =>
          if rest.length < size then (.error .closed, [])
          else (.ok (rest.take size), rest.drop size)
  | _ => (.error .closed, [])

theorem receive_of_none {c : Connection} (h : c.reader = none) :
    receive c = (.error .notConnected, c) := by
  rcases c with ⟨endpoint, peer, reader, writer, log⟩
  cases h
  rfl

theorem readBytes_of_lt {unread : Bytes} {n : Nat} (h : unread.length < n) :
    readBytes unread n = (.error .closed, []) :=
  dif_neg (Nat.not_le.mpr h)

theorem readBytes_of_le {unread : Bytes} {n : Nat} (h : n ≤ unread.length) :
    readBytes unread n =
      (.ok ⟨(unread.take n).toArray, List.length_take_of_le h⟩, unread.drop n) :=
  dif_pos h

theorem readBytes_length (b0 b1 b2 b3 : UInt8) (rest : Bytes) :
    readBytes (b0 :: b1 :: b2 :: b3 :: rest) lengthSize = (.ok #v[b0, b1, b2, b3], rest) :=
  readBytes_of_le (Nat.le_add_left 4 rest.length)

theorem link_reader (endpoint : Endpoint) (c : Connection) :
    (link endpoint).reader c = (c.reader, c) :=
  rfl

theorem link_take (endpoint : Endpoint) (unread : Bytes) (n : Nat) (c : Connection) :
    (link endpoint).take unread n c =
      (readBytes unread n, { c with reader := some (readBytes unread n).2 }) :=
  rfl

theorem receive_of_short {c : Connection} {unread : Bytes} (h : c.reader = some unread)
    (hshort : unread.length < lengthSize) :
    receive c = (.error .closed, { c with reader := some [] }) := by
  rcases c with ⟨endpoint, peer, reader, writer, log⟩
  cases h
  simp only [receive, onLink, Link.receive, bind, StateT.bind, link_reader, link_take,
    readBytes_of_lt hshort]
  rfl

section

variable {c : Connection} {unread rest : Bytes} {length : Vector UInt8 lengthSize}

theorem receive_of_refused (h : c.reader = some unread)
    (hlength : readBytes unread lengthSize = (.ok length, rest)) {error : ConnectionError}
    (hsize : Link.replySize length[0] length[1] length[2] length[3] = .error error) :
    receive c = (.error error, { c with reader := some rest }) := by
  rcases c with ⟨endpoint, peer, reader, writer, log⟩
  cases h
  simp only [receive, onLink, Link.receive, bind, StateT.bind, link_reader, link_take, hlength,
    hsize]
  rfl

theorem receive_of_cut (h : c.reader = some unread)
    (hlength : readBytes unread lengthSize = (.ok length, rest)) {size : Nat}
    (hsize : Link.replySize length[0] length[1] length[2] length[3] = .ok size)
    (hcut : rest.length < size) :
    receive c = (.error .closed, { c with reader := some [] }) := by
  rcases c with ⟨endpoint, peer, reader, writer, log⟩
  cases h
  simp only [receive, onLink, Link.receive, bind, StateT.bind, link_reader, link_take, hlength,
    hsize, readBytes_of_lt hcut]
  rfl

theorem receive_of_whole (h : c.reader = some unread)
    (hlength : readBytes unread lengthSize = (.ok length, rest)) {size : Nat}
    (hsize : Link.replySize length[0] length[1] length[2] length[3] = .ok size)
    (hwhole : size ≤ rest.length) :
    receive c =
      (.ok (rest.take size),
        { c with
          reader := some (rest.drop size)
          log := c.log ++ [Link.receivedEvent c.endpoint size] }) := by
  rcases c with ⟨endpoint, peer, reader, writer, log⟩
  cases h
  simp only [receive, onLink, Link.receive, bind, StateT.bind, link_reader, link_take, hlength,
    hsize, readBytes_of_le hwhole]
  rfl

end

theorem receive_of_reader {c : Connection} {unread : Bytes} (h : c.reader = some unread) :
    (receive c).1 = (takeReply unread).1 ∧
      exists log, (receive c).2 = { c with reader := some (takeReply unread).2, log } := by
  match unread, h with
  | [], h | [_], h | [_, _], h | [_, _, _], h =>
      rw [receive_of_short h (Nat.le_of_ble_eq_true rfl)]
      exact ⟨rfl, c.log, rfl⟩
  | b0 :: b1 :: b2 :: b3 :: rest, h =>
      have hlength := readBytes_length b0 b1 b2 b3 rest
      rw [takeReply]
      cases hsize : Link.replySize b0 b1 b2 b3 with
      | error error =>
          rw [receive_of_refused h hlength hsize]
          exact ⟨rfl, c.log, rfl⟩
      | ok size =>
          dsimp only
          split
          · next hcut =>
              rw [receive_of_cut h hlength hsize hcut]
              exact ⟨rfl, c.log, rfl⟩
          · next hwhole =>
              rw [receive_of_whole h hlength hsize (Nat.not_lt.mp hwhole)]
              exact ⟨rfl, _, rfl⟩

/-!
## Steps and what the caller is told

A failure is reported with its error or, by the transport, with its message only.  Some steps need
a connection and open one if there is none.  What a step has sent and what it leaves unread is read
off the step and its outcome.
-/

inductive Route where
  | direct
  | transport
deriving DecidableEq, Repr

inductive Step where
  | connect
  | send (route : Route) (message : Message)
  | receive (route : Route)
  | close
deriving DecidableEq, Repr

inductive Report where
  | error (error : ConnectionError)
  | message (text : String)
deriving DecidableEq, Repr

inductive Answer where
  | done
  | reply (bytes : Bytes)
deriving DecidableEq, Repr

abbrev Outcome := Except Report Answer

def Route.report : Route -> ConnectionError -> Report
  | .direct, error => .error error
  | .transport, error => .message error.message

def Route.told (route : Route) (answer : α -> Answer) : Except ConnectionError α -> Outcome
  | .ok a => .ok (answer a)
  | .error error => .error (route.report error)

def worded (answer : α -> Answer) : Except String α -> Outcome
  | .ok a => .ok (answer a)
  | .error text => .error (.message text)

namespace Step

def run : Step -> StateM Connection Outcome
  | .connect => do
      let result ← Connection.connect
      return Route.direct.told (fun _ => .done) result
  | .send .direct message => do
      let result ← Connection.send message
      return Route.direct.told (fun _ => .done) result
  | .send .transport message => do
      let result ← transport.send message
      return worded (fun _ => .done) result
  | .receive .direct => do
      let result ← Connection.receive
      return Route.direct.told .reply result
  | .receive .transport => do
      let result ← transport.receive
      return worded .reply result
  | .close => do
      Connection.close
      return .ok .done

def opens : Step -> Bool
  | .connect => true
  | .send _ message => (encodeFrame message).isOk
  | .receive _ => false
  | .close => false

/-- What a step that is told `outcome` has sent: the frame of a message that was accepted. -/
def sent : Step -> Outcome -> Bytes
  | .send _ message, .ok _ => (encodeFrame message).toOption.getD []
  | _, _ => []

/-- What a step leaves of the bytes that are still to be read. -/
def leaves (unread : Bytes) : Step -> Bytes
  | .receive _ => (takeReply unread).2
  | _ => unread

end Step

/-!
## The transport

It does what the connection does, and words the errors.
-/

theorem transport_send (message : Message) (c : Connection) :
    transport.send message c =
      ((send message c).1.mapError ConnectionError.message, (send message c).2) :=
  rfl

theorem transport_receive (c : Connection) :
    transport.receive c =
      ((receive c).1.mapError ConnectionError.message, (receive c).2) :=
  rfl

theorem worded_mapError (answer : α -> Answer) (result : Except ConnectionError α) :
    worded answer (result.mapError ConnectionError.message) =
      Route.transport.told answer result := by
  cases result with
  | error error => rfl
  | ok a => rfl

theorem run_send (route : Route) (message : Message) (c : Connection) :
    (Step.send route message).run c =
      (route.told (fun _ => .done) (send message c).1, (send message c).2) := by
  cases route with
  | direct => rfl
  | transport =>
      show (worded _ (transport.send message c).1, (transport.send message c).2) = _
      rw [transport_send, worded_mapError]

theorem run_receive (route : Route) (c : Connection) :
    (Step.receive route).run c = (route.told .reply (receive c).1, (receive c).2) := by
  cases route with
  | direct => rfl
  | transport =>
      show (worded _ (transport.receive c).1, (transport.receive c).2) = _
      rw [transport_receive, worded_mapError]

/-!
## Frames that cannot be made

A message that is too large for a frame fails before anything is opened.
-/

theorem eq_payloadTooLarge {message : Message} {error : FrameError}
    (h : encodeFrame message = .error error) :
    error = .payloadTooLarge message.payload.length := by
  unfold encodeFrame announce at h
  by_cases hsize : message.payload.length + 1 ≤ maxLength
  · rw [if_pos hsize] at h
    cases h
  · rw [if_neg hsize] at h
    cases h
    rfl

theorem run_send_of_error {message : Message} {error : FrameError}
    (h : encodeFrame message = .error error) (route : Route) (c : Connection) :
    (Step.send route message).run c = (.error (route.report (.frame error)), c) := by
  rw [run_send, send_eq, h]
  rfl

theorem exists_frame_of_isOk {message : Message} (h : (encodeFrame message).isOk = true) :
    exists frame, encodeFrame message = .ok frame := by
  cases hframe : encodeFrame message with
  | error error =>
      rw [hframe] at h
      cases h
  | ok frame => exact ⟨frame, rfl⟩

theorem exists_error_of_not_isOk {message : Message}
    (h : (encodeFrame message).isOk = false) :
    exists error, encodeFrame message = .error error := by
  cases hframe : encodeFrame message with
  | error error => exact ⟨error, rfl⟩
  | ok frame =>
      rw [hframe] at h
      cases h

/-!
## Without halves

Only steps that open a connection change one that has no halves, and a peer that refuses keeps it
without halves.
-/

structure IsIdle (c : Connection) : Prop where
  reader : c.reader = none
  writer : c.writer = none

theorem isIdle_new (endpoint : Endpoint) (peer : Peer) : (new endpoint peer).IsIdle :=
  ⟨rfl, rfl⟩

theorem IsIdle.run_receive {c : Connection} (h : c.IsIdle) (route : Route) :
    (Step.receive route).run c = (.error (route.report .notConnected), c) := by
  rw [Connection.run_receive, receive_of_none h.reader]
  rfl

theorem IsIdle.run_close {c : Connection} (h : c.IsIdle) :
    Step.close.run c = (.ok .done, c) := by
  rcases c with ⟨endpoint, peer, reader, writer, log⟩
  rcases h with ⟨hreader, hwriter⟩
  cases hreader
  cases hwriter
  rfl

theorem IsIdle.run_of_not_opens {c : Connection} (h : c.IsIdle) {step : Step}
    (hstep : step.opens = false) : (step.run c).2 = c := by
  cases step with
  | connect => cases hstep
  | send route message =>
      rcases exists_error_of_not_isOk hstep with ⟨error, herror⟩
      rw [run_send_of_error herror]
  | receive route => rw [h.run_receive]
  | close => rw [h.run_close]

/-- What a caller is told by a step when every connection is refused for a reason. -/
def refusedOutcome (endpoint : Endpoint) (reason : String) : Step -> Outcome
  | .connect => .error (.error (.connectFailed endpoint reason))
  | .send route message =>
      match encodeFrame message with
      | .error error => .error (route.report (.frame error))
      | .ok _ => .error (route.report (.connectFailed endpoint reason))
  | .receive route => .error (route.report .notConnected)
  | .close => .ok .done

theorem IsIdle.run_of_refusal {c : Connection} {reason : String} (h : c.IsIdle)
    (hpeer : c.peer.refusal = some reason) (step : Step) :
    step.run c = (refusedOutcome c.endpoint reason step, c) := by
  have hconnect := connect_of_refusal h.writer hpeer
  cases step with
  | connect =>
      show (Route.direct.told _ (connect c).1, (connect c).2) = _
      rw [hconnect]
      rfl
  | send route message =>
      cases hframe : encodeFrame message with
      | error error =>
          rw [run_send_of_error hframe, refusedOutcome, hframe]
      | ok frame =>
          rw [run_send, send_eq, hframe, transmit_of_connect_error hconnect, refusedOutcome, hframe]
          rfl
  | receive route => exact h.run_receive route
  | close => exact h.run_close

/-!
## With both halves

Both halves belong to the latest connection of a peer that accepts.  The peer has taken in `taken`
on it, after `earlier` on those before, and `unread` is still to be read.
-/

structure IsOpen (c : Connection) (outgoing earlier : List Bytes) (taken unread : Bytes) :
    Prop where
  reader : c.reader = some unread
  writer : c.writer = some earlier.length
  peer : c.peer = ⟨none, outgoing, earlier ++ [taken]⟩

section

variable {c : Connection} {outgoing earlier : List Bytes} {taken unread : Bytes}

theorem modify_latest (earlier : List Bytes) (taken bytes : Bytes) :
    (earlier ++ [taken]).modify earlier.length (· ++ bytes) = earlier ++ [taken ++ bytes] := by
  induction earlier with
  | nil => rfl
  | cons first earlier ih =>
      show first :: (earlier ++ [taken]).modify earlier.length (· ++ bytes) = _
      rw [ih]
      rfl

theorem IsOpen.connect_eq (h : c.IsOpen outgoing earlier taken unread) :
    connect c = (.ok (), c) :=
  connect_of_writer h.writer

theorem IsOpen.transmit (h : c.IsOpen outgoing earlier taken unread) (kind : Kind)
    (bytes : Bytes) :
    (transmit kind (.ok bytes) c).1 = .ok () ∧
      (transmit kind (.ok bytes) c).2.IsOpen outgoing earlier (taken ++ bytes) unread := by
  rw [transmit_of_connect_ok h.connect_eq h.writer]
  refine ⟨rfl, ⟨h.reader, h.writer, ?_⟩⟩
  show c.peer.takeIn earlier.length bytes = _
  rw [h.peer, Peer.takeIn, modify_latest]

theorem IsOpen.run_send (h : c.IsOpen outgoing earlier taken unread) {message : Message}
    {frame : Bytes} (hframe : encodeFrame message = .ok frame) (route : Route) :
    ((Step.send route message).run c).1 = .ok .done ∧
      ((Step.send route message).run c).2.IsOpen outgoing earlier (taken ++ frame) unread := by
  rw [Connection.run_send, send_eq, hframe]
  rcases h.transmit message.kind frame with ⟨hresult, hopen⟩
  rw [hresult]
  exact ⟨rfl, hopen⟩

theorem IsOpen.receive (h : c.IsOpen outgoing earlier taken unread) :
    (receive c).1 = (takeReply unread).1 ∧
      (receive c).2.IsOpen outgoing earlier taken (takeReply unread).2 := by
  rcases receive_of_reader h.reader with ⟨hresult, log, hnext⟩
  rw [hnext]
  exact ⟨hresult, ⟨rfl, h.writer, h.peer⟩⟩

theorem IsOpen.run_receive (h : c.IsOpen outgoing earlier taken unread) (route : Route) :
    ((Step.receive route).run c).1 = route.told .reply (takeReply unread).1 ∧
      ((Step.receive route).run c).2.IsOpen outgoing earlier taken (takeReply unread).2 := by
  rcases h.receive with ⟨hresult, hopen⟩
  rw [Connection.run_receive, hresult]
  exact ⟨rfl, hopen⟩

theorem IsOpen.run_close (h : c.IsOpen outgoing earlier taken unread) :
    (Step.close.run c).2.IsIdle ∧
      (Step.close.run c).2.peer = ⟨none, outgoing, earlier ++ [taken]⟩ := by
  show (close c).2.IsIdle ∧ (close c).2.peer = _
  rw [close_eq]
  exact ⟨⟨rfl, rfl⟩, h.peer⟩

/-- Every step but a close goes on with the connection that is open. -/
theorem IsOpen.run (h : c.IsOpen outgoing earlier taken unread) {step : Step}
    (hstep : step ≠ .close) :
    (step.run c).2.IsOpen outgoing earlier (taken ++ step.sent (step.run c).1)
      (step.leaves unread) := by
  cases step with
  | connect =>
      show (connect c).2.IsOpen outgoing earlier (taken ++ []) unread
      rw [h.connect_eq, List.append_nil]
      exact h
  | send route message =>
      cases hframe : encodeFrame message with
      | error error =>
          rw [run_send_of_error hframe]
          show c.IsOpen outgoing earlier (taken ++ []) unread
          rw [List.append_nil]
          exact h
      | ok frame =>
          rcases h.run_send hframe route with ⟨hresult, hopen⟩
          rw [hresult, Step.sent, hframe]
          exact hopen
  | receive route =>
      have hopen := (h.run_receive route).2
      rw [← List.append_nil taken] at hopen
      exact hopen
  | close => exact absurd rfl hstep

theorem IsOpen.run_of_opens (h : c.IsOpen outgoing earlier taken unread) {step : Step}
    (hstep : step.opens = true) : (step.run c).1 = .ok .done := by
  cases step with
  | connect =>
      show Route.direct.told _ (connect c).1 = _
      rw [h.connect_eq]
      rfl
  | send route message =>
      rcases exists_frame_of_isOk hstep with ⟨frame, hframe⟩
      exact (h.run_send hframe route).1
  | receive route => cases hstep
  | close => cases hstep

/-!
## Opening

Sending first connects, and does on the connection that this opens what it does on an open one.
-/

theorem IsIdle.connect {received : List Bytes} (h : c.IsIdle)
    (hpeer : c.peer = ⟨none, outgoing, received⟩) :
    (connect c).1 = .ok () ∧
      (connect c).2.IsOpen outgoing.tail received [] (outgoing.headD []) := by
  have hrefusal : c.peer.refusal = none := by rw [hpeer]
  rw [connect_of_accepting h.writer hrefusal, hpeer]
  exact ⟨rfl, ⟨rfl, rfl, rfl⟩⟩

theorem IsIdle.transmit_eq {received : List Bytes} (h : c.IsIdle)
    (hpeer : c.peer = ⟨none, outgoing, received⟩) (kind : Kind) (bytes : Bytes) :
    transmit kind (.ok bytes) c = transmit kind (.ok bytes) (Connection.connect c).2 := by
  rcases h.connect hpeer with ⟨hresult, hopen⟩
  have hconnect : Connection.connect c = (.ok (), (Connection.connect c).2) :=
    Prod.ext hresult rfl
  rw [transmit_of_connect_ok hconnect hopen.writer,
    transmit_of_connect_ok hopen.connect_eq hopen.writer, endpoint_connect]

/-- A step that opens a connection succeeds, and begins a connection of its own. -/
theorem IsIdle.run_of_opens {received : List Bytes} (h : c.IsIdle)
    (hpeer : c.peer = ⟨none, outgoing, received⟩) {step : Step} (hstep : step.opens = true) :
    (step.run c).1 = .ok .done ∧
      (step.run c).2.IsOpen outgoing.tail received (step.sent (step.run c).1)
        (outgoing.headD []) := by
  rcases h.connect hpeer with ⟨hresult, hopen⟩
  cases step with
  | connect =>
      refine ⟨?_, hopen⟩
      show Route.direct.told _ (Connection.connect c).1 = _
      rw [hresult]
      rfl
  | send route message =>
      rcases exists_frame_of_isOk hstep with ⟨frame, hframe⟩
      have hrun : (Step.send route message).run c =
          (Step.send route message).run (Connection.connect c).2 := by
        rw [run_send, run_send, send_eq, send_eq, hframe, h.transmit_eq hpeer]
      rcases hopen.run_send hframe route with ⟨hanswer, hsent⟩
      rw [hrun, hanswer, Step.sent, hframe]
      exact ⟨rfl, hsent⟩
  | receive route => cases hstep
  | close => cases hstep

end

/-!
## Endpoint and peer

No step changes the endpoint.  The peer is changed by messages only, if it accepts connections.
-/

theorem endpoint_send (message : Message) (c : Connection) :
    (send message c).2.endpoint = c.endpoint := by
  rw [send_eq]
  cases encodeFrame message with
  | error error => rfl
  | ok frame =>
      rcases connect_cases c with ⟨error, hconnect⟩ | ⟨next, n, hconnect, hwriter, hendpoint⟩
      · rw [transmit_of_connect_error hconnect]
      · rw [transmit_of_connect_ok hconnect hwriter]
        exact hendpoint

theorem exists_receive_eq (c : Connection) :
    exists reader log, (receive c).2 = { c with reader, log } := by
  cases hreader : c.reader with
  | none => exact ⟨c.reader, c.log, by rw [receive_of_none hreader]⟩
  | some unread =>
      rcases receive_of_reader hreader with ⟨_, log, hnext⟩
      exact ⟨_, log, hnext⟩

theorem endpoint_receive (c : Connection) : (receive c).2.endpoint = c.endpoint := by
  rcases exists_receive_eq c with ⟨reader, log, h⟩
  rw [h]

theorem peer_receive (c : Connection) : (receive c).2.peer = c.peer := by
  rcases exists_receive_eq c with ⟨reader, log, h⟩
  rw [h]

theorem endpoint_close (c : Connection) : (close c).2.endpoint = c.endpoint := by
  rw [close_eq]

theorem peer_close (c : Connection) : (close c).2.peer = c.peer := by
  rw [close_eq]

end Connection

namespace Peer

/-- The peer after it has taken in a frame, and nothing else, on a connection of its own. -/
def delivered (p : Peer) (frame : Bytes) : Peer :=
  { p with outgoing := p.outgoing.tail, received := p.received ++ [frame] }

def called (p : Peer) (message : Message) : Peer :=
  match p.refusal, encodeFrame message with
  | none, .ok frame => p.delivered frame
  | _, _ => p

theorem called_of_refusal {p : Peer} {reason : String} (h : p.refusal = some reason)
    (message : Message) : p.called message = p := by
  rw [called, h]

theorem called_of_error {message : Message} {error : FrameError}
    (h : encodeFrame message = .error error) (p : Peer) : p.called message = p := by
  rw [called, h]
  split
  · next hframe => cases hframe
  · rfl

theorem called_of_ok {p : Peer} {message : Message} {frame : Bytes} (hpeer : p.refusal = none)
    (hframe : encodeFrame message = .ok frame) : p.called message = p.delivered frame := by
  rw [called, hpeer, hframe]

end Peer

theorem Connection.IsIdle.peer_send {c : Connection} (h : c.IsIdle) (message : Message) :
    (send message c).2.peer = c.peer.called message := by
  have hrun : ((Step.send .direct message).run c).2 = (send message c).2 := rfl
  rw [← hrun]
  cases hframe : encodeFrame message with
  | error error => rw [run_send_of_error hframe, Peer.called_of_error hframe]
  | ok frame =>
      cases hrefusal : c.peer.refusal with
      | some reason => rw [h.run_of_refusal hrefusal, Peer.called_of_refusal hrefusal]
      | none =>
          have hpeer : c.peer = ⟨none, c.peer.outgoing, c.peer.received⟩ := by rw [← hrefusal]
          have hopens : (Step.send .direct message).opens = true := by
            rw [Step.opens, hframe]
            rfl
          rcases h.run_of_opens hpeer hopens with ⟨hanswer, hopen⟩
          rw [hopen.peer, hanswer, Step.sent, hframe, Peer.called_of_ok hrefusal hframe,
            Peer.delivered, hrefusal]
          rfl

end RaceTape
