import RaceTape.Link

/-!
# Connections

A connection to a peer that follows a script: it sends fixed bytes on each connection, then
nothing more, and keeps what it is sent.
-/

namespace RaceTape

open Wire

/-- The other side of connections. -/
structure Peer where
  /-- Why connections are refused, if they are. -/
  refusal : Option String
  /-- What is sent on the connections to come, the next one first. -/
  outgoing : List Bytes
  /-- What was received on the connections so far, the latest one last. -/
  received : List Bytes
deriving Repr

namespace Peer

def refused : String := "Connection refused (os error 111)"

/-- Accepts connections and sends the given bytes on them, one entry for each. -/
def accepting (outgoing : List Bytes) : Peer :=
  { refusal := none, outgoing, received := [] }

def refusing : Peer :=
  { refusal := some refused, outgoing := [], received := [] }

/-- Takes bytes on connection `n`, counted from zero. -/
def takeIn (p : Peer) (n : Nat) (bytes : Bytes) : Peer :=
  { p with received := p.received.modify n (· ++ bytes) }

end Peer

/-- A link to a peer, as a value. -/
structure Connection where
  endpoint : Endpoint
  peer : Peer
  /-- What the reading half has still to read of what the peer sends. -/
  reader : Option Bytes
  /-- The connection of the peer, counted from zero, to which the writing half leads. -/
  writer : Option Nat
  log : List Log.Event
deriving Repr

namespace Connection

def new (endpoint : Endpoint) (peer : Peer) : Connection :=
  { endpoint, peer, reader := none, writer := none, log := [] }

def noteEvent (c : Connection) (event : Log.Event) : Connection :=
  { c with log := c.log ++ [event] }

/-- Calls the peer, which accepts or refuses. -/
def dial : StateM Connection (Except ConnectionError (Bytes × Nat)) := fun c =>
  match c.peer.refusal with
  | some reason => (.error (.connectFailed c.endpoint reason), c)
  | none =>
      let peer :=
        { c.peer with
          outgoing := c.peer.outgoing.tail
          received := c.peer.received ++ [[]] }
      (.ok (c.peer.outgoing.headD [], c.peer.received.length), { c with peer })

/-- The first `n` of the bytes that the peer has sent before it ended, and the rest. -/
def readBytes (unread : Bytes) (n : Nat) : Except ConnectionError (Vector UInt8 n) × Bytes :=
  if h : n ≤ unread.length then
    (.ok ⟨(unread.take n).toArray, List.length_take_of_le h⟩, unread.drop n)
  else (.error .closed, [])

def link (endpoint : Endpoint) : Link (StateM Connection) Bytes Nat :=
  { endpoint
    reader := fun c => (c.reader, c)
    setReader := fun reader c => ((), { c with reader })
    writer := fun c => (c.writer, c)
    setWriter := fun writer c => ((), { c with writer })
    dial
    write := fun n bytes c => (.ok (), { c with peer := c.peer.takeIn n bytes })
    read := fun unread n c => (readBytes unread n, c)
    shutDown := fun _ c => (none, c)
    note := fun event c => ((), c.noteEvent event) }

/-- Does what is to be done on the link of a connection. -/
def onLink (action : Link (StateM Connection) Bytes Nat -> StateM Connection α) :
    StateM Connection α := fun c =>
  action (link c.endpoint) c

def connect : StateM Connection (Except ConnectionError Unit) :=
  onLink fun l => l.connect

def transmit (kind : Kind) (frame : Except FrameError Bytes) :
    StateM Connection (Except ConnectionError Unit) :=
  onLink fun l => l.transmit kind frame

def send (message : Message) : StateM Connection (Except ConnectionError Unit) :=
  onLink fun l => l.send message

def receive : StateM Connection (Except ConnectionError Bytes) :=
  onLink fun l => l.receive

def close : StateM Connection Unit :=
  onLink fun l => l.close

def transport : Delivery.Transport (StateM Connection) :=
  { send := fun message => onLink fun l => l.transport.send message
    receive := onLink fun l => l.transport.receive
    note := fun event => onLink fun l => l.transport.note event }

end Connection

end RaceTape
