import RaceTape.CommandLine.Host
import RaceTape.Connection

/-!
# Worlds

A machine as a value: its environment and files, the peer that listens at one endpoint, and
all that the program has written.  Running the program on a world is a function, so what it
does to files and peers can be stated and proved.
-/

namespace RaceTape
namespace CommandLine

structure World where
  wording : Wording
  environment : List (String × String)
  files : FileTree
  /-- The one endpoint at which connections are accepted. -/
  listener : Endpoint
  peer : Peer
  /-- The way to the control module, once it has been used. -/
  connection : Option Connection
  filter : Option Log.Filter
  log : List Log.Event
  output : List String
  errors : String

namespace World

def new (environment : List (String × String)) (files : FileTree) (listener : Endpoint)
    (peer : Peer) : World :=
  { wording := .empty
    environment
    files
    listener
    peer
    connection := none
    filter := none
    log := []
    output := []
    errors := "" }

/-- Logs an event that the filter allows. -/
def addEvent (w : World) (e : Log.Event) : World :=
  match w.filter with
  | none => w
  | some filter => if filter.allows e then { w with log := w.log ++ [e] } else w

/-- The connection in use, or a new one to the given endpoint. -/
def connectionTo (w : World) (endpoint : Endpoint) : Connection :=
  match w.connection with
  | some c => c
  | none => Connection.new endpoint (if endpoint = w.listener then w.peer else Peer.refusing)

/-- Takes the connection back after use, with its peer and its events. -/
def keep (w : World) (c : Connection) : World :=
  let w := { w with connection := some { c with log := [] } }
  let w := if c.endpoint = w.listener then { w with peer := c.peer } else w
  c.log.foldl addEvent w

/-- Uses the connection to an endpoint. -/
def onConnection (endpoint : Endpoint) (action : StateM Connection α) : StateM World α :=
  fun w =>
    let (a, c) := action (w.connectionTo endpoint)
    (a, w.keep c)

def note (e : Log.Event) : StateM World Unit := fun w =>
  ((), w.addEvent e)

def transport (endpoint : Endpoint) : Delivery.Transport (StateM World) :=
  { send := fun message => onConnection endpoint (Connection.transport.send message)
    receive := onConnection endpoint Connection.transport.receive
    note }

def write (path : String) (bytes : Bytes) : StateM World (Except FileFault Unit) := fun w =>
  match w.files.write path bytes with
  | .ok files => (.ok (), { w with files })
  | .error fault => (.error fault, w)

def hangUp : StateM World Unit := fun w =>
  match w.connection with
  | none => ((), w)
  | some c => ((), w.keep (Connection.close c).2)

def host : Host (StateM World) :=
  { wording := fun w => (w.wording, w)
    lookup := fun name w => (w.environment.lookup name, w)
    read := fun path w => (w.files.readText path, w)
    write
    openLog := fun filter w => ((), { w with filter := some filter })
    note
    transport := fun endpoint _ => transport endpoint
    hangUp := fun _ _ => hangUp
    print := fun line w => ((), { w with output := w.output ++ [line] })
    complain := fun text w => ((), { w with errors := w.errors ++ text }) }

end World

end CommandLine
end RaceTape
