import RaceTape.Log.Event
import RaceTape.Wire.Message

/-!
# Transports

A way to the control module: it sends messages, receives replies, and keeps a log.  The
recorder is the transport that sends nothing and remembers everything.
-/

namespace RaceTape
namespace Delivery

open Wire

structure Transport (m : Type -> Type) where
  send : Message -> m (Except String Unit)
  receive : m (Except String Bytes)
  note : Log.Event -> m Unit

/-- Notes events in order. -/
def Transport.noteAll [Monad m] (t : Transport m) : List Log.Event -> m Unit
  | [] => pure ()
  | event :: rest => do
      t.note event
      t.noteAll rest

/--
What a recorder remembers: the messages sent, the log, the replies that wait to be
received, and the reason for which every message is refused, if there is one.
-/
structure Recorder where
  sent : List Message
  log : List Log.Event
  replies : List Bytes
  refusal : Option String
deriving Repr

namespace Recorder

def empty : Recorder :=
  { sent := [], log := [], replies := [], refusal := none }

/-- What is said when no reply waits. -/
def endOfReplies : String := "connection closed"

def send (message : Message) : StateM Recorder (Except String Unit) := fun r =>
  match r.refusal with
  | some reason => (.error reason, r)
  | none => (.ok (), { r with sent := r.sent ++ [message] })

def receive : StateM Recorder (Except String Bytes) := fun r =>
  match r.replies with
  | [] => (.error endOfReplies, r)
  | reply :: rest => (.ok reply, { r with replies := rest })

def note (event : Log.Event) : StateM Recorder Unit := fun r =>
  ((), { r with log := r.log ++ [event] })

def transport : Transport (StateM Recorder) :=
  { send, receive, note }

/-- Puts a reply behind those that wait. -/
def queue (r : Recorder) (reply : Bytes) : Recorder :=
  { r with replies := r.replies ++ [reply] }

/-- From now on every message is refused for a reason, or none is. -/
def refuse (r : Recorder) (reason : Option String) : Recorder :=
  { r with refusal := reason }

end Recorder

end Delivery
end RaceTape
