import RaceTape.Delivery.Transport
import RaceTape.Endpoint
import RaceTape.Wire.Frame

/-!
# Links

The way to the control module at a fixed endpoint, over whatever can dial, read and write.
It is opened by the first message or on request, and stays open until it is closed.  The
reading and the writing half are kept apart; each is there or not.
-/

namespace RaceTape

open Wire

/-- The largest reply that is taken in. -/
def maxReplySize : Nat := 16 * 1024 * 1024

inductive ConnectionError where
  | connectFailed (endpoint : Endpoint) (reason : String)
  | timedOut (endpoint : Endpoint) (milliseconds : UInt64)
  /-- A fault of an open connection, as the system words it. -/
  | interrupted (reason : String)
  | frame (error : FrameError)
  | replyTooLarge (size : Nat)
  | notConnected
  | closed
deriving DecidableEq, Repr

/-- A time in the largest of seconds and milliseconds that it reaches. -/
def durationText (milliseconds : UInt64) : String :=
  let n := milliseconds.toNat
  if n = 0 then "0ns"
  else if n < 1000 then toString n ++ "ms"
  else
    let thousandths := (toString (1000 + n % 1000)).toList.tail
    let places := (thousandths.reverse.dropWhile fun c => c = '0').reverse
    let fraction := if places.isEmpty then "" else "." ++ String.ofList places
    toString (n / 1000) ++ fraction ++ "s"

def ConnectionError.message : ConnectionError -> String
  | .connectFailed endpoint reason =>
      "failed to connect to control module at " ++ endpoint.text ++ ": " ++ reason
  | .timedOut endpoint milliseconds =>
      "timed out after " ++ durationText milliseconds ++ " connecting to control module at " ++
        endpoint.text
  | .interrupted reason => "connection I/O error: " ++ reason
  | .frame error => "framing error: " ++ error.message
  | .replyTooLarge size => "reply of " ++ toString size ++ " bytes exceeds the 16 MiB limit"
  | .notConnected => "not connected"
  | .closed => "connection closed by control module"

/-- What a link needs: a place for each half, and a system that knows what to do with them. -/
structure Link (m : Type -> Type) (Reader Writer : Type) where
  endpoint : Endpoint
  reader : m (Option Reader)
  setReader : Option Reader -> m Unit
  writer : m (Option Writer)
  setWriter : Option Writer -> m Unit
  /-- Makes both halves. -/
  dial : m (Except ConnectionError (Reader × Writer))
  write : Writer -> Bytes -> m (Except ConnectionError Unit)
  /-- Reads so many bytes, and gives the half back as it is afterwards. -/
  read : Reader -> (n : Nat) -> m (Except ConnectionError (Vector UInt8 n) × Reader)
  /-- Ends what is written, or fails for a reason. -/
  shutDown : Writer -> m (Option String)
  note : Log.Event -> m Unit

namespace Link

def connectedEvent (endpoint : Endpoint) : Log.Event :=
  { level := .info
    part := .connection
    message := "connected to control module at " ++ endpoint.text }

def sentEvent (endpoint : Endpoint) (kind : Kind) (size : Nat) : Log.Event :=
  { level := .debug
    part := .connection
    message :=
      "sent " ++ kind.name ++ " frame (" ++ toString size ++ " bytes) to " ++ endpoint.text }

def receivedEvent (endpoint : Endpoint) (size : Nat) : Log.Event :=
  { level := .debug
    part := .connection
    message := "received reply (" ++ toString size ++ " bytes) from " ++ endpoint.text }

def shutDownEvent (endpoint : Endpoint) (reason : String) : Log.Event :=
  { level := .debug
    part := .connection
    message := "shutdown of connection to " ++ endpoint.text ++ " failed: " ++ reason }

/-- The size that a reply announces, if it is one that is taken in. -/
def replySize (b0 b1 b2 b3 : UInt8) : Except ConnectionError Nat :=
  match parseLength b0 b1 b2 b3 with
  | .error error => .error (.frame error)
  | .ok size => if maxReplySize < size then .error (.replyTooLarge size) else .ok size

variable {m : Type -> Type} [Monad m] {Reader Writer : Type} (l : Link m Reader Writer)

/-- Dials unless there is a writing half. -/
def connect : m (Except ConnectionError Unit) := do
  match ← l.writer with
  | some _ => return .ok ()
  | none =>
      match ← l.dial with
      | .error error => return .error error
      | .ok (reader, writer) =>
          l.setReader (some reader)
          l.setWriter (some writer)
          l.note (connectedEvent l.endpoint)
          return .ok ()

/-- Sends a frame that has been made, or fails without connecting if none could be. -/
def transmit (kind : Kind) (frame : Except FrameError Bytes) :
    m (Except ConnectionError Unit) := do
  match frame with
  | .error error => return .error (.frame error)
  | .ok bytes =>
      match ← l.connect with
      | .error error => return .error error
      | .ok () =>
          match ← l.writer with
          | none => return .error .notConnected
          | some writer =>
              match ← l.write writer bytes with
              | .error error => return .error error
              | .ok () =>
                  l.note (sentEvent l.endpoint kind bytes.length)
                  return .ok ()

/-- Sends a message, and connects first if that is needed. -/
def send (message : Message) : m (Except ConnectionError Unit) :=
  l.transmit message.kind (encodeFrame message)

/-- Reads so many bytes from a reading half, and keeps it. -/
def take (reader : Reader) (n : Nat) : m (Except ConnectionError (Vector UInt8 n) × Reader) := do
  let (result, reader) ← l.read reader n
  l.setReader (some reader)
  return (result, reader)

/-- Reads one reply. -/
def receive : m (Except ConnectionError Bytes) := do
  match ← l.reader with
  | none => return .error .notConnected
  | some reader =>
      match ← l.take reader lengthSize with
      | (.error error, _) => return .error error
      | (.ok length, reader) =>
          match replySize length[0] length[1] length[2] length[3] with
          | .error error => return .error error
          | .ok size =>
              match ← l.take reader size with
              | (.error error, _) => return .error error
              | (.ok reply, _) =>
                  l.note (receivedEvent l.endpoint size)
                  return .ok reply.toList

/-- Ends what is written, if there is a writing half, and drops it. -/
def closeWriter : m Unit := do
  match ← l.writer with
  | none => return ()
  | some writer =>
      l.setWriter none
      match ← l.shutDown writer with
      | none => return ()
      | some reason => l.note (shutDownEvent l.endpoint reason)

/-- Drops both halves. -/
def close : m Unit := do
  l.closeWriter
  l.setReader none

/-- The link as a transport, whose errors are their messages. -/
def transport : Delivery.Transport m :=
  { send := fun message => do
      return (← l.send message).mapError ConnectionError.message
    receive := do
      return (← l.receive).mapError ConnectionError.message
    note := l.note }

end Link

end RaceTape
