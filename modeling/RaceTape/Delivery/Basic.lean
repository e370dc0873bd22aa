import RaceTape.Delivery.Transport
import RaceTape.Tape.Basic

/-!
# Delivery

Compiles a tape and hands its payload to a transport, asks the control module to unload
itself, and waits for replies.  A tape is compiled before the transport is used, so a
rejected tape sends nothing.
-/

namespace RaceTape
namespace Delivery

open Wire

inductive DeliveryError where
  | rejected (fault : Fault)
  | transport (reason : String)
deriving DecidableEq, Repr

def DeliveryError.message : DeliveryError -> String
  | .rejected fault => "script rejected: " ++ fault.message
  | .transport reason => "transport error: " ++ reason

def info (message : String) : Log.Event :=
  { level := .info, part := .delivery, message }

def warningEvent (w : Warning) : Log.Event :=
  { level := .warn, part := .delivery, message := w.message }

variable {m : Type -> Type} [Monad m]

/-- Compiles a tape and sends its payload. -/
def sendTape (t : Transport m) (sentinel source : String) :
    m (Except DeliveryError Compiled) := do
  t.noteAll (Compiled.events sentinel source)
  match Compiled.ofSource sentinel source with
  | .error fault => return .error (.rejected fault)
  | .ok compiled =>
      t.noteAll (compiled.tape.warnings.map warningEvent)
      match ← t.send (.script compiled.payload) with
      | .error reason => return .error (.transport reason)
      | .ok () =>
          t.note (info ("sent script payload (" ++ toString compiled.payload.length ++ " bytes)"))
          return .ok compiled

/-- Asks the control module to unload itself. -/
def unload (t : Transport m) : m (Except DeliveryError Unit) := do
  match ← t.send .unload with
  | .error reason => return .error (.transport reason)
  | .ok () =>
      t.note (info "sent unload request")
      return .ok ()

/-- Waits for one reply. -/
def awaitReply (t : Transport m) : m (Except DeliveryError Bytes) := do
  match ← t.receive with
  | .error reason => return .error (.transport reason)
  | .ok reply =>
      t.note (info ("received reply (" ++ toString reply.length ++ " bytes)"))
      return .ok reply

end Delivery
end RaceTape
