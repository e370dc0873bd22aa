import RaceTape.CommandLine.Arguments
import RaceTape.Delivery.Transport
import RaceTape.Endpoint
import RaceTape.Log.Filter
import RaceTape.Settings.Files

/-!
# Hosts

What the program needs from the machine it runs on.
-/

namespace RaceTape
namespace CommandLine

/-- What the readers of arguments and of documents say; the program passes it on. -/
structure Wording where
  help : List String
  usage : UsageError -> String
  /-- What is said of a text that is no document, or sets a key to a value of the wrong kind. -/
  documentFault : String

def Wording.empty : Wording :=
  { help := [], usage := fun _ => "", documentFault := "" }

structure Host (m : Type -> Type) where
  wording : m Wording
  /-- The value of an environment variable. -/
  lookup : String -> m (Option String)
  /-- The text of a file. -/
  read : String -> m (Except FileFault String)
  /-- Makes a file or replaces what it holds. -/
  write : String -> Bytes -> m (Except FileFault Unit)
  /-- Starts the log, which lets through what the filter allows. -/
  openLog : Log.Filter -> m Unit
  /-- Logs an event if the log has been started. -/
  note : Log.Event -> m Unit
  /-- The way to the control module at an endpoint, with a limit in milliseconds for connecting. -/
  transport : Endpoint -> UInt64 -> Delivery.Transport m
  /-- Closes that way. -/
  hangUp : Endpoint -> UInt64 -> m Unit
  /-- Writes a line of output. -/
  print : String -> m Unit
  /-- Writes text to the output for errors. -/
  complain : String -> m Unit

end CommandLine
end RaceTape
