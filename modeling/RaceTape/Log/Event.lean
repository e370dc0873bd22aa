/-!
# Log events

What the program reports about its work, as data: a level, the part of the program that
speaks, and the message.
-/

namespace RaceTape

namespace Log

/-- Levels of detail, from the gravest to the finest. -/
inductive Level where
  | error
  | warn
  | info
  | debug
  | trace
deriving DecidableEq, Repr

namespace Level

/-- Larger for finer levels. -/
def rank : Level -> Nat
  | .error => 1
  | .warn => 2
  | .info => 3
  | .debug => 4
  | .trace => 5

def name : Level -> String
  | .error => "ERROR"
  | .warn => "WARN"
  | .info => "INFO"
  | .debug => "DEBUG"
  | .trace => "TRACE"

end Level

/-- The parts of the program that write to the log. -/
inductive Part where
  | header
  | timeline
  | tape
  | compiler
  | delivery
  | connection
  | settings
  | commandLine
deriving DecidableEq, Repr

/-- The path by which a part is shown in the log and chosen by log filters. -/
def Part.path : Part -> String
  | .header => "tas_core::script::header"
  | .timeline => "tas_core::script::framebulk"
  | .tape => "tas_core::script"
  | .compiler => "tas_core::compiler"
  | .delivery => "tas_client::application::send_script"
  | .connection => "tas_client::infrastructure::network"
  | .settings => "tas_client::infrastructure::storage::config"
  | .commandLine => "tas_client"

structure Event where
  level : Level
  part : Part
  message : String
deriving DecidableEq, Repr

end Log

end RaceTape
