import RaceTape.CommandLine.Host
import RaceTape.CommandLine.Settings
import RaceTape.Delivery.Basic
import RaceTape.Settings.Load
import RaceTape.Tape.Dump

/-!
# Running the command line

The program as a whole: it reads its arguments, finds its settings, starts the log and
carries the command out.  The exit status is zero for success, one for a failure and two
for arguments that make no sense.
-/

namespace RaceTape
namespace CommandLine

variable {m : Type -> Type} [Monad m]

def info (message : String) : Log.Event :=
  { level := .info, part := .commandLine, message }

def errorEvent (f : Failure) : Log.Event :=
  { level := .error, part := .commandLine, message := f.inLine }

def warningEvent (w : Warning) : Log.Event :=
  { level := .warn, part := .commandLine, message := w.message }

def deliveryFailure (what : String) (e : Delivery.DeliveryError) : Failure :=
  match e with
  | .rejected fault => { what, causes := [e.message, fault.message] }
  | .transport _ => { what, causes := [e.message] }

def counted (n : Nat) (what : String) : String :=
  toString n ++ " " ++ what

def Host.noteAll (host : Host m) : List Log.Event -> m Unit
  | [] => pure ()
  | event :: rest => do
      host.note event
      host.noteAll rest

/-!
## Commands
-/

def readScript (host : Host m) (path : String) : m (Except Failure String) := do
  match ← host.read path with
  | .ok source => return .ok source
  | .error fault =>
      return .error { what := "failed to read script " ++ path, causes := [fault.message] }

/-- Waits for a reply and logs it. -/
def reportReply (host : Host m) (settings : Settings) : m (Except Failure Unit) := do
  let transport := host.transport settings.endpoint settings.connectTimeoutMs
  match ← Delivery.awaitReply transport with
  | .error e => return .error (deliveryFailure "no reply from control module" e)
  | .ok reply =>
      let text := String.ofList (Text.Utf8.decodeLossy reply)
      host.note (info ("control module replied: " ++ text))
      return .ok ()

def send (host : Host m) (settings : Settings) (awaitReply : Bool) :
    m (Except Failure Unit) := do
  let path := settings.scriptPath
  match ← readScript host path with
  | .error failure => return .error failure
  | .ok source =>
      let transport := host.transport settings.endpoint settings.connectTimeoutMs
      match ← Delivery.sendTape transport settings.sentinel source with
      | .error e => return .error (deliveryFailure ("failed to deliver " ++ path) e)
      | .ok compiled =>
          let tape := compiled.tape
          host.note (info ("script " ++ path ++ " delivered: " ++
            counted tape.framebulks.length "framebulks" ++ ", " ++
            counted tape.warnings.length "warnings"))
          if awaitReply then
            match ← reportReply host settings with
            | .error failure => return .error failure
            | .ok () =>
                host.hangUp settings.endpoint settings.connectTimeoutMs
                return .ok ()
          else
            host.hangUp settings.endpoint settings.connectTimeoutMs
            return .ok ()

/-- Writes a file if a path is given, and logs that it was written. -/
def writeOutput (host : Host m) (path : Option String) (bytes : Bytes)
    (what : String) (done : String -> String) : m (Except Failure Unit) := do
  match path with
  | none => return .ok ()
  | some path =>
      match ← host.write path bytes with
      | .error fault =>
          return .error
            { what := "failed to write " ++ what ++ " to " ++ path, causes := [fault.message] }
      | .ok () =>
          host.note (info (done path))
          return .ok ()

def compile (host : Host m) (settings : Settings) (output document : Option String) :
    m (Except Failure Unit) := do
  let path := settings.scriptPath
  match ← readScript host path with
  | .error failure => return .error failure
  | .ok source =>
      host.noteAll (Compiled.events settings.sentinel source)
      match Compiled.ofSource settings.sentinel source with
      | .error fault =>
          return .error { what := "failed to compile " ++ path, causes := [fault.message] }
      | .ok compiled =>
          host.noteAll (compiled.tape.warnings.map warningEvent)
          let size := compiled.payload.length
          let written ← writeOutput host output compiled.payload "payload" fun p =>
            "wrote " ++ counted size "payload bytes" ++ " to " ++ p
          match written with
          | .error failure => return .error failure
          | .ok () =>
              let text := Text.Utf8.ofString compiled.tape.document.pretty
              let dumped ← writeOutput host document text "JSON" fun p =>
                "wrote parsed script to " ++ p
              match dumped with
              | .error failure => return .error failure
              | .ok () =>
                  host.note (info ("compiled " ++ path ++ ": " ++
                    counted compiled.tape.framebulks.length "framebulks" ++ ", " ++
                    counted size "payload bytes"))
                  return .ok ()

def unload (host : Host m) (settings : Settings) : m (Except Failure Unit) := do
  let transport := host.transport settings.endpoint settings.connectTimeoutMs
  match ← Delivery.unload transport with
  | .error e => return .error (deliveryFailure "failed to send unload request" e)
  | .ok () =>
      host.hangUp settings.endpoint settings.connectTimeoutMs
      return .ok ()

def carryOut (host : Host m) (settings : Settings) : Command -> m (Except Failure Unit)
  | .send awaitReply => send host settings awaitReply
  | .compile output document => compile host settings output document
  | .unload => unload host settings

/-!
## From arguments to settings
-/

/-- Fills options that were not given from the environment. -/
def addVariables (host : Host m) (options : Options) :
    List Setting -> m (Except UsageError Options)
  | [] => return .ok options
  | s :: rest => do
      match options.addVariable s (← host.lookup s.environmentName) with
      | .error e => return .error e
      | .ok options => addVariables host options rest

def loadConfig (host : Host m) (asked : Option String) : m (Except Failure Config) := do
  let path :=
    Config.standardPath (← host.lookup "XDG_CONFIG_HOME") (← host.lookup "HOME")
  match (← Config.load host.read asked path).1 with
  | .ok config => return .ok config
  | .error e =>
      let causes := e.chain (← host.wording).documentFault
      return .error { what := "failed to load configuration", causes }

def loadSettings (host : Host m) (options : Options) : m (Except Failure Settings) := do
  match ← loadConfig host options.config with
  | .error failure => return .error failure
  | .ok config => return Settings.resolve options config

/-- The filter that the environment asks for, or else the one of the settings. -/
def startLog (host : Host m) (settings : Settings) : m Unit := do
  match (← host.lookup "RUST_LOG").bind Log.Filter.parse? with
  | some filter => host.openLog filter
  | none =>
      let (filter, complaints) := Log.Filter.parseLossy settings.logLevel
      host.complain (String.join (complaints.map fun c => c ++ "\n"))
      host.openLog filter

/-!
## The program
-/

def versionText : String := "tas-client 0.1.0"

def printAll (host : Host m) : List String -> m Unit
  | [] => pure ()
  | line :: rest => do
      host.print line
      printAll host rest

def usageStatus : UInt32 := 2

def refuseUsage (host : Host m) (e : UsageError) : m UInt32 := do
  host.complain ((← host.wording).usage e)
  return usageStatus

def fail (host : Host m) (f : Failure) : m UInt32 := do
  host.complain f.report
  return 1

def runCommand (host : Host m) (options : Options) (command : Command) : m UInt32 := do
  match ← loadSettings host options with
  | .error failure => fail host failure
  | .ok settings =>
      startLog host settings
      match ← carryOut host settings command with
      | .ok () => return 0
      | .error failure =>
          host.note (errorEvent failure)
          fail host failure

/-- Runs the program with the given arguments and gives its exit status. -/
def run (host : Host m) (arguments : List String) : m UInt32 := do
  match parse arguments with
  | .error e => refuseUsage host e
  | .ok .version =>
      host.print versionText
      return 0
  | .ok .help =>
      printAll host (← host.wording).help
      return 0
  | .ok (.run options command) =>
      match ← addVariables host options Setting.all with
      | .error e => refuseUsage host e
      | .ok options => runCommand host options command

end CommandLine
end RaceTape
