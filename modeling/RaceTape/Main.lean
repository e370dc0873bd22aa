import RaceTape.CommandLine.Run
import RaceTape.Link
import RaceTape.Log.Shown
import Std.Async.TCP
import Std.Async.Timer
import Std.Time.Format

/-!
# The program

The command line on the machine at hand: real files, variables, sockets and output.
-/

namespace RaceTape
namespace CommandLine
namespace Machine

open Std.Async Std.Net

/-- What changes while the program runs.  Both halves are the same socket. -/
structure State where
  filter : IO.Ref (Option Log.Filter)
  reader : IO.Ref (Option TCP.Socket.Client)
  writer : IO.Ref (Option TCP.Socket.Client)

/-- The number of a system error, with its sign dropped, and its words. -/
def systemError? : IO.Error -> Option (Nat × String)
  | .noFileOrDirectory _ code words => some (number code, words)
  | .alreadyExists _ code words => some (number code, words)
  | .interrupted _ code words => some (number code, words)
  | .invalidArgument _ code words => some (number code, words)
  | .permissionDenied _ code words => some (number code, words)
  | .resourceExhausted _ code words => some (number code, words)
  | .inappropriateType _ code words => some (number code, words)
  | .noSuchThing _ code words => some (number code, words)
  | .otherError code words => some (number code, words)
  | .resourceBusy code words => some (number code, words)
  | .resourceVanished code words => some (number code, words)
  | .unsupportedOperation code words => some (number code, words)
  | .hardwareFault code words => some (number code, words)
  | .unsatisfiedConstraints code words => some (number code, words)
  | .illegalOperation code words => some (number code, words)
  | .protocolError code words => some (number code, words)
  | .timeExpired code words => some (number code, words)
  | .unexpectedEof => none
  | .userError _ => none
where
  number (code : UInt32) : Nat :=
    if code < 0x80000000 then code.toNat else (0 - code).toNat

def faultText (e : IO.Error) : String :=
  match systemError? e with
  | some (number, words) => words.capitalize ++ " (os error " ++ toString number ++ ")"
  | none => toString e

def fileFault (e : IO.Error) : FileFault :=
  match systemError? e with
  | some (2, _) => .notFound
  | some (20, _) => .notDirectory
  | some (21, _) => .isDirectory
  | _ => .other (faultText e)

def read (path : String) : IO (Except FileFault String) := do
  try
    return textOfBytes (← IO.FS.readBinFile path).toList
  catch e => return .error (fileFault e)

def write (path : String) (bytes : Bytes) : IO (Except FileFault Unit) := do
  try
    IO.FS.writeBinFile path (ByteArray.mk bytes.toArray)
    return .ok ()
  catch e => return .error (fileFault e)

/-!
## The log
-/

/-- The time in UTC with six places for parts of a second. -/
def timeText : IO String := do
  let sinceEpoch := (← Std.Time.Timestamp.now).toDurationSinceUnixEpoch
  let now := Std.Time.PlainDateTime.ofWallTime (.ofDuration sinceEpoch)
  return now.format "uuuu-MM-dd'T'HH:mm:ss.SSSSSS" ++ "Z"

def note (state : State) (e : Log.Event) : IO Unit := do
  let some filter ← state.filter.get | return
  if filter.allows e then
    let level := e.level.name
    let indent := String.ofList (List.replicate (5 - level.length) ' ')
    let message := "\n".intercalate (Log.shownLines e.message)
    IO.println ((← timeText) ++ " " ++ indent ++ level ++ " " ++ e.part.path ++ ": " ++ message)

/-!
## The socket
-/

def socketAddress (e : Endpoint) : SocketAddress :=
  match e.address with
  | .v4 a b c d => .v4 { addr := IPv4Addr.ofParts a b c d, port := e.port }
  | .v6 groups _ =>
      let groupAt (i : Nat) : UInt16 := groups.getD i 0
      .v6
        { addr :=
            IPv6Addr.ofParts (groupAt 0) (groupAt 1) (groupAt 2) (groupAt 3)
              (groupAt 4) (groupAt 5) (groupAt 6) (groupAt 7)
          port := e.port }

/-- A new socket; connecting ends after the given time. -/
def dial (endpoint : Endpoint) (milliseconds : UInt64) :
    IO (Except ConnectionError TCP.Socket.Client) := do
  try
    let client ← TCP.Socket.Client.mk
    let attempt : Async Bool := do
      client.connect (socketAddress endpoint)
      return true
    let limit : Async Bool := do
      Std.Async.sleep (Std.Time.Millisecond.Offset.ofNat milliseconds.toNat)
      return false
    if ← (Async.race attempt limit).block then return .ok client
    else return .error (.timedOut endpoint milliseconds)
  catch e => return .error (.connectFailed endpoint (faultText e))

/-- What an open socket is asked to do, with its fault as one of the connection. -/
def onSocket (action : IO α) : IO (Except ConnectionError α) := do
  try
    return .ok (← action)
  catch e => return .error (.interrupted (faultText e))

def dialHalves (endpoint : Endpoint) (milliseconds : UInt64) :
    IO (Except ConnectionError (TCP.Socket.Client × TCP.Socket.Client)) := do
  match ← dial endpoint milliseconds with
  | .error e => return .error e
  | .ok client =>
      match ← onSocket client.noDelay with
      | .error e => return .error e
      | .ok () => return .ok (client, client)

/-- Goes on until there are `n` bytes.  Every read brings one at least, so `n` reads are enough. -/
def takeBytes (client : TCP.Socket.Client) (n : Nat) : Nat -> ByteArray -> IO ByteArray
  | 0, before => return before
  | reads + 1, before => do
      if n ≤ before.size then return before
      match ← (client.recv? (UInt64.ofNat (n - before.size))).block with
      | none => return before
      | some bytes => takeBytes client n reads (before ++ bytes)

/-- The next `n` bytes, or the fault that the other side has ended before. -/
def readBytes (client : TCP.Socket.Client) (n : Nat) :
    IO (Except ConnectionError (Vector UInt8 n)) := do
  match ← onSocket (takeBytes client n n ByteArray.empty) with
  | .error e => return .error e
  | .ok bytes => return if h : bytes.data.size = n then .ok ⟨bytes.data, h⟩ else .error .closed

def shutDown (client : TCP.Socket.Client) : IO (Option String) := do
  try
    client.shutdown.block
    return none
  catch e => return some (faultText e)

/-- The link whose halves are sockets. -/
def link (state : State) (endpoint : Endpoint) (milliseconds : UInt64) :
    Link IO TCP.Socket.Client TCP.Socket.Client :=
  { endpoint
    reader := state.reader.get
    setReader := state.reader.set
    writer := state.writer.get
    setWriter := state.writer.set
    dial := dialHalves endpoint milliseconds
    write := fun client bytes => onSocket (client.send (ByteArray.mk bytes.toArray)).block
    read := fun client n => do return (← readBytes client n, client)
    shutDown
    note := note state }

/-!
## Words
-/

def help : List String :=
  ["Usage: tas-client [OPTIONS] [COMMAND]",
   "",
   "Commands:",
   "  send     Compile the script and send it (default)",
   "  compile  Compile only; optionally write the payload and a JSON dump",
   "  unload   Ask the control module to detach itself",
   "",
   "Options:",
   "  --config <PATH>       Configuration file",
   "  --script <PATH>       Script to compile [default: from config]",
   "  --addr <HOST:PORT>    Control module address [default: 127.0.0.1:27015]",
   "  --header-end <WORD>   Header/framebulk separator [default: framebulks]",
   "  --log-level <LEVEL>   Log level when RUST_LOG is unset [default: info]"]

def usageText : UsageError -> String
  | .unexpected argument => "unexpected argument '" ++ argument ++ "'"
  | .missingValue option => "no value for '" ++ option ++ "'"
  | .emptyValue option => "an empty value for '" ++ option ++ "'"
  | .repeated option => "'" ++ option ++ "' is given more than once"

def wording : Wording :=
  { help
    usage := fun e => "error: " ++ usageText e ++ "\n"
    documentFault := "no document, or a value of the wrong kind" }

def host (state : State) : Host IO :=
  { wording := return wording
    lookup := fun name => IO.getEnv name
    read
    write
    openLog := fun filter => state.filter.set (some filter)
    note := note state
    transport := fun endpoint milliseconds => (link state endpoint milliseconds).transport
    hangUp := fun endpoint milliseconds => (link state endpoint milliseconds).close
    print := fun line => IO.println line
    complain := fun text => IO.eprint text }

end Machine
end CommandLine
end RaceTape

def main (arguments : List String) : IO UInt32 := do
  let state : RaceTape.CommandLine.Machine.State :=
    { filter := ← IO.mkRef none, reader := ← IO.mkRef none, writer := ← IO.mkRef none }
  RaceTape.CommandLine.run (RaceTape.CommandLine.Machine.host state) arguments
