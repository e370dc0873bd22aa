import RaceTape.Endpoint
import RaceTape.Settings.Files
import RaceTape.Tape.Basic
import RaceTape.Toml.Document

/-!
# Configurations

What a configuration file can set.  Every key and every section may be left out, and keys
without a meaning are passed over.  A section may also be an array of its values in the
order of its keys.
-/

namespace RaceTape

open Toml

structure Config where
  host : String
  port : UInt16
  connectTimeoutMs : UInt64
  scriptPath : String
  sentinel : String
  logLevel : String
deriving DecidableEq, Repr

inductive ConfigError where
  | noDirectory
  | file (path : String) (fault : FileFault)
  | syntaxError
  | invalidAddress (text : String)
deriving DecidableEq, Repr

namespace ConfigError

/-- The message of an error, up to where the reader of documents goes on in its own words. -/
def message : ConfigError -> String
  | .noDirectory => "could not determine platform config directory"
  | .file path fault => "I/O error accessing config at " ++ path ++ ": " ++ fault.message
  | .syntaxError => "failed to parse config TOML: "
  | .invalidAddress text => "invalid control module address '" ++ text ++ "'"

/-- The messages of an error and of what caused it, with the words of the reader of documents. -/
def chain (documentFault : String) (e : ConfigError) : List String :=
  match e with
  | .file _ fault => [e.message, fault.message]
  | .syntaxError => [e.message ++ documentFault, documentFault]
  | _ => [e.message]

end ConfigError

namespace Config

def standard : Config :=
  { host := "127.0.0.1"
    port := 27015
    connectTimeoutMs := 3000
    scriptPath := "scripts/tasfile.peng"
    sentinel := standardSentinel
    logLevel := "info" }

/-- A section that is a table or an array. -/
inductive Part where
  | table (entries : List (String × Value))
  | array (items : List Value)

def part? : Option Value -> Option Part
  | none => some (.table [])
  | some (.table entries) => some (.table entries)
  | some (.array items) => some (.array items)
  | some _ => none

/-- The value of the key `name`, which is number `index` of its section. -/
def Part.entry? (part : Part) (index : Nat) (name : String) : Option Value :=
  match part with
  | .table entries => entries.lookup name
  | .array items => items[index]?

def stringOr (standard : String) : Option Value -> Option String
  | none => some standard
  | some (.string s) => some s
  | some _ => none

/-- A number from zero up to `limit`. -/
def numberOr (standard limit : Nat) : Option Value -> Option Nat
  | none => some standard
  | some (.integer n) => if 0 ≤ n && n ≤ Int.ofNat limit then some n.toNat else none
  | some _ => none

def ofDocument? (entries : List (String × Value)) : Option Config := do
  let network ← part? (entries.lookup "network")
  let script ← part? (entries.lookup "script")
  let logging ← part? (entries.lookup "logging")
  let host ← stringOr standard.host (network.entry? 0 "host")
  let port ← numberOr standard.port.toNat 65535 (network.entry? 1 "port")
  let timeout ←
    numberOr standard.connectTimeoutMs.toNat 18446744073709551615
      (network.entry? 2 "connect_timeout_ms")
  let scriptPath ← stringOr standard.scriptPath (script.entry? 0 "default_path")
  let sentinel ← stringOr standard.sentinel (script.entry? 1 "header_end")
  let logLevel ← stringOr standard.logLevel (logging.entry? 0 "log_level")
  return {
    host
    port := UInt16.ofNat port
    connectTimeoutMs := UInt64.ofNat timeout
    scriptPath
    sentinel
    logLevel }

def parse (text : String) : Except ConfigError Config :=
  match (Toml.parse? text).bind ofDocument? with
  | some config => .ok config
  | none => .error .syntaxError

/-- The host and the port with a colon between them. -/
def addressText (config : Config) : String :=
  config.host ++ ":" ++ toString config.port.toNat

def endpoint (config : Config) : Except ConfigError Endpoint :=
  match Endpoint.parse? config.addressText with
  | some endpoint => .ok endpoint
  | none => .error (.invalidAddress config.addressText)

end Config

end RaceTape
