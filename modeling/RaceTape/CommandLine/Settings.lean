import RaceTape.CommandLine.Arguments
import RaceTape.CommandLine.Failure
import RaceTape.Settings.Config

/-!
# Settings

The settings of a run.  Each is taken from the option or its environment variable, else
from the configuration, in which absent keys have their standard values.
-/

namespace RaceTape
namespace CommandLine

structure Settings where
  scriptPath : String
  endpoint : Endpoint
  connectTimeoutMs : UInt64
  sentinel : String
  logLevel : String
deriving DecidableEq, Repr

/-- The endpoint that an option asks for, or else the configured one. -/
def endpointOf (address : Option String) (config : Config) : Except Failure Endpoint :=
  match address with
  | some text =>
      match Endpoint.parse? text with
      | some endpoint => .ok endpoint
      | none =>
          .error
            { what := "invalid control module address: '" ++ text ++ "'"
              causes := [Endpoint.parseFailure] }
  | none =>
      match config.endpoint with
      | .ok endpoint => .ok endpoint
      | .error e => .error { what := e.message, causes := [] }

def Settings.resolve (options : Options) (config : Config) : Except Failure Settings :=
  match endpointOf options.address config with
  | .error failure => .error failure
  | .ok endpoint =>
      .ok
        { scriptPath := options.script.getD config.scriptPath
          endpoint
          connectTimeoutMs := config.connectTimeoutMs
          sentinel := options.sentinel.getD config.sentinel
          logLevel := options.logLevel.getD config.logLevel }

end CommandLine
end RaceTape
