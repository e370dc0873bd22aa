import RaceTape.Log.Event
import RaceTape.Settings.Config

/-!
# Finding the configuration

The configuration file is the one asked for, which has to exist, or else the one in the
directory for configurations.  That one may be missing, and so may the directory; then
every setting has its standard value.
-/

namespace RaceTape

namespace Config

/-- A path with one more part behind it. -/
def joinPath (base name : String) : String :=
  if base.isEmpty || FileTree.endsInSlash base then base ++ name else base ++ "/" ++ name

/-- The directory for configurations, given the two variables that can name it. -/
def directory? (configHome home : Option String) : Option String :=
  configHome.or (home.map fun h => joinPath h ".config")

/-- The path of the configuration file when none is asked for. -/
def standardPath (configHome home : Option String) : Except ConfigError String :=
  match directory? configHome home with
  | none => .error .noDirectory
  | some base => .ok (joinPath (joinPath base "stk-tas") "config.toml")

def readAt (path : String) : Except FileFault String -> Except ConfigError Config
  | .ok text => parse text
  | .error fault => .error (.file path fault)

/-- The configuration of the standard file, which may be missing. -/
def readStandard (path : String) : Except FileFault String -> Except ConfigError Config
  | .error .notFound => .ok standard
  | text => readAt path text

def event (message : String) : Log.Event :=
  { level := .debug, part := .settings, message }

/--
Loads the configuration, with `read` for the text of a file: from the path `asked` if there
is one, else from the standard path `path`.
-/
def load {m : Type -> Type} [Monad m] (read : String -> m (Except FileFault String))
    (asked : Option String) (path : Except ConfigError String) :
    m (Except ConfigError Config × List Log.Event) := do
  match asked with
  | some path => return (readAt path (← read path), [])
  | none =>
      match path with
      | .error _ =>
          return (.ok standard, [event "no platform config directory; using defaults"])
      | .ok path =>
          let text ← read path
          let events :=
            if text matches .error .notFound then
              [event ("no config file at " ++ path ++ "; using defaults")]
            else []
          return (readStandard path text, events)

end Config

end RaceTape
