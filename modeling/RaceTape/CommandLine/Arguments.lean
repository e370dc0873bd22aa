/-!
# Arguments

What can be asked for on the command line: options, then at most one command with options
of its own.  An option is given once, with its value in the same argument or in the next
one.
-/

namespace RaceTape
namespace CommandLine

/-- The options that come before the command. -/
structure Options where
  config : Option String
  script : Option String
  address : Option String
  sentinel : Option String
  logLevel : Option String
deriving DecidableEq, Repr

inductive Command where
  | send (awaitReply : Bool)
  | compile (output document : Option String)
  | unload
deriving DecidableEq, Repr

inductive Request where
  | run (options : Options) (command : Command)
  | version
  | help
deriving DecidableEq, Repr

inductive UsageError where
  | unexpected (argument : String)
  | missingValue (option : String)
  | emptyValue (option : String)
  | repeated (option : String)
deriving DecidableEq, Repr

namespace Options

def absent : Options :=
  { config := none, script := none, address := none, sentinel := none, logLevel := none }

end Options

/-- The options with a value. -/
inductive Setting where
  | config
  | script
  | address
  | sentinel
  | logLevel
deriving DecidableEq, Repr

namespace Setting

def all : List Setting :=
  [.config, .script, .address, .sentinel, .logLevel]

def flag : Setting -> String
  | .config => "--config"
  | .script => "--script"
  | .address => "--addr"
  | .sentinel => "--header-end"
  | .logLevel => "--log-level"

/-- The environment variable that stands in for the option. -/
def environmentName : Setting -> String
  | .config => "TAS_CONFIG"
  | .script => "TAS_SCRIPT"
  | .address => "TAS_ADDR"
  | .sentinel => "TAS_HEADER_END"
  | .logLevel => "TAS_LOG_LEVEL"

/-- Paths cannot be empty; other values can. -/
def isPath : Setting -> Bool
  | .config => true
  | .script => true
  | _ => false

def get (s : Setting) (o : Options) : Option String :=
  match s with
  | .config => o.config
  | .script => o.script
  | .address => o.address
  | .sentinel => o.sentinel
  | .logLevel => o.logLevel

def put (s : Setting) (value : String) (o : Options) : Options :=
  match s with
  | .config => { o with config := some value }
  | .script => { o with script := some value }
  | .address => { o with address := some value }
  | .sentinel => { o with sentinel := some value }
  | .logLevel => { o with logLevel := some value }

/-- Gives a value to an option that has none yet. -/
def set (s : Setting) (value : String) (o : Options) : Except UsageError Options :=
  if s.isPath && value.isEmpty then .error (.emptyValue s.flag)
  else if (s.get o).isSome then .error (.repeated s.flag)
  else .ok (s.put value o)

def ofFlag? (flag : String) : Option Setting :=
  all.find? fun s => s.flag == flag

end Setting

/-- Whether an argument can be the value of the option before it. -/
def isValue (argument : String) : Bool :=
  match argument.toList with
  | '-' :: _ :: _ => false
  | _ => true

/-- An argument cut at its first equals sign. -/
def splitEquals (argument : String) : String × Option String :=
  let cs := argument.toList
  match cs.dropWhile fun c => c ≠ '=' with
  | [] => (argument, none)
  | _ :: value =>
      (String.ofList (cs.takeWhile fun c => c ≠ '='), some (String.ofList value))

/-- An argument as it can be understood. -/
inductive Shape where
  /-- Two dashes, after which only plain words may follow. -/
  | stop
  | long (flag : String) (value : Option String)
  | short (letter : Char) (rest : List Char)
  | word (text : String)

def shapeOf (argument : String) : Shape :=
  match argument.toList with
  | ['-', '-'] => .stop
  | '-' :: '-' :: _ =>
      let (flag, value) := splitEquals argument
      .long flag value
  | '-' :: letter :: rest => .short letter rest
  | _ => .word argument

/-- Arguments after two dashes; there are no plain words to be given. -/
def stopped (result : α) : List String -> Except UsageError α
  | [] => .ok result
  | argument :: _ => .error (.unexpected argument)

/-- The value attached to a letter, with or without an equals sign. -/
def attached : List Char -> Option String
  | [] => none
  | '=' :: value => some (String.ofList value)
  | value => some (String.ofList value)

/-!
## Commands
-/

def sendArguments (awaitReply : Bool) : List String -> Except UsageError (Option Command)
  | [] => .ok (some (.send awaitReply))
  | argument :: rest =>
      match shapeOf argument with
      | .stop => stopped (some (.send awaitReply)) rest
      | .long "--help" none => .ok none
      | .short 'h' _ => .ok none
      | .long "--await-reply" none =>
          if awaitReply then .error (.repeated "--await-reply") else sendArguments true rest
      | _ => .error (.unexpected argument)

/-- Gives a path to an option of the compile command that has none yet. -/
def setPath (flag : String) (old : Option String) (value : String) :
    Except UsageError (Option String) :=
  if value.isEmpty then .error (.emptyValue flag)
  else if old.isSome then .error (.repeated flag)
  else .ok (some value)

/-- The value of an option, and whether it is the next argument. -/
def valueOf (flag : String) (value : Option String) (rest : List String) :
    Except UsageError (String × Bool) :=
  match value, rest with
  | some v, _ => .ok (v, false)
  | none, next :: _ => if isValue next then .ok (next, true) else .error (.missingValue flag)
  | none, [] => .error (.missingValue flag)

/--
The arguments of the compile command.  With `skip` the first argument is the value of the
option before it and is passed over.
-/
def compileArguments (output document : Option String) (skip : Bool) :
    List String -> Except UsageError (Option Command)
  | [] => .ok (some (.compile output document))
  | argument :: rest =>
      if skip then compileArguments output document false rest
      else
        match shapeOf argument with
        | .stop => stopped (some (.compile output document)) rest
        | .long "--help" none => .ok none
        | .short 'h' _ => .ok none
        | .long flag value =>
            if flag = "--output" then do
              let (path, skip) ← valueOf flag value rest
              compileArguments (← setPath flag output path) document skip rest
            else if flag = "--emit-json" then do
              let (path, skip) ← valueOf flag value rest
              compileArguments output (← setPath flag document path) skip rest
            else .error (.unexpected argument)
        | _ => .error (.unexpected argument)

def unloadArguments : List String -> Except UsageError (Option Command)
  | [] => .ok (some .unload)
  | argument :: rest =>
      match shapeOf argument with
      | .stop => stopped (some .unload) rest
      | .long "--help" none => .ok none
      | .short 'h' _ => .ok none
      | _ => .error (.unexpected argument)

/-- Help can be asked for on one command. -/
def helpArguments : List String -> Except UsageError (Option Command)
  | [] => .ok none
  | [word] =>
      if word = "send" || word = "compile" || word = "unload" || word = "help" then .ok none
      else .error (.unexpected word)
  | _ :: argument :: _ => .error (.unexpected argument)

/-- The command that a word stands for, with its arguments; none asks for help. -/
def command (word : String) (rest : List String) : Except UsageError (Option Command) :=
  if word = "send" then sendArguments false rest
  else if word = "compile" then compileArguments none none false rest
  else if word = "unload" then unloadArguments rest
  else if word = "help" then helpArguments rest
  else .error (.unexpected word)

/-!
## The whole line
-/

/-- The command when none is named. -/
def standardCommand : Command := .send false

/--
Reads arguments with the options seen so far.  With `skip` the first argument is the value
of the option before it and is passed over.
-/
def parseFrom (options : Options) (skip : Bool) : List String -> Except UsageError Request
  | [] => .ok (.run options standardCommand)
  | argument :: rest =>
      if skip then parseFrom options false rest
      else
        match shapeOf argument with
        | .stop => stopped (.run options standardCommand) rest
        | .long "--version" none => .ok .version
        | .long "--help" none => .ok .help
        | .short 'V' _ => .ok .version
        | .short 'h' _ => .ok .help
        | .long flag value =>
            match Setting.ofFlag? flag with
            | none => .error (.unexpected argument)
            | some s => do
                let (v, skip) ← valueOf flag value rest
                parseFrom (← s.set v options) skip rest
        | .short 's' tail => do
            let (v, skip) ← valueOf Setting.script.flag (attached tail) rest
            parseFrom (← Setting.script.set v options) skip rest
        | .short _ _ => .error (.unexpected argument)
        | .word word =>
            match command word rest with
            | .error e => .error e
            | .ok none => .ok .help
            | .ok (some c) => .ok (.run options c)

def parse (arguments : List String) : Except UsageError Request :=
  parseFrom Options.absent false arguments

/-- Gives an option the value of its environment variable if it has none. -/
def Options.addVariable (o : Options) (s : Setting) (value : Option String) :
    Except UsageError Options :=
  match s.get o, value with
  | some _, _ => .ok o
  | none, none => .ok o
  | none, some value => s.set value o

end CommandLine
end RaceTape
