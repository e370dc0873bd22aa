import RaceTape.Proofs.CommandLine.Commands
import RaceTape.Proofs.Tape.Invariant

/-!
# Effects of the program

What a run does to the files and to the control module is told by the scene in which it begins:
which settings are found there, and what the command has to send and to write with them.
-/

namespace RaceTape
namespace CommandLine

open Wire

/-!
## What a run finds

Options are filled in from the environment, and the configuration is read from the file that is
asked for or else from the standard one.  A run has settings if the configuration loads and the
address is one.
-/

namespace Scene

def filled (s : Scene) (options : Options) : Except UsageError Options :=
  Setting.all.foldlM (fun o t => o.addVariable t (s.environment.lookup t.environmentName)) options

def config (s : Scene) (asked : Option String) : Except ConfigError Config :=
  match asked with
  | some path => Config.readAt path (s.files.readText path)
  | none =>
      match Config.standardPath (s.environment.lookup "XDG_CONFIG_HOME")
          (s.environment.lookup "HOME") with
      | .error _ => .ok Config.standard
      | .ok path => Config.readStandard path (s.files.readText path)

def settings (s : Scene) (options : Options) : Except Failure Settings :=
  match s.config options.config with
  | .error e =>
      .error
        { what := "failed to load configuration"
          causes := e.chain s.wording.documentFault }
  | .ok config => Settings.resolve options config

/-- The settings of a run with the given options, if it comes to have some. -/
def settings? (s : Scene) (options : Options) : Option Settings := do
  let options ← (s.filled options).toOption
  (s.settings options).toOption

end Scene

theorem addVariables_eq (rest : List Setting) (options : Options) (w : World) :
    addVariables World.host options rest w =
      (rest.foldlM (fun o t => o.addVariable t (w.environment.lookup t.environmentName)) options,
        w) := by
  induction rest generalizing options with
  | nil => rfl
  | cons t rest ih =>
      rw [addVariables, List.foldlM_cons]
      simp only [bind, StateT.bind, World.host]
      cases options.addVariable t (w.environment.lookup t.environmentName) with
      | error e => rfl
      | ok options => exact ih options

theorem gives_addVariables (s : Scene) (options : Options) :
    Gives (fun t => t = s) (fun t => t = s) (s.filled options)
      (addVariables World.host options Setting.all) := by
  rintro w rfl
  rw [addVariables_eq]
  exact ⟨rfl, rfl⟩

theorem load_eq (asked : Option String) (w : World) :
    exists events,
      Config.load World.host.read asked
          (Config.standardPath (w.environment.lookup "XDG_CONFIG_HOME")
            (w.environment.lookup "HOME")) w =
        ((w.scene.config asked, events), w) := by
  unfold Config.load Scene.config
  cases asked with
  | some path => exact ⟨_, rfl⟩
  | none =>
      dsimp only [World.scene]
      cases Config.standardPath (w.environment.lookup "XDG_CONFIG_HOME")
          (w.environment.lookup "HOME") with
      | error e => exact ⟨_, rfl⟩
      | ok path => exact ⟨_, rfl⟩

theorem gives_loadSettings (s : Scene) (options : Options) :
    Gives (fun t => t = s) (fun t => t = s) (s.settings options)
      (loadSettings World.host options) := by
  rintro w rfl
  rcases load_eq options.config w with ⟨events, hload⟩
  simp only [loadSettings, loadConfig, bind, StateT.bind, World.host] at hload ⊢
  rw [hload, Scene.settings]
  cases w.scene.config options.config with
  | error e => exact ⟨rfl, rfl⟩
  | ok config => exact ⟨rfl, rfl⟩

/-!
## Runs

Without settings a run ends before its command begins.
-/

section

variable {s : Scene} {arguments : List String} {options : Options} {command : Command}
  {settings : Settings}

theorem settings?_eq_some_iff :
    s.settings? options = some settings ↔
      exists filled, s.filled options = .ok filled ∧ s.settings filled = .ok settings := by
  simp only [Scene.settings?, Option.bind_eq_bind, Option.bind_eq_some_iff, toOption_eq_some_iff]

theorem leads_run_of_none (hparse : parse arguments = .ok (.run options command))
    (h : s.settings? options = none) :
    Leads (fun t => t = s) (fun t => t = s) (run World.host arguments) := by
  rw [run, hparse]
  have hfilled := gives_addVariables s options
  cases hoptions : s.filled options with
  | error e =>
      rw [hoptions] at hfilled
      exact hfilled.bind ((quiet_refuseUsage e).leads _)
  | ok filled =>
      rw [hoptions] at hfilled
      refine hfilled.bind ?_
      have hload := gives_loadSettings s filled
      cases hsettings : s.settings filled with
      | error failure =>
          rw [hsettings] at hload
          exact hload.bind ((quiet_fail failure).leads _)
      | ok settings =>
          rw [settings?_eq_some_iff.mpr ⟨filled, hoptions, hsettings⟩] at h
          cases h

/-- The exit status is one if the command fails, and zero otherwise. -/
theorem ends_run_of_some {R : Except Failure Unit -> Scene -> Prop}
    (hparse : parse arguments = .ok (.run options command))
    (h : s.settings? options = some settings)
    (hcommand : Ends (fun t => t = s) R (carryOut World.host settings command)) :
    Ends (fun t => t = s)
      (fun status t => exists result, R result t ∧ status = if result.isOk then 0 else 1)
      (run World.host arguments) := by
  rcases settings?_eq_some_iff.mp h with ⟨filled, hoptions, hsettings⟩
  have hfilled := gives_addVariables s options
  have hload := gives_loadSettings s filled
  rw [hoptions] at hfilled
  rw [hsettings] at hload
  rw [run, hparse]
  refine hfilled.bind (hload.bind (((quiet_startLog settings).gives _).bind (hcommand.bind ?_)))
  intro result
  cases result with
  | ok done => exact fun w hw => ⟨.ok done, hw, rfl⟩
  | error failure =>
      have hquiet : Quiet (do
          World.host.note (errorEvent failure)
          fail World.host failure) :=
        (quiet_note _).bind fun _ => quiet_fail failure
      exact fun w hw => ⟨.error failure, hquiet.leads _ w hw, rfl⟩

end

/-!
## Ways to end

A run ends before it has settings, or because its command has no tape, or after the command was
carried out.
-/

inductive Ended (start : Scene) (options : Options) (command : Command) (after : Scene) :
    Prop where
  | unsettled (no_settings : start.settings? options = none) (same : after = start)
  | silent {settings : Settings} (settled : start.settings? options = some settings)
      (no_message : command.message? settings start.files = none)
      (fresh : after.Fresh (command.filesAfter settings start.files) start.listener start.peer)
  | called {settings : Settings} {message : Message}
      (settled : start.settings? options = some settings)
      (to_send : command.message? settings start.files = some message)
      (called : after.Called start.files start.listener
        (peerAfter start.listener start.peer settings.endpoint message))

theorem ended_run {arguments : List String} {options : Options} {command : Command}
    (hparse : parse arguments = .ok (.run options command)) {w : World}
    (hw : w.connection = none) :
    Ended w.scene options command (run World.host arguments w).2.scene := by
  have hfresh : w.scene.Fresh w.files w.listener w.peer := ⟨rfl, rfl, rfl, hw⟩
  cases hsettings : w.scene.settings? options with
  | none => exact .unsettled hsettings (leads_run_of_none hparse hsettings w rfl)
  | some settings =>
      cases hmessage : command.message? settings w.files with
      | none =>
          have hsilent : Leads (fun t => t = w.scene)
              (Scene.Fresh (command.filesAfter settings w.files) w.listener w.peer)
              (carryOut World.host settings command) := by
            intro other hother
            exact leads_carryOut_of_silent hmessage other (hother ▸ hfresh)
          rcases ends_run_of_some hparse hsettings hsilent w rfl with ⟨_, hafter, _⟩
          exact .silent hsettings hmessage hafter
      | some message =>
          have hcalled : Leads (fun t => t = w.scene)
              (Scene.Called w.files w.listener
                (peerAfter w.listener w.peer settings.endpoint message))
              (carryOut World.host settings command) := by
            intro other hother
            exact leads_carryOut_of_message hmessage other (hother ▸ hfresh)
          rcases ends_run_of_some hparse hsettings hcalled w rfl with ⟨_, hafter, _⟩
          exact .called hsettings hmessage hafter

/--
The frame that a run brings to the peer: there are settings, the command has a message with them
that can be framed, and the peer listens at the endpoint and accepts.
-/
def Reaches (start : Scene) (options : Options) (command : Command) (frame : Bytes) : Prop :=
  exists settings message,
    start.settings? options = some settings ∧
      command.message? settings start.files = some message ∧
      encodeFrame message = .ok frame ∧
      settings.endpoint = start.listener ∧ start.peer.refusal = none

namespace Ended

variable {start after : Scene} {options : Options} {command : Command}

theorem called_of_message (h : Ended start options command after) {settings : Settings}
    {message : Message} (hsettings : start.settings? options = some settings)
    (hmessage : command.message? settings start.files = some message) :
    after.Called start.files start.listener
      (peerAfter start.listener start.peer settings.endpoint message) := by
  cases h with
  | unsettled no_settings same =>
      rw [no_settings] at hsettings
      cases hsettings
  | silent settled no_message fresh =>
      rw [settled] at hsettings
      cases hsettings
      rw [no_message] at hmessage
      cases hmessage
  | called settled to_send called =>
      rw [settled] at hsettings
      cases hsettings
      rw [to_send] at hmessage
      cases hmessage
      exact called

theorem called_iff (h : Ended start options command after) (hstart : start.connection = none) :
    after.connection.isSome = true ↔
      exists settings message,
        start.settings? options = some settings ∧
          command.message? settings start.files = some message := by
  constructor
  · intro hsome
    cases h with
    | unsettled no_settings same =>
        rw [same, hstart] at hsome
        cases hsome
    | silent settled no_message fresh =>
        rw [fresh.connection] at hsome
        cases hsome
    | called settled to_send called => exact ⟨_, _, settled, to_send⟩
  · rintro ⟨settings, message, hsettings, hmessage⟩
    rcases (h.called_of_message hsettings hmessage).connection with ⟨c, hc, _⟩
    rw [hc]
    rfl

theorem delivered (h : Ended start options command after) {frame : Bytes}
    (hreaches : Reaches start options command frame) :
    after.peer = start.peer.delivered frame := by
  rcases hreaches with ⟨settings, message, hsettings, hmessage, hframe, hlistens, haccepts⟩
  rw [(h.called_of_message hsettings hmessage).peer_eq, peerAfter, if_pos hlistens,
    Peer.called_of_ok haccepts hframe]

theorem untouched (h : Ended start options command after)
    (hnothing : forall frame, ¬Reaches start options command frame) :
    after.peer = start.peer := by
  cases h with
  | unsettled no_settings same => rw [same]
  | silent settled no_message fresh => exact fresh.peer_eq
  | @called settings message settled to_send called =>
      rw [called.peer_eq, peerAfter]
      split
      · next hlistens =>
          cases hframe : encodeFrame message with
          | error error => exact Peer.called_of_error hframe start.peer
          | ok frame =>
              cases hrefusal : start.peer.refusal with
              | some reason => exact Peer.called_of_refusal hrefusal message
              | none =>
                  exact absurd ⟨settings, message, settled, to_send, hframe, hlistens, hrefusal⟩
                    (hnothing frame)
      · rfl

theorem files_eq (h : Ended start options command after) :
    after.files =
      ((start.settings? options).map fun settings =>
        command.filesAfter settings start.files).getD start.files := by
  cases h with
  | unsettled no_settings same =>
      rw [same, no_settings]
      rfl
  | silent settled no_message fresh =>
      rw [fresh.files_eq, settled]
      rfl
  | called settled to_send called =>
      rw [called.files_eq, settled]
      exact (filesAfter_of_message to_send).symm

theorem frame (h : Ended start options command after) :
    start.files.Frame command.targets after.files := by
  rw [h.files_eq]
  cases start.settings? options with
  | none => exact .refl _ _
  | some settings => exact frame_filesAfter settings start.files command

end Ended

/-- A script that is rejected fails the run, which has then done nothing. -/
theorem run_of_rejected {arguments : List String} {options : Options} {command : Command}
    (hparse : parse arguments = .ok (.run options command)) {w : World}
    (hw : w.connection = none) {settings : Settings} {source : String} {fault : Fault}
    (hsettings : w.scene.settings? options = some settings) (hcommand : command ≠ .unload)
    (hread : w.files.readText settings.scriptPath = .ok source)
    (hsource : Compiled.ofSource settings.sentinel source = .error fault) :
    (run World.host arguments w).1 = 1 ∧
      (run World.host arguments w).2.scene.Fresh w.files w.listener w.peer := by
  have hnone : settings.compiled? w.files = none := by
    rw [Settings.compiled?, hread]
    show (Compiled.ofSource settings.sentinel source).toOption = none
    rw [hsource]
    rfl
  have hfresh : w.scene.Fresh w.files w.listener w.peer := ⟨rfl, rfl, rfl, hw⟩
  rcases exists_gives_carryOut_of_none hcommand hnone with ⟨failure, hgives⟩
  have hfailed : Gives (fun t => t = w.scene) (Scene.Fresh w.files w.listener w.peer)
      (.error failure) (carryOut World.host settings command) := by
    intro other hother
    exact hgives other (hother ▸ hfresh)
  rcases ends_run_of_some hparse hsettings hfailed w rfl with ⟨result, ⟨hresult, hafter⟩, hstatus⟩
  rw [hstatus, hresult]
  exact ⟨rfl, hafter⟩

/-!
## All effects

What a run with an exit status does is a relation between the scene before it and the scene after
it.  The run at the end has the short tape, and a peer that accepts connections but never replies.
-/

structure Effects (start : Scene) (options : Options) (command : Command) (status : UInt32)
    (after : Scene) : Prop where
  /-- The control module is called exactly if there are settings and a message. -/
  called_iff : after.connection.isSome = true ↔
    exists settings message,
      start.settings? options = some settings ∧
        command.message? settings start.files = some message
  /-- What reaches the peer is all that it is sent, on one connection. -/
  delivered : forall frame, Reaches start options command frame ->
    after.peer = start.peer.delivered frame
  untouched : (forall frame, ¬Reaches start options command frame) -> after.peer = start.peer
  /-- A compilation calls nobody. -/
  compile_silent : forall output document, command = .compile output document ->
    after.connection = none ∧ after.peer = start.peer
  files_eq : after.files =
    ((start.settings? options).map fun settings =>
      command.filesAfter settings start.files).getD start.files
  /-- No file changes but those that a compilation is told to write. -/
  frame : start.files.Frame command.targets after.files
  rejected : forall settings source fault,
    start.settings? options = some settings -> command ≠ .unload ->
      start.files.readText settings.scriptPath = .ok source ->
      Compiled.ofSource settings.sentinel source = .error fault ->
        status = 1 ∧ after.files = start.files ∧ after.peer = start.peer ∧
          after.connection = none

/--
All that a command line does, in any environment, with any files and any peer: the peer is sent the
frame of the command's message and nothing else, whatever happens then, and only files that a
compilation is told to write are changed, after the script was compiled.
-/
theorem run_effects {arguments : List String} {options : Options} {command : Command}
    (hparse : parse arguments = .ok (.run options command))
    (environment : List (String × String)) (files : FileTree) (listener : Endpoint)
    (peer : Peer) :
    let w := World.new environment files listener peer
    Effects w.scene options command (run World.host arguments w).1
      (run World.host arguments w).2.scene := by
  intro w
  have hended : Ended w.scene options command (run World.host arguments w).2.scene :=
    ended_run hparse rfl
  refine ⟨hended.called_iff rfl, fun _ => hended.delivered, hended.untouched, ?_, hended.files_eq,
    hended.frame, ?_⟩
  · rintro output document rfl
    constructor
    · rw [← Option.not_isSome_iff_eq_none, hended.called_iff rfl]
      rintro ⟨settings, message, _, hmessage⟩
      cases hmessage
    · apply hended.untouched
      rintro frame ⟨settings, message, _, hmessage, _⟩
      cases hmessage
  · intro settings source fault hsettings hcommand hread hsource
    rcases run_of_rejected hparse rfl hsettings hcommand hread hsource with ⟨hstatus, hfresh⟩
    exact ⟨hstatus, hfresh.files_eq, hfresh.peer_eq, hfresh.connection⟩

def tapeWorld : World :=
  World.new [("TAS_ADDR", "127.0.0.1:4000")]
    { files := [(["tape.peng"], Text.Utf8.ofString Compiled.shortSource)], directories := [] }
    ⟨.v4 127 0 0 1, 4000⟩ (Peer.accepting [])

def awaitingReply : List String :=
  ["-s", "tape.peng", "send", "--await-reply"]

theorem reaches_tapeWorld {frame : Bytes}
    (hframe : encodeFrame (.script Compiled.shortTape.payload) = .ok frame) :
    Reaches tapeWorld.scene { Options.absent with script := some "tape.peng" } (.send true)
      frame := by
  have hsettings : tapeWorld.scene.settings? { Options.absent with script := some "tape.peng" } =
      some
        { scriptPath := "tape.peng"
          endpoint := ⟨.v4 127 0 0 1, 4000⟩
          connectTimeoutMs := 3000
          sentinel := standardSentinel
          logLevel := "info" } := by
    decide +kernel
  have hread : (tapeWorld.files.readText "tape.peng").toOption = some Compiled.shortSource := by
    decide +kernel
  refine ⟨_, .script Compiled.shortTape.payload, hsettings, ?_, hframe, rfl, rfl⟩
  rw [Command.message?, Option.map_eq_some_iff]
  exact ⟨Compiled.ofTape Compiled.shortTape, compiled?_eq_some_iff.mpr
    ⟨Compiled.shortSource, toOption_eq_some_iff.mp hread, Compiled.ofSource_shortSource⟩, rfl⟩

theorem run_effects_awaitingReply :
    (run World.host awaitingReply tapeWorld).1 = 1 ∧
      exists frame,
        encodeFrame (.script Compiled.shortTape.payload) = .ok frame ∧
          (run World.host awaitingReply tapeWorld).2.scene.peer.received = [frame] ∧
          tapeWorld.scene.files.Frame []
            (run World.host awaitingReply tapeWorld).2.scene.files := by
  have hparse : parse awaitingReply =
      .ok (.run { Options.absent with script := some "tape.peng" } (.send true)) := rfl
  have heffects : Effects tapeWorld.scene { Options.absent with script := some "tape.peng" }
      (.send true) (run World.host awaitingReply tapeWorld).1
      (run World.host awaitingReply tapeWorld).2.scene :=
    run_effects hparse _ _ _ _
  have hok : (encodeFrame (.script Compiled.shortTape.payload)).isOk = true := by decide +kernel
  rcases Connection.exists_frame_of_isOk hok with ⟨frame, hframe⟩
  have hpeer := heffects.delivered frame (reaches_tapeWorld hframe)
  refine ⟨by decide +kernel, frame, hframe, ?_, heffects.frame⟩
  rw [hpeer]
  rfl

end CommandLine
end RaceTape
