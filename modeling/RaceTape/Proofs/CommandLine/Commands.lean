import RaceTape.Proofs.CommandLine.World
import RaceTape.Proofs.Settings.Files
import RaceTape.Proofs.Tape.Invariant

/-!
# What commands do

What a command has to send and to write is told by the settings and by the files with which it
begins.  It calls the control module with that message and nothing else, or it writes those
files, or it fails and does neither.
-/

namespace RaceTape
namespace CommandLine

open Wire

/-!
## What there is to send and to write

With its settings a command has a message for the control module, or files to write, or neither.
The payload of a tape is written first, and its document only if this succeeded; no other locations
are written to.
-/

def Settings.compiled? (settings : Settings) (files : FileTree) : Option Compiled := do
  let source ← (files.readText settings.scriptPath).toOption
  (Compiled.ofSource settings.sentinel source).toOption

/-- The message that a command has for the control module. -/
def Command.message? (settings : Settings) (files : FileTree) : Command -> Option Message
  | .send _ => (settings.compiled? files).map fun compiled => .script compiled.payload
  | .compile _ _ => none
  | .unload => some .unload

def writeBoth (files : FileTree) (compiled : Compiled) (output document : Option String) :
    FileTree :=
  match overwrite files output compiled.payload with
  | .error _ => files
  | .ok first =>
      match overwrite first document (Text.Utf8.ofString compiled.tape.document.pretty) with
      | .error _ => first
      | .ok second => second

/-- The files that a command leaves when it begins with the given ones. -/
def Command.filesAfter (settings : Settings) (files : FileTree) : Command -> FileTree
  | .send _ => files
  | .unload => files
  | .compile output document =>
      match settings.compiled? files with
      | none => files
      | some compiled => writeBoth files compiled output document

/-- The locations that a command may write to. -/
def Command.targets : Command -> List Location
  | .send _ => []
  | .unload => []
  | .compile output document => (output.toList ++ document.toList).map Location.ofPath

theorem frame_of_overwrite {locations : List Location} {files after : FileTree}
    {path : Option String} {bytes : Bytes} (h : overwrite files path bytes = .ok after)
    (hmem : forall target, path = some target -> Location.ofPath target ∈ locations) :
    files.Frame locations after := by
  cases path with
  | none =>
      cases h
      exact .refl locations files
  | some target => exact FileTree.frame_of_write (hmem target rfl) h

theorem frame_writeBoth (files : FileTree) (compiled : Compiled)
    (output document : Option String) :
    files.Frame (Command.compile output document).targets
      (writeBoth files compiled output document) := by
  unfold writeBoth
  split
  · exact .refl _ files
  · next first hfirst =>
      have hframe : files.Frame (Command.compile output document).targets first := by
        apply frame_of_overwrite hfirst
        intro target htarget
        rw [htarget]
        exact List.mem_cons_self
      split
      · exact hframe
      · next second hsecond =>
          refine hframe.trans (frame_of_overwrite hsecond ?_)
          intro target htarget
          rw [htarget]
          exact List.mem_map_of_mem (List.mem_append_right _ List.mem_cons_self)

theorem frame_filesAfter (settings : Settings) (files : FileTree) (command : Command) :
    files.Frame command.targets (command.filesAfter settings files) := by
  cases command with
  | send awaitReply => exact .refl _ files
  | unload => exact .refl _ files
  | compile output document =>
      rw [Command.filesAfter]
      split
      · exact .refl _ files
      · exact frame_writeBoth files _ output document

section

variable {settings : Settings} {files : FileTree}

theorem compiled?_eq_some_iff {compiled : Compiled} :
    settings.compiled? files = some compiled ↔
      exists source, files.readText settings.scriptPath = .ok source ∧
        Compiled.ofSource settings.sentinel source = .ok compiled := by
  simp only [Settings.compiled?, Option.bind_eq_bind, Option.bind_eq_some_iff,
    toOption_eq_some_iff]

theorem of_compiled?_eq_none (h : settings.compiled? files = none) :
    (exists fault, files.readText settings.scriptPath = .error fault) ∨
      exists source fault, files.readText settings.scriptPath = .ok source ∧
        Compiled.ofSource settings.sentinel source = .error fault := by
  cases hread : files.readText settings.scriptPath with
  | error fault => exact Or.inl ⟨fault, rfl⟩
  | ok source =>
      cases hsource : Compiled.ofSource settings.sentinel source with
      | error fault => exact Or.inr ⟨source, fault, rfl, hsource⟩
      | ok compiled =>
          rw [compiled?_eq_some_iff.mpr ⟨source, hread, hsource⟩] at h
          cases h

end

/-!
## Sending

An accepted tape is sent once, and nothing is sent after it, whatever becomes of it.  Without a
tape to send, nothing is done.
-/

section

variable {files : FileTree} {listener : Endpoint} {peer : Peer}

/-- A tape that is accepted is sent, and whatever becomes of it, nothing is sent after it. -/
theorem leads_sendTape {sentinel source : String} {compiled : Compiled}
    (h : Compiled.ofSource sentinel source = .ok compiled) (endpoint : Endpoint) :
    Leads (Scene.Fresh files listener peer)
      (Scene.Called files listener (peerAfter listener peer endpoint (.script compiled.payload)))
      (Delivery.sendTape (World.transport endpoint) sentinel source) := by
  rw [Delivery.sendTape, h]
  refine ((quiet_transport_noteAll endpoint _).leads _).bind ?_
  intro _
  refine ((quiet_transport_noteAll endpoint _).leads _).bind ?_
  intro _
  refine (leads_send endpoint (.script compiled.payload)).bind ?_
  intro result
  cases result with
  | error reason => exact (quiet_pure _).leads _
  | ok done => exact ((quiet_note _).bind fun _ => quiet_pure _).leads _

theorem gives_sendTape_of_error {sentinel source : String} {fault : Fault}
    (h : Compiled.ofSource sentinel source = .error fault) (endpoint : Endpoint)
    (P : Scene -> Prop) :
    Gives P P (.error (.rejected fault))
      (Delivery.sendTape (World.transport endpoint) sentinel source) := by
  rw [Delivery.sendTape, h]
  exact ((quiet_transport_noteAll endpoint _).gives P).bind (gives_pure P _)

theorem leads_reportReply (settings : Settings) :
    Leads (Scene.Called files listener peer) (Scene.Called files listener peer)
      (reportReply World.host settings) := by
  have hawait : Leads (Scene.Called files listener peer) (Scene.Called files listener peer)
      (Delivery.awaitReply (World.transport settings.endpoint)) := by
    refine (leads_receive settings.endpoint).bind ?_
    intro result
    cases result with
    | error reason => exact (quiet_pure _).leads _
    | ok reply => exact ((quiet_note _).bind fun _ => quiet_pure _).leads _
  refine hawait.bind ?_
  intro result
  cases result with
  | error e => exact (quiet_pure _).leads _
  | ok reply => exact ((quiet_note _).bind fun _ => quiet_pure _).leads _

theorem leads_send_of_some {settings : Settings} {compiled : Compiled}
    (h : settings.compiled? files = some compiled) (awaitReply : Bool) :
    Leads (Scene.Fresh files listener peer)
      (Scene.Called files listener
        (peerAfter listener peer settings.endpoint (.script compiled.payload)))
      (send World.host settings awaitReply) := by
  rcases compiled?_eq_some_iff.mp h with ⟨source, hread, hsource⟩
  have hscript := @gives_readScript files listener peer settings.scriptPath
  rw [hread] at hscript
  refine hscript.bind ((leads_sendTape hsource settings.endpoint).bind ?_)
  intro result
  cases result with
  | error e => exact (quiet_pure _).leads _
  | ok sent =>
      refine ((quiet_note _).leads _).bind ?_
      intro _
      cases awaitReply with
      | false => exact (leads_hangUp _ _).bind fun _ => (quiet_pure _).leads _
      | true =>
          refine (leads_reportReply settings).bind ?_
          intro reply
          cases reply with
          | error failure => exact (quiet_pure _).leads _
          | ok done => exact (leads_hangUp _ _).bind fun _ => (quiet_pure _).leads _

theorem exists_gives_send_of_none {settings : Settings} (h : settings.compiled? files = none)
    (awaitReply : Bool) :
    exists failure,
      Gives (Scene.Fresh files listener peer) (Scene.Fresh files listener peer) (.error failure)
        (send World.host settings awaitReply) := by
  have hscript := @gives_readScript files listener peer settings.scriptPath
  rcases of_compiled?_eq_none h with ⟨fault, hread⟩ | ⟨source, fault, hread, hsource⟩
  · rw [hread] at hscript
    exact ⟨_, hscript.bind (gives_pure _ _)⟩
  · rw [hread] at hscript
    exact ⟨_, hscript.bind ((gives_sendTape_of_error hsource _ _).bind (gives_pure _ _))⟩

theorem leads_unload (settings : Settings) :
    Leads (Scene.Fresh files listener peer)
      (Scene.Called files listener (peerAfter listener peer settings.endpoint .unload))
      (unload World.host settings) := by
  have hsend : Leads (Scene.Fresh files listener peer)
      (Scene.Called files listener (peerAfter listener peer settings.endpoint .unload))
      (Delivery.unload (World.transport settings.endpoint)) := by
    refine (leads_send settings.endpoint .unload).bind ?_
    intro result
    cases result with
    | error reason => exact (quiet_pure _).leads _
    | ok done => exact ((quiet_note _).bind fun _ => quiet_pure _).leads _
  refine hsend.bind ?_
  intro result
  cases result with
  | error e => exact (quiet_pure _).leads _
  | ok done => exact (leads_hangUp _ _).bind fun _ => (quiet_pure _).leads _

/-!
## Compiling

A compilation leaves the peer alone.
-/

theorem leads_compile_of_some {settings : Settings} {compiled : Compiled}
    (h : settings.compiled? files = some compiled) (output document : Option String) :
    Leads (Scene.Fresh files listener peer)
      (Scene.Fresh (writeBoth files compiled output document) listener peer)
      (compile World.host settings output document) := by
  rcases compiled?_eq_some_iff.mp h with ⟨source, hread, hsource⟩
  have hscript := @gives_readScript files listener peer settings.scriptPath
  rw [hread] at hscript
  refine hscript.bind (((quiet_noteAll _).leads _).bind ?_)
  intro _
  rw [hsource]
  refine ((quiet_noteAll _).leads _).bind ?_
  intro _
  unfold writeBoth
  cases hfirst : overwrite files output compiled.payload with
  | error fault =>
      rcases exists_gives_writeOutput_of_error hfirst "payload" _ with ⟨failure, hwrite⟩
      exact hwrite.bind ((quiet_pure _).leads _)
  | ok first =>
      refine (gives_writeOutput_of_ok hfirst _ _).bind ?_
      dsimp only
      cases hsecond : overwrite first document
          (Text.Utf8.ofString compiled.tape.document.pretty) with
      | error fault =>
          rcases exists_gives_writeOutput_of_error hsecond "JSON" _ with ⟨failure, hwrite⟩
          exact hwrite.bind ((quiet_pure _).leads _)
      | ok second =>
          refine (gives_writeOutput_of_ok hsecond _ _).bind ?_
          exact ((quiet_note _).bind fun _ => quiet_pure _).leads _

theorem exists_gives_compile_of_none {settings : Settings} (h : settings.compiled? files = none)
    (output document : Option String) :
    exists failure,
      Gives (Scene.Fresh files listener peer) (Scene.Fresh files listener peer) (.error failure)
        (compile World.host settings output document) := by
  have hscript := @gives_readScript files listener peer settings.scriptPath
  rcases of_compiled?_eq_none h with ⟨fault, hread⟩ | ⟨source, fault, hread, hsource⟩
  · rw [hread] at hscript
    exact ⟨_, hscript.bind (gives_pure _ _)⟩
  · rw [hread] at hscript
    refine ⟨{ what := "failed to compile " ++ settings.scriptPath, causes := [fault.message] },
      hscript.bind (((quiet_noteAll _).gives _).bind ?_)⟩
    rw [hsource]
    exact gives_pure _ _

/-!
## Commands

A command that needs a tape fails without one, and has then done nothing.
-/

theorem leads_carryOut_of_message {settings : Settings} {command : Command} {message : Message}
    (h : command.message? settings files = some message) :
    Leads (Scene.Fresh files listener peer)
      (Scene.Called files listener (peerAfter listener peer settings.endpoint message))
      (carryOut World.host settings command) := by
  cases command with
  | send awaitReply =>
      rcases Option.map_eq_some_iff.mp h with ⟨compiled, hcompiled, rfl⟩
      exact leads_send_of_some hcompiled awaitReply
  | compile output document => cases h
  | unload =>
      cases h
      exact leads_unload settings

theorem leads_carryOut_of_silent {settings : Settings} {command : Command}
    (h : command.message? settings files = none) :
    Leads (Scene.Fresh files listener peer)
      (Scene.Fresh (command.filesAfter settings files) listener peer)
      (carryOut World.host settings command) := by
  cases command with
  | send awaitReply =>
      rcases exists_gives_send_of_none (Option.map_eq_none_iff.mp h) awaitReply with
        ⟨failure, hsend⟩
      exact hsend.leads
  | compile output document =>
      rw [Command.filesAfter]
      cases hcompiled : settings.compiled? files with
      | none =>
          rcases exists_gives_compile_of_none hcompiled output document with ⟨failure, hcompile⟩
          exact hcompile.leads
      | some compiled => exact leads_compile_of_some hcompiled output document
  | unload => cases h

theorem filesAfter_of_message {settings : Settings} {command : Command} {message : Message}
    (h : command.message? settings files = some message) :
    command.filesAfter settings files = files := by
  cases command with
  | send awaitReply => rfl
  | compile output document => cases h
  | unload => rfl

theorem exists_gives_carryOut_of_none {settings : Settings} {command : Command}
    (hcommand : command ≠ .unload) (h : settings.compiled? files = none) :
    exists failure,
      Gives (Scene.Fresh files listener peer) (Scene.Fresh files listener peer) (.error failure)
        (carryOut World.host settings command) := by
  cases command with
  | send awaitReply => exact exists_gives_send_of_none h awaitReply
  | compile output document => exact exists_gives_compile_of_none h output document
  | unload => exact absurd rfl hcommand

end

end CommandLine
end RaceTape
