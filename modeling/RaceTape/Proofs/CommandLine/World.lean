import RaceTape.CommandLine.Run
import RaceTape.CommandLine.World
import RaceTape.Proofs.Connection.Step

/-!
# What actions do to a world

Most of what the program does to a world is to log and to print.  The rest of the world is its
scene, on which statements about actions are made: such an action leaves the scene alone,
and an action that calls the control module leaves the files alone.
-/

namespace RaceTape
namespace CommandLine

open Wire

/-!
The scene is the world without what the program has written out.
-/

structure Scene where
  wording : Wording
  environment : List (String × String)
  files : FileTree
  listener : Endpoint
  peer : Peer
  connection : Option Connection

namespace World

def scene (w : World) : Scene :=
  { wording := w.wording
    environment := w.environment
    files := w.files
    listener := w.listener
    peer := w.peer
    connection := w.connection }

end World

/-!
## Actions

`Ends` is the triple of a precondition on scenes, a postcondition and an action.  `Leads` does not
look at what the action returns, and `Gives` fixes it.  A quiet action leaves the scene alone.
-/

/-- From scenes with `P`, what the action returns and the scene that it leads to have `Q`. -/
def Ends (P : Scene -> Prop) (Q : α -> Scene -> Prop) (action : StateM World α) : Prop :=
  forall w : World, P w.scene -> Q (action w).1 (action w).2.scene

abbrev Leads (P Q : Scene -> Prop) (action : StateM World α) : Prop :=
  Ends P (fun _ => Q) action

abbrev Gives (P Q : Scene -> Prop) (a : α) (action : StateM World α) : Prop :=
  Ends P (fun b s => b = a ∧ Q s) action

def Quiet (action : StateM World α) : Prop :=
  forall w : World, (action w).2.scene = w.scene

section

variable {P Q : Scene -> Prop} {R : β -> Scene -> Prop} {action : StateM World α}
  {next : α -> StateM World β}

theorem Ends.bind {S : α -> Scene -> Prop} (h : Ends P S action)
    (hnext : forall a, Ends (S a) R (next a)) : Ends P R (action >>= next) := by
  intro w hw
  exact hnext (action w).1 (action w).2 (h w hw)

theorem Gives.bind {a : α} (h : Gives P Q a action) (hnext : Ends Q R (next a)) :
    Ends P R (action >>= next) := by
  intro w hw
  rcases h w hw with ⟨hresult, hscene⟩
  show R (next (action w).1 (action w).2).1 (next (action w).1 (action w).2).2.scene
  rw [hresult]
  exact hnext (action w).2 hscene

theorem Gives.leads {a : α} (h : Gives P Q a action) : Leads P Q action :=
  fun w hw => (h w hw).2

theorem gives_pure (P : Scene -> Prop) (a : α) : Gives P P a (pure a) :=
  fun _ hw => ⟨rfl, hw⟩

theorem quiet_pure (a : α) : Quiet (pure a) := fun _ => rfl

theorem Quiet.bind (h : Quiet action) (hnext : forall a, Quiet (next a)) :
    Quiet (action >>= next) := by
  intro w
  exact (hnext (action w).1 (action w).2).trans (h w)

theorem Quiet.leads (h : Quiet action) (P : Scene -> Prop) : Leads P P action := by
  intro w hw
  rw [h w]
  exact hw

theorem Quiet.gives {action : StateM World Unit} (h : Quiet action) (P : Scene -> Prop) :
    Gives P P () action :=
  fun w hw => ⟨rfl, h.leads P w hw⟩

end

/-!
## Logging and printing

All of this is quiet, and so are failures.
-/

theorem scene_addEvent (w : World) (e : Log.Event) : (w.addEvent e).scene = w.scene := by
  unfold World.addEvent
  split
  · rfl
  · split
    · rfl
    · rfl

theorem scene_addEvents (events : List Log.Event) (w : World) :
    (events.foldl World.addEvent w).scene = w.scene := by
  induction events generalizing w with
  | nil => rfl
  | cons event events ih => exact (ih (w.addEvent event)).trans (scene_addEvent w event)

theorem quiet_note (e : Log.Event) : Quiet (World.host.note e) := fun w => scene_addEvent w e

theorem quiet_noteAll (events : List Log.Event) : Quiet (World.host.noteAll events) := by
  induction events with
  | nil => exact quiet_pure ()
  | cons event events ih => exact (quiet_note event).bind fun _ => ih

theorem quiet_transport_noteAll (endpoint : Endpoint) (events : List Log.Event) :
    Quiet ((World.transport endpoint).noteAll events) := by
  induction events with
  | nil => exact quiet_pure ()
  | cons event events ih => exact (quiet_note event).bind fun _ => ih

theorem quiet_openLog (filter : Log.Filter) : Quiet (World.host.openLog filter) := fun _ => rfl

theorem quiet_complain (text : String) : Quiet (World.host.complain text) := fun _ => rfl

theorem quiet_startLog (settings : Settings) : Quiet (startLog World.host settings) := by
  apply Quiet.bind (fun _ => rfl)
  intro asked
  dsimp only
  split
  · exact quiet_openLog _
  · exact (quiet_complain _).bind fun _ => quiet_openLog _

theorem quiet_fail (failure : Failure) : Quiet (fail World.host failure) :=
  (quiet_complain failure.report).bind fun _ => quiet_pure 1

theorem quiet_refuseUsage (e : UsageError) : Quiet (refuseUsage World.host e) := by
  apply Quiet.bind (fun _ => rfl)
  intro wording
  exact (quiet_complain _).bind fun _ => quiet_pure usageStatus

/-!
## Calling the control module

Before the first call there is no connection.  Afterwards there is one, and if it leads to where
the peer listens, then it leads to that peer.  A message changes the peer only there.
-/

namespace Scene

structure Fresh (files : FileTree) (listener : Endpoint) (peer : Peer) (s : Scene) : Prop where
  files_eq : s.files = files
  listener_eq : s.listener = listener
  peer_eq : s.peer = peer
  connection : s.connection = none

structure Called (files : FileTree) (listener : Endpoint) (peer : Peer) (s : Scene) : Prop where
  files_eq : s.files = files
  listener_eq : s.listener = listener
  peer_eq : s.peer = peer
  connection : exists c, s.connection = some c ∧ (c.endpoint = listener -> c.peer = peer)

end Scene

section

variable {files : FileTree} {listener : Endpoint} {peer : Peer}

theorem scene_keep (w : World) (c : Connection) :
    (w.keep c).scene =
      { w.scene with
        connection := some { c with log := [] }
        peer := if c.endpoint = w.listener then c.peer else w.peer } := by
  unfold World.keep
  rw [scene_addEvents]
  split
  · rfl
  · rfl

theorem called_keep {w : World} {c : Connection} (hfiles : w.files = files)
    (hlistener : w.listener = listener) (hpeer : c.endpoint = listener -> c.peer = peer)
    (hother : c.endpoint ≠ listener -> w.peer = peer) :
    (w.keep c).scene.Called files listener peer := by
  rw [scene_keep, hlistener]
  refine ⟨hfiles, hlistener, ?_, { c with log := [] }, rfl, hpeer⟩
  show (if c.endpoint = listener then c.peer else w.peer) = peer
  split
  · next h => exact hpeer h
  · next h => exact hother h

/-- A connection that is used without telling the peer anything leaves the world as it was. -/
theorem called_keep_of_called {w : World} {c next : Connection}
    (hw : w.scene.Called files listener peer) (hc : w.connection = some c)
    (hendpoint : next.endpoint = c.endpoint) (hpeer : next.peer = c.peer) :
    (w.keep next).scene.Called files listener peer := by
  rcases hw.connection with ⟨found, hfound, hlinked⟩
  have heq : c = found := Option.some.inj (hc.symm.trans hfound)
  apply called_keep hw.files_eq hw.listener_eq
  · rw [hendpoint, hpeer, heq]
    exact hlinked
  · intro _
    exact hw.peer_eq

/-- The peer after a message was sent to an endpoint, which calls it if it listens there. -/
def peerAfter (listener : Endpoint) (peer : Peer) (endpoint : Endpoint) (message : Message) :
    Peer :=
  if endpoint = listener then peer.called message else peer

theorem leads_send (endpoint : Endpoint) (message : Message) :
    Leads (Scene.Fresh files listener peer)
      (Scene.Called files listener (peerAfter listener peer endpoint message))
      ((World.transport endpoint).send message) := by
  intro w hw
  unfold peerAfter
  have hto : w.connectionTo endpoint =
      Connection.new endpoint (if endpoint = listener then peer else Peer.refusing) := by
    unfold World.connectionTo
    rw [show w.connection = none from hw.connection, show w.listener = listener from
      hw.listener_eq, show w.peer = peer from hw.peer_eq]
  show (w.keep (Connection.transport.send message (w.connectionTo endpoint)).2).scene.Called _ _ _
  rw [hto, Connection.transport_send]
  apply called_keep hw.files_eq hw.listener_eq
  · intro hlistens
    rw [Connection.endpoint_send] at hlistens
    replace hlistens : endpoint = listener := hlistens
    rw [if_pos hlistens, if_pos hlistens]
    exact (Connection.isIdle_new endpoint peer).peer_send message
  · intro hother
    rw [Connection.endpoint_send] at hother
    replace hother : endpoint ≠ listener := hother
    rw [if_neg hother]
    exact hw.peer_eq

theorem leads_receive (endpoint : Endpoint) :
    Leads (Scene.Called files listener peer) (Scene.Called files listener peer)
      (World.transport endpoint).receive := by
  intro w hw
  rcases hw.connection with ⟨c, hc, hlinked⟩
  have hto : w.connectionTo endpoint = c := by
    unfold World.connectionTo
    rw [show w.connection = some c from hc]
  show (w.keep (Connection.transport.receive (w.connectionTo endpoint)).2).scene.Called _ _ _
  rw [hto, Connection.transport_receive]
  exact called_keep_of_called hw hc (Connection.endpoint_receive c) (Connection.peer_receive c)

theorem leads_hangUp (endpoint : Endpoint) (milliseconds : UInt64) :
    Leads (Scene.Called files listener peer) (Scene.Called files listener peer)
      (World.host.hangUp endpoint milliseconds) := by
  intro w hw
  rcases hw.connection with ⟨c, hc, hlinked⟩
  show (World.hangUp w).2.scene.Called _ _ _
  unfold World.hangUp
  rw [show w.connection = some c from hc]
  exact called_keep_of_called hw hc (Connection.endpoint_close c) (Connection.peer_close c)

/-!
## Reading and writing files

A file is written if a path for it is given; what cannot be written leaves the tree as it was.
-/

theorem gives_readScript (path : String) :
    Gives (Scene.Fresh files listener peer) (Scene.Fresh files listener peer)
      ((files.readText path).mapError fun fault =>
        { what := "failed to read script " ++ path, causes := [fault.message] })
      (readScript World.host path) := by
  intro w hw
  have hfiles : w.files = files := hw.files_eq
  simp only [readScript, bind, StateT.bind, World.host, hfiles]
  cases files.readText path with
  | error fault => exact ⟨rfl, hw⟩
  | ok source => exact ⟨rfl, hw⟩

def overwrite (files : FileTree) (path : Option String) (bytes : Bytes) :
    Except FileFault FileTree :=
  match path with
  | none => .ok files
  | some path => files.write path bytes

theorem gives_writeOutput_of_ok {path : Option String} {bytes : Bytes} {after : FileTree}
    (h : overwrite files path bytes = .ok after) (what : String) (done : String -> String) :
    Gives (Scene.Fresh files listener peer) (Scene.Fresh after listener peer) (.ok ())
      (writeOutput World.host path bytes what done) := by
  cases path with
  | none =>
      cases h
      exact gives_pure _ _
  | some path =>
      have hwrite : Gives (Scene.Fresh files listener peer) (Scene.Fresh after listener peer)
          (.ok ()) (World.host.write path bytes) := by
        intro w hw
        show (World.write path bytes w).1 = _ ∧ (World.write path bytes w).2.scene.Fresh _ _ _
        unfold World.write
        rw [show w.files = files from hw.files_eq, show files.write path bytes = .ok after from h]
        exact ⟨rfl, rfl, hw.listener_eq, hw.peer_eq, hw.connection⟩
      exact hwrite.bind (((quiet_note _).gives _).bind (gives_pure _ _))

theorem exists_gives_writeOutput_of_error {path : Option String} {bytes : Bytes} {fault : FileFault}
    (h : overwrite files path bytes = .error fault) (what : String) (done : String -> String) :
    exists failure,
      Gives (Scene.Fresh files listener peer) (Scene.Fresh files listener peer) (.error failure)
        (writeOutput World.host path bytes what done) := by
  cases path with
  | none => cases h
  | some path =>
      have hwrite : Gives (Scene.Fresh files listener peer) (Scene.Fresh files listener peer)
          (.error fault) (World.host.write path bytes) := by
        intro w hw
        show (World.write path bytes w).1 = _ ∧ (World.write path bytes w).2.scene.Fresh _ _ _
        unfold World.write
        rw [show w.files = files from hw.files_eq, show files.write path bytes = _ from h]
        exact ⟨rfl, hw⟩
      exact ⟨_, hwrite.bind (gives_pure _ _)⟩

end

end CommandLine
end RaceTape
