import RaceTape.Delivery.Basic
import RaceTape.Proofs.Tape.Invariant
import RaceTape.Proofs.Wire.Stream
import Mathlib.Data.List.Forall2

/-!
# Sessions

A session is a sequence of requests to one transport, which may refuse any of the messages.
Every request that succeeds leaves one message on the wire, and what is read from the wire
is what the request returned; a request that fails leaves nothing.
-/

namespace RaceTape
namespace Delivery

open Wire

/-!
## Requests

A turn is a request with the reason for which its message is refused, if it is.  What it comes to
depends on these alone.  A request that succeeds gives a receipt, and a receipt stands for a
message.
-/

inductive Request where
  | play (source : String)
  | unload
deriving Repr

inductive Receipt where
  | played (compiled : Compiled)
  | unloaded
deriving DecidableEq, Repr

def Request.run [Monad m] (t : Transport m) (sentinel : String) :
    Request -> m (Except DeliveryError Receipt)
  | .play source => do
      let result ← sendTape t sentinel source
      return result.map .played
  | .unload => do
      let result ← Delivery.unload t
      return result.map fun _ => .unloaded

structure Turn where
  request : Request
  refusal : Option String
deriving Repr

def Turn.run (sentinel : String) (turn : Turn) :
    StateM Recorder (Except DeliveryError Receipt) := fun r =>
  turn.request.run Recorder.transport sentinel (r.refuse turn.refusal)

def session (sentinel : String) :
    List Turn -> StateM Recorder (List (Except DeliveryError Receipt))
  | [] => pure []
  | turn :: rest => do
      let result ← turn.run sentinel
      let results ← session sentinel rest
      return result :: results

def receipts (results : List (Except DeliveryError Receipt)) : List Receipt :=
  results.filterMap Except.toOption

def Turn.unlessRefused (turn : Turn) (receipt : Receipt) : Except DeliveryError Receipt :=
  match turn.refusal with
  | some reason => .error (.transport reason)
  | none => .ok receipt

/-- What a turn comes to, given only its request and its refusal. -/
def Turn.outcome (sentinel : String) (turn : Turn) : Except DeliveryError Receipt :=
  match turn.request with
  | .play source =>
      match Compiled.ofSource sentinel source with
      | .error fault => .error (.rejected fault)
      | .ok compiled => turn.unlessRefused (.played compiled)
  | .unload => turn.unlessRefused .unloaded

def Receipt.message : Receipt -> Message
  | .played compiled => .script compiled.payload
  | .unloaded => .unload

/-!
## One turn

A turn gives its outcome and adds the message of its receipt, if it has one.  A tape that is
rejected is logged, and the transport is not used.
-/

theorem run_noteAll (events : List Log.Event) (r : Recorder) :
    Recorder.transport.noteAll events r = ((), { r with log := r.log ++ events }) := by
  induction events generalizing r with
  | nil =>
      rw [List.append_nil]
      rfl
  | cons event events ih =>
      show Recorder.transport.noteAll events { r with log := r.log ++ [event] } = _
      rw [ih, List.append_assoc]
      rfl

theorem sendTape_of_error [Monad m] {sentinel source : String} {fault : Fault}
    (h : Compiled.ofSource sentinel source = .error fault) (t : Transport m) :
    sendTape t sentinel source =
      (do
        t.noteAll (Compiled.events sentinel source)
        return .error (.rejected fault)) := by
  rw [sendTape, h]

theorem run_play (sentinel source : String) (refusal : Option String) (r : Recorder) :
    let turn : Turn := ⟨.play source, refusal⟩
    (turn.run sentinel r).1 = turn.outcome sentinel ∧
      (turn.run sentinel r).2.sent =
        r.sent ++ (receipts [turn.outcome sentinel]).map Receipt.message := by
  simp only [Turn.run, Request.run, Turn.outcome, Turn.unlessRefused, Recorder.refuse]
  cases h : Compiled.ofSource sentinel source with
  | error fault =>
      rw [sendTape_of_error h]
      simp only [bind, StateT.bind, pure, run_noteAll]
      exact ⟨rfl, (List.append_nil _).symm⟩
  | ok compiled =>
      rw [sendTape, h]
      simp only [bind, StateT.bind, pure, run_noteAll]
      cases refusal with
      | none => exact ⟨rfl, rfl⟩
      | some reason => exact ⟨rfl, (List.append_nil _).symm⟩

theorem run_unload (sentinel : String) (refusal : Option String) (r : Recorder) :
    let turn : Turn := ⟨.unload, refusal⟩
    (turn.run sentinel r).1 = turn.outcome sentinel ∧
      (turn.run sentinel r).2.sent =
        r.sent ++ (receipts [turn.outcome sentinel]).map Receipt.message := by
  cases refusal with
  | none => exact ⟨rfl, rfl⟩
  | some reason => exact ⟨rfl, (List.append_nil _).symm⟩

theorem run_turn (sentinel : String) (turn : Turn) (r : Recorder) :
    (turn.run sentinel r).1 = turn.outcome sentinel ∧
      (turn.run sentinel r).2.sent =
        r.sent ++ (receipts [turn.outcome sentinel]).map Receipt.message := by
  rcases turn with ⟨request, refusal⟩
  cases request with
  | play source => exact run_play sentinel source refusal r
  | unload => exact run_unload sentinel refusal r

/-!
## Whole sessions
-/

theorem receipts_cons (result : Except DeliveryError Receipt)
    (results : List (Except DeliveryError Receipt)) :
    receipts (result :: results) = receipts [result] ++ receipts results := by
  cases result with
  | error e => rfl
  | ok receipt => rfl

/-- A session gives the outcomes of its turns and adds the messages of their receipts. -/
theorem run_session (sentinel : String) (turns : List Turn) (r : Recorder) :
    (session sentinel turns r).1 = turns.map (Turn.outcome sentinel) ∧
      (session sentinel turns r).2.sent =
        r.sent ++ (receipts (turns.map (Turn.outcome sentinel))).map Receipt.message := by
  induction turns generalizing r with
  | nil => exact ⟨rfl, (List.append_nil _).symm⟩
  | cons turn turns ih =>
      -- The rest begins with the recorder that the first turn leaves.
      rcases run_turn sentinel turn r with ⟨hresult, hsent⟩
      rcases ih (turn.run sentinel r).2 with ⟨hresults, hsents⟩
      constructor
      · show (turn.run sentinel r).1 :: (session sentinel turns (turn.run sentinel r).2).1 = _
        rw [hresult, hresults, List.map_cons]
      · show (session sentinel turns (turn.run sentinel r).2).2.sent = _
        rw [hsents, hsent, List.map_cons, receipts_cons _ (turns.map _), List.map_append,
          List.append_assoc]

/-!
## On the wire

A message matches a receipt if it is the payload of its tape, or the request to unload.  The turns
at the end are a tape that is sent, a refused message, a tape that is rejected, and a message that
is sent.
-/

/-- The message is what the receipt says: the payload of its tape, or the request to unload. -/
def Receipt.MatchedBy : Receipt -> Message -> Prop
  | .played compiled, message =>
      message.kind = .script ∧
        Payload.decode message.payload =
          .ok (compiled.tape.setup, compiled.tape.framebulks)
  | .unloaded, message => message = .unload

theorem outcome_play_of_ok {sentinel source : String} {compiled : Compiled}
    (h : Compiled.ofSource sentinel source = .ok compiled) (refusal : Option String) :
    Turn.outcome sentinel ⟨.play source, refusal⟩ =
      Turn.unlessRefused ⟨.play source, refusal⟩ (.played compiled) := by
  simp only [Turn.outcome, h]

theorem outcome_play_of_error {sentinel source : String} {fault : Fault}
    (h : Compiled.ofSource sentinel source = .error fault) (refusal : Option String) :
    Turn.outcome sentinel ⟨.play source, refusal⟩ = .error (.rejected fault) := by
  simp only [Turn.outcome, h]

theorem ofSource_of_outcome {sentinel : String} {turn : Turn} {compiled : Compiled}
    (h : turn.outcome sentinel = .ok (.played compiled)) :
    exists source, Compiled.ofSource sentinel source = .ok compiled := by
  rcases turn with ⟨request, refusal⟩
  cases request with
  | unload => cases refusal <;> cases h
  | play source =>
      refine ⟨source, ?_⟩
      cases hsource : Compiled.ofSource sentinel source with
      | error fault =>
          rw [outcome_play_of_error hsource] at h
          cases h
      | ok found =>
          rw [outcome_play_of_ok hsource] at h
          cases refusal with
          | some reason => cases h
          | none =>
              cases h
              rfl

theorem matchedBy_message {sentinel : String} {turn : Turn} {receipt : Receipt}
    (h : turn.outcome sentinel = .ok receipt) : receipt.MatchedBy receipt.message := by
  cases receipt with
  | unloaded => rfl
  | played compiled =>
      rcases ofSource_of_outcome h with ⟨source, hsource⟩
      have hvalid := Compiled.isValid_of_ofSource hsource
      have hpayload := ((Compiled.ofSource_eq_ok_iff _ _ _).mp hsource).2
      refine ⟨rfl, ?_⟩
      show Payload.decode compiled.payload = _
      rw [hpayload]
      exact hvalid.decode_payload

theorem forall₂_matchedBy (sentinel : String) (turns : List Turn) :
    List.Forall₂ Receipt.MatchedBy
      (receipts (turns.map (Turn.outcome sentinel)))
      ((receipts (turns.map (Turn.outcome sentinel))).map Receipt.message) := by
  rw [List.forall₂_map_right_iff, List.forall₂_same]
  intro receipt hmem
  rcases List.mem_filterMap.mp hmem with ⟨result, hresult, hreceipt⟩
  rcases List.mem_map.mp hresult with ⟨turn, _, rfl⟩
  cases houtcome : turn.outcome sentinel with
  | error e =>
      rw [houtcome] at hreceipt
      cases hreceipt
  | ok found =>
      rw [houtcome] at hreceipt
      cases hreceipt
      exact matchedBy_message houtcome

theorem sent_of_error {sentinel : String} {turn : Turn} {r : Recorder} {e : DeliveryError}
    (h : (turn.run sentinel r).1 = .error e) : (turn.run sentinel r).2.sent = r.sent := by
  rcases run_turn sentinel turn r with ⟨hresult, hsent⟩
  rw [hsent, ← hresult, h]
  exact List.append_nil _

/--
The frames of the messages that a session sends are read back, to the last byte, as one
message for each request that succeeded, in order, and each message holds what its request
returned.  A request that fails sends nothing, and a tape that is rejected does not even use
the transport.
-/
theorem session_on_wire {sentinel : String} {turns : List Turn}
    {results : List (Except DeliveryError Receipt)} {recorder : Recorder}
    (hrun : session sentinel turns Recorder.empty = (results, recorder))
    (hsize : forall message, message ∈ recorder.sent ->
      message.payload.length < 2147483647) :
    (exists frames : List Bytes,
      recorder.sent.map encodeFrame = frames.map .ok ∧
        Reads decodeFrame frames.flatten
          (recorder.sent.map fun message => (message, frameSize message)) [] ∧
        readFrames frames.flatten =
          recorder.sent.map fun message => .ok (message, frameSize message)) ∧
      results = turns.map (Turn.outcome sentinel) ∧
      List.Forall₂ Receipt.MatchedBy (receipts results) recorder.sent ∧
      (forall (turn : Turn) (r : Recorder) (e : DeliveryError),
        (turn.run sentinel r).1 = .error e -> (turn.run sentinel r).2.sent = r.sent) ∧
      (forall (source : String) (fault : Fault),
        Compiled.ofSource sentinel source = .error fault ->
          forall (m : Type -> Type) [Monad m] (t : Transport m),
            sendTape t sentinel source =
              (do
                t.noteAll (Compiled.events sentinel source)
                return .error (.rejected fault))) := by
  rcases run_session sentinel turns Recorder.empty with ⟨hresults, hsent⟩
  simp only [hrun] at hresults hsent
  refine ⟨?_, hresults, ?_, ?_, ?_⟩
  · have hframed : forall message, message ∈ recorder.sent ->
        message.payload.length + 1 ≤ maxLength := fun message hmem => hsize message hmem
    rcases exists_frames hframed with ⟨frames, hframes⟩
    have hreads := reads_frames hframes []
    rw [List.append_nil] at hreads
    exact ⟨frames, hframes, hreads, readFrames_flatten hframes⟩
  · rw [hsent, hresults]
    exact forall₂_matchedBy sentinel turns
  · intro turn r e h
    exact sent_of_error h
  · intro source fault h m _ t
    exact sendTape_of_error h t

def mixedTurns : List Turn :=
  [⟨.play Compiled.shortSource, none⟩, ⟨.unload, some "refused"⟩, ⟨.play "map abyss", none⟩,
    ⟨.unload, none⟩]

theorem outcome_mixedTurns :
    mixedTurns.map (Turn.outcome standardSentinel) =
      [.ok (.played (Compiled.ofTape Compiled.shortTape)), .error (.transport "refused"),
        .error (.rejected (.sentinelNotFound "framebulks")), .ok .unloaded] := by
  have hrejected :
      Compiled.ofSource standardSentinel "map abyss" =
        .error (.sentinelNotFound "framebulks") := by rfl
  rw [mixedTurns, List.map_cons, List.map_cons, List.map_cons,
    outcome_play_of_ok Compiled.ofSource_shortSource, outcome_play_of_error hrejected]
  rfl

theorem session_mixedTurns :
    exists results recorder,
      session standardSentinel mixedTurns Recorder.empty = (results, recorder) ∧
        recorder.sent = [.script Compiled.shortTape.payload, .unload] ∧
        List.Forall₂ Receipt.MatchedBy (receipts results) recorder.sent ∧
        exists frames : List Bytes,
          recorder.sent.map encodeFrame = frames.map .ok ∧
            Reads decodeFrame frames.flatten
              (recorder.sent.map fun message => (message, frameSize message)) [] := by
  have hsent := (run_session standardSentinel mixedTurns Recorder.empty).2
  rw [outcome_mixedTurns] at hsent
  rcases hrun : session standardSentinel mixedTurns Recorder.empty with ⟨results, recorder⟩
  replace hsent : recorder.sent = [.script Compiled.shortTape.payload, .unload] := by
    rw [hrun] at hsent
    exact hsent
  have hsize : forall message, message ∈ recorder.sent ->
      message.payload.length < 2147483647 := by
    rw [hsent]
    decide
  rcases session_on_wire hrun hsize with ⟨⟨frames, hframes, hreads, _⟩, _, hmatched, _⟩
  exact ⟨results, recorder, rfl, hsent, hmatched, frames, hframes, hreads⟩

end Delivery
end RaceTape
