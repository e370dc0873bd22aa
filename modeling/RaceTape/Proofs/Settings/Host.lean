import RaceTape.Proofs.Endpoint
import RaceTape.Settings.Config

/-!
# The address of a configuration

A configuration gives its host and its port apart, and they are read as one endpoint after they
have been joined by a colon.  What comes of it is known from the host alone: four octets and groups
in brackets are hosts, groups without brackets are not.  No host can change the port.
-/

namespace RaceTape

open Endpoint

namespace Config

theorem toList_addressText (config : Config) :
    config.addressText.toList =
      config.host.toList ++ ':' :: (toString config.port.toNat).toList := by
  simp [addressText]

theorem endpoint_eq (config : Config) :
    config.endpoint =
      (parse? config.addressText).elim (.error (.invalidAddress config.addressText)) .ok := by
  delta endpoint
  cases parse? config.addressText with
  | none => rfl
  | some found => rfl

theorem endpoint_eq_ok_iff {config : Config} {e : Endpoint} :
    config.endpoint = .ok e ↔ SpellsHost config.host.toList e.address ∧ e.port = config.port := by
  rw [← spells_join_iff (spellsNumber_toString config.port.toNat), ← toList_addressText,
    ← parse?_eq_some_iff, endpoint_eq]
  cases parse? config.addressText with
  | none => simp
  | some found => simp

theorem eq_of_endpoint_eq_error {config : Config} {fault : ConfigError}
    (h : config.endpoint = .error fault) : fault = .invalidAddress config.addressText := by
  rw [endpoint_eq] at h
  cases hparse : parse? config.addressText with
  | some found =>
      rw [hparse] at h
      cases h
  | none =>
      rw [hparse] at h
      cases h
      rfl

theorem endpoint_eq_error {config : Config}
    (h : forall address, ¬SpellsHost config.host.toList address) :
    config.endpoint = .error (.invalidAddress config.addressText) := by
  cases hendpoint : config.endpoint with
  | ok e => exact absurd (endpoint_eq_ok_iff.mp hendpoint).1 (h e.address)
  | error fault => rw [eq_of_endpoint_eq_error hendpoint]

def bracketed (config : Config) : Config :=
  { config with host := "[" ++ config.host ++ "]" }

theorem spellsHost_bracketed {config : Config} {groups : List UInt16} {scope : UInt32}
    (h : SpellsAddress config.host.toList (.v6 groups scope)) :
    SpellsHost config.bracketed.host.toList (.v6 groups scope) := by
  cases scope_of_spellsAddress h
  have hhost := SpellsHost.v6 h .absent
  simpa [bracketed] using hhost

/--
The endpoint of a configuration has the address that the host is and the configured port.  Where
the host is no address that may stand before a port, the error repeats the host and the port.
-/
theorem endpoint_of_host (config : Config) :
    (forall e, config.endpoint = .ok e ↔
      SpellsHost config.host.toList e.address ∧ e.port = config.port) ∧
    (forall a b c d, SpellsAddress config.host.toList (.v4 a b c d) ->
      config.endpoint = .ok ⟨.v4 a b c d, config.port⟩) ∧
    (forall groups scope, SpellsAddress config.host.toList (.v6 groups scope) ->
      config.endpoint =
        .error (.invalidAddress (config.host ++ ":" ++ toString config.port.toNat)) ∧
      config.bracketed.endpoint = .ok ⟨.v6 groups scope, config.port⟩) ∧
    (forall fault, config.endpoint = .error fault ->
      fault = .invalidAddress (config.host ++ ":" ++ toString config.port.toNat)) := by
  refine ⟨fun e => endpoint_eq_ok_iff, ?_, ?_, fun fault => eq_of_endpoint_eq_error⟩
  · intro a b c d h
    exact endpoint_eq_ok_iff.mpr ⟨.v4 h, rfl⟩
  · intro groups scope h
    constructor
    · exact endpoint_eq_error (not_spellsHost_of_v6 h)
    · exact endpoint_eq_ok_iff.mpr ⟨spellsHost_bracketed h, rfl⟩

/-- The groups of the local host are an address, and with a port behind them they are none. -/
theorem bare_groups_refused :
    SpellsAddress "::1".toList (.v6 [0, 0, 0, 0, 0, 0, 0, 1] 0) ∧
      { standard with host := "::1" }.endpoint = .error (.invalidAddress "::1:27015") :=
  ⟨.v6 rfl, rfl⟩

end Config

end RaceTape
