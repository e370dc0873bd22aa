import RaceTape.Proofs.CommandLine.Effects
import RaceTape.Proofs.Settings.Document
import RaceTape.Proofs.Settings.Host
import RaceTape.Proofs.Settings.Reading

/-!
# Which value a setting has

A setting has the value of its option, or else of its variable, or else of its key in the
configuration, or else a standard value.  The configuration is chosen in the same order.  So what a
layer holds does not count where a layer above it decides, and no file counts but the chosen one.
-/

namespace RaceTape
namespace CommandLine

open Toml
open Config (Key Configured HeldBy writeNumber ReadsFrom chosenPath?)

/-!
## Options and variables

A variable stands in for its option: it is filled in where the option has not been given.
-/

namespace Setting

def asked (t : Setting) (given : Options) (environment : List (String × String)) :
    Option String :=
  (t.get given).or (environment.lookup t.environmentName)

theorem get_put (t u : Setting) (value : String) (o : Options) :
    u.get (t.put value o) = if u = t then some value else u.get o := by
  cases t <;> cases u <;> rfl

theorem get_addVariable {t : Setting} {value : Option String} {o filled : Options}
    (h : o.addVariable t value = .ok filled) (u : Setting) :
    u.get filled = if u = t then (t.get o).or value else u.get o := by
  unfold Options.addVariable at h
  split at h
  · next old hold =>
      cases h
      split
      · next hu => rw [hu, hold]; rfl
      · rfl
  · next hold =>
      cases h
      split
      · next hu => rw [hu, hold]; rfl
      · rfl
  · next value hold =>
      unfold set at h
      split at h
      · cases h
      · split at h
        · cases h
        · cases h
          rw [get_put, hold]
          rfl

theorem asked_addVariable {environment : List (String × String)} {t : Setting}
    {o filled : Options}
    (h : o.addVariable t (environment.lookup t.environmentName) = .ok filled) (u : Setting) :
    u.asked filled environment = u.asked o environment := by
  rw [asked, asked, get_addVariable h u]
  split
  · next hu => rw [hu, Option.or_assoc, Option.or_self]
  · rfl

theorem get_addVariables {environment : List (String × String)} {ts : List Setting}
    {o filled : Options}
    (h : ts.foldlM (fun o t => o.addVariable t (environment.lookup t.environmentName)) o =
      .ok filled) (u : Setting) :
    u.get filled = if u ∈ ts then u.asked o environment else u.get o := by
  induction ts generalizing o with
  | nil =>
      cases h
      rfl
  | cons t ts ih =>
      rw [List.foldlM_cons] at h
      cases hstep : o.addVariable t (environment.lookup t.environmentName) with
      | error e =>
          rw [hstep] at h
          cases h
      | ok next =>
          rw [hstep] at h
          rw [ih h, asked_addVariable hstep u, get_addVariable hstep u]
          by_cases hmem : u ∈ ts
          · rw [if_pos hmem, if_pos (List.mem_cons_of_mem t hmem)]
          · rw [if_neg hmem]
            by_cases hu : u = t
            · rw [if_pos hu, hu, if_pos List.mem_cons_self]
              rfl
            · rw [if_neg hu, if_neg (List.not_mem_cons_of_ne_of_not_mem hu hmem)]

theorem mem_all (t : Setting) : t ∈ all := by
  cases t <;> decide

end Setting

/-!
## Layers

A value is what the option or else the variable gives, and else whatever the fallback says.
-/

inductive Layered (given assigned : Option String) (ofText : String -> α) (Fallback : α -> Prop) :
    α -> Prop where
  | byOption {text : String} (set : given = some text) :
      Layered given assigned ofText Fallback (ofText text)
  | byVariable {text : String} (unset : given = none) (set : assigned = some text) :
      Layered given assigned ofText Fallback (ofText text)
  | byFallback {a : α} (unset : given = none) (unassigned : assigned = none)
      (holds : Fallback a) : Layered given assigned ofText Fallback a

section

variable {given assigned : Option String} {ofText : String -> α} {Fallback Other : α -> Prop}

theorem layered_iff {a : α} :
    Layered given assigned ofText Fallback a ↔
      (exists text, given.or assigned = some text ∧ a = ofText text) ∨
        (given.or assigned = none ∧ Fallback a) := by
  constructor
  · intro h
    cases h with
    | byOption hset => exact Or.inl ⟨_, Option.or_eq_some_iff.mpr (Or.inl hset), rfl⟩
    | byVariable hunset hset =>
        exact Or.inl ⟨_, Option.or_eq_some_iff.mpr (Or.inr ⟨hunset, hset⟩), rfl⟩
    | byFallback hunset hunassigned holds =>
        exact Or.inr ⟨Option.or_eq_none_iff.mpr ⟨hunset, hunassigned⟩, holds⟩
  · rintro (⟨text, htext, rfl⟩ | ⟨hnone, holds⟩)
    · rcases Option.or_eq_some_iff.mp htext with hset | ⟨hunset, hset⟩
      · exact .byOption hset
      · exact .byVariable hunset hset
    · rcases Option.or_eq_none_iff.mp hnone with ⟨hunset, hunassigned⟩
      exact .byFallback hunset hunassigned holds

/-- Two fallbacks that agree where they are used lead to the same value. -/
theorem Layered.eq {a b : α} (ha : Layered given assigned ofText Fallback a)
    (hb : Layered given assigned ofText Other b)
    (hfallback : given.or assigned = none -> Fallback a -> Other b -> a = b) : a = b := by
  rcases layered_iff.mp ha with ⟨text, htext, rfl⟩ | ⟨hnone, hfirst⟩
  · rcases layered_iff.mp hb with ⟨text', htext', rfl⟩ | ⟨hnone, _⟩
    · rw [Option.some.inj (htext.symm.trans htext')]
    · cases htext.symm.trans hnone
  · rcases layered_iff.mp hb with ⟨text, htext, _⟩ | ⟨_, hsecond⟩
    · cases htext.symm.trans hnone
    · exact hfallback hnone hfirst hsecond

end

/-!
## Settings

The fallback of a setting is its key in the document.  The address has two keys, which are joined
before they are read, and it can be refused; the other settings are texts and taken as they are.
The time limit has no option and no variable.
-/

def readEndpoint (text : String) (failure : Failure) : Except Failure Endpoint :=
  (Endpoint.parse? text).elim (.error failure) .ok

def askedEndpoint (text : String) : Except Failure Endpoint :=
  readEndpoint text
    { what := "invalid control module address: '" ++ text ++ "'"
      causes := [Endpoint.parseFailure] }

def joinedEndpoint (text : String) : Except Failure Endpoint :=
  readEndpoint text
    { what := "invalid control module address '" ++ text ++ "'"
      causes := [] }

inductive ConfiguredEndpoint (entries : List (String × Value)) :
    Except Failure Endpoint -> Prop where
  | mk {host : String} {port : UInt16}
      (host_held : Configured Value.string (Key.host.value? entries) "127.0.0.1" host)
      (port_held : Configured (writeNumber UInt16.toNat) (Key.port.value? entries) 27015 port) :
      ConfiguredEndpoint entries (joinedEndpoint (host ++ ":" ++ toString port.toNat))

inductive Resolved (given : Options) (environment : List (String × String))
    (entries : List (String × Value)) : Except Failure Settings -> Prop where
  | settled {settings : Settings}
      (endpoint :
        Layered given.address (environment.lookup "TAS_ADDR") askedEndpoint
          (ConfiguredEndpoint entries) (.ok settings.endpoint))
      (scriptPath :
        Layered given.script (environment.lookup "TAS_SCRIPT") id
          (Configured Value.string (Key.scriptPath.value? entries) "scripts/tasfile.peng")
          settings.scriptPath)
      (sentinel :
        Layered given.sentinel (environment.lookup "TAS_HEADER_END") id
          (Configured Value.string (Key.sentinel.value? entries) "framebulks")
          settings.sentinel)
      (logLevel :
        Layered given.logLevel (environment.lookup "TAS_LOG_LEVEL") id
          (Configured Value.string (Key.logLevel.value? entries) "info")
          settings.logLevel)
      (connectTimeout :
        Configured (writeNumber UInt64.toNat) (Key.connectTimeout.value? entries) 3000
          settings.connectTimeoutMs) :
      Resolved given environment entries (.ok settings)
  | refused {failure : Failure}
      (endpoint :
        Layered given.address (environment.lookup "TAS_ADDR") askedEndpoint
          (ConfiguredEndpoint entries) (.error failure)) :
      Resolved given environment entries (.error failure)

section

variable {given options : Options} {environment : List (String × String)}
  {entries : List (String × Value)} {config : Config}

theorem endpointOf_none (config : Config) :
    endpointOf none config = joinedEndpoint config.addressText := by
  delta endpointOf
  rw [joinedEndpoint, readEndpoint, Config.endpoint_eq]
  cases Endpoint.parse? config.addressText with
  | none => rfl
  | some endpoint => rfl

theorem endpointOf_some (text : String) (config : Config) :
    endpointOf (some text) config = askedEndpoint text := by
  delta endpointOf
  dsimp only
  rw [askedEndpoint, readEndpoint]
  cases Endpoint.parse? text with
  | none => rfl
  | some endpoint => rfl

theorem layered_endpointOf (h : HeldBy entries config) (address assigned : Option String) :
    Layered address assigned askedEndpoint (ConfiguredEndpoint entries)
      (endpointOf (address.or assigned) config) := by
  rw [layered_iff]
  cases address.or assigned with
  | some text => exact Or.inl ⟨text, rfl, endpointOf_some text config⟩
  | none =>
      rw [endpointOf_none]
      exact Or.inr ⟨rfl, .mk h.host h.port⟩

theorem layered_getD {Fallback : String -> Prop} {standard : String} (h : Fallback standard)
    (value assigned : Option String) :
    Layered value assigned id Fallback ((value.or assigned).getD standard) := by
  rw [layered_iff]
  cases value.or assigned with
  | some text => exact Or.inl ⟨text, rfl, rfl⟩
  | none => exact Or.inr ⟨rfl, h⟩

theorem resolved_of_heldBy (h : HeldBy entries config)
    (hoptions : forall t : Setting, t.get options = t.asked given environment) :
    Resolved given environment entries (Settings.resolve options config) := by
  have haddress : options.address = given.address.or (environment.lookup "TAS_ADDR") :=
    hoptions .address
  have hscript : options.script = given.script.or (environment.lookup "TAS_SCRIPT") :=
    hoptions .script
  have hsentinel : options.sentinel = given.sentinel.or (environment.lookup "TAS_HEADER_END") :=
    hoptions .sentinel
  have hlogLevel : options.logLevel = given.logLevel.or (environment.lookup "TAS_LOG_LEVEL") :=
    hoptions .logLevel
  have hendpoint := layered_endpointOf h given.address (environment.lookup "TAS_ADDR")
  rw [Settings.resolve, haddress, hscript, hsentinel, hlogLevel]
  cases hresult : endpointOf (given.address.or (environment.lookup "TAS_ADDR")) config with
  | error failure =>
      rw [hresult] at hendpoint
      exact .refused hendpoint
  | ok endpoint =>
      rw [hresult] at hendpoint
      exact .settled hendpoint (layered_getD h.scriptPath _ _) (layered_getD h.sentinel _ _)
        (layered_getD h.logLevel _ _) h.connectTimeout

end

/-!
## What does not count

A key does not count if an option or a variable decides in its place.  Documents that hold the same
under all other keys lead to the same settings.
-/

def overriding? (given : Options) (environment : List (String × String)) : Key -> Option String
  | .host | .port => given.address.or (environment.lookup "TAS_ADDR")
  | .connectTimeout => none
  | .scriptPath => given.script.or (environment.lookup "TAS_SCRIPT")
  | .sentinel => given.sentinel.or (environment.lookup "TAS_HEADER_END")
  | .logLevel => given.logLevel.or (environment.lookup "TAS_LOG_LEVEL")

def Agree (given : Options) (environment : List (String × String))
    (entries other : List (String × Value)) : Prop :=
  forall k : Key, overriding? given environment k = none -> k.value? other = k.value? entries

section

variable {given : Options} {environment : List (String × String)}
  {entries other : List (String × Value)}

theorem Agree.endpoint_eq (h : Agree given environment entries other)
    {a b : Except Failure Endpoint}
    (ha : Layered given.address (environment.lookup "TAS_ADDR") askedEndpoint
      (ConfiguredEndpoint entries) a)
    (hb : Layered given.address (environment.lookup "TAS_ADDR") askedEndpoint
      (ConfiguredEndpoint other) b) : a = b := by
  apply ha.eq hb
  intro hunasked hfirst hsecond
  cases hfirst with
  | @mk host port hhost hport =>
      cases hsecond with
      | @mk host' port' hhost' hport' =>
          rw [h .host hunasked] at hhost'
          rw [h .port hunasked] at hport'
          cases hhost.unique (fun _ _ => Value.string.inj) hhost'
          cases hport.unique (Config.writeNumber_inj fun _ _ => UInt16.toNat_inj.mp) hport'
          rfl

theorem Agree.text_eq (h : Agree given environment entries other) {k : Key}
    {value assigned : Option String} (hk : overriding? given environment k = value.or assigned)
    {standard a b : String}
    (ha : Layered value assigned id (Configured Value.string (k.value? entries) standard) a)
    (hb : Layered value assigned id (Configured Value.string (k.value? other) standard) b) :
    a = b := by
  apply ha.eq hb
  intro hunasked hfirst hsecond
  rw [h k (hk.trans hunasked)] at hsecond
  exact hfirst.unique (fun _ _ => Value.string.inj) hsecond

theorem Resolved.eq {a b : Except Failure Settings} (ha : Resolved given environment entries a)
    (hb : Resolved given environment other b) (h : Agree given environment entries other) :
    a = b := by
  cases ha with
  | @settled settings endpoint scriptPath sentinel logLevel connectTimeout =>
      cases hb with
      | @settled settings' endpoint' scriptPath' sentinel' logLevel' connectTimeout' =>
          have htimeout : settings.connectTimeoutMs = settings'.connectTimeoutMs := by
            rw [h .connectTimeout rfl] at connectTimeout'
            exact connectTimeout.unique (Config.writeNumber_inj fun _ _ => UInt64.toNat_inj.mp)
              connectTimeout'
          have hendpoint := Except.ok.inj (h.endpoint_eq endpoint endpoint')
          have hscriptPath := h.text_eq rfl scriptPath scriptPath'
          have hsentinel := h.text_eq rfl sentinel sentinel'
          have hlogLevel := h.text_eq rfl logLevel logLevel'
          rcases settings with ⟨_, _, _, _, _⟩
          cases hscriptPath
          cases hendpoint
          cases htimeout
          cases hsentinel
          cases hlogLevel
          rfl
      | refused endpoint' => cases h.endpoint_eq endpoint endpoint'
  | refused endpoint =>
      cases hb with
      | settled endpoint' => cases h.endpoint_eq endpoint endpoint'
      | refused endpoint' =>
          cases h.endpoint_eq endpoint endpoint'
          rfl

end

/-!
## Loading

The configuration of a scene is the one of the document that the scene leads to.  It loads exactly
if there is such a document and its values are of the right kinds.
-/

namespace Scene

variable {s : Scene} {config : Config}

theorem config_none (s : Scene) :
    s.config none =
      (chosenPath? s.environment none).elim (.ok Config.standard) fun path =>
        Config.readStandard path (s.files.readText path) := by
  delta Scene.config
  dsimp only
  rw [Config.standardPath_eq]
  cases chosenPath? s.environment none with
  | none => rfl
  | some path => rfl

theorem exists_readsFrom {path : String} {asked : Option String}
    (hpath : chosenPath? s.environment asked = some path)
    (h : Config.readAt path (s.files.readText path) = .ok config) :
    exists entries, ReadsFrom s.environment s.files asked entries ∧ HeldBy entries config := by
  rcases Config.readAt_eq_ok_iff.mp h with ⟨text, htext, hparse⟩
  rcases Config.parse_eq_ok_iff.mp hparse with ⟨entries, hentries, hconfig⟩
  exact ⟨entries, .file hpath htext hentries, hconfig⟩

theorem exists_readsFrom_of_config {asked : Option String} (h : s.config asked = .ok config) :
    exists entries, ReadsFrom s.environment s.files asked entries ∧ HeldBy entries config := by
  cases asked with
  | some path => exact exists_readsFrom rfl h
  | none =>
      rw [config_none] at h
      cases hpath : chosenPath? s.environment none with
      | none =>
          rw [hpath] at h
          cases h
          exact ⟨[], .nowhere hpath, Config.heldBy_nil⟩
      | some path =>
          rw [hpath] at h
          rcases Config.readStandard_eq_ok_iff.mp h with ⟨hmissing, rfl⟩ | hread
          · exact ⟨[], .missing rfl hpath hmissing, Config.heldBy_nil⟩
          · exact exists_readsFrom hpath hread

theorem config_of_readsFrom {asked : Option String} {entries : List (String × Value)}
    (h : ReadsFrom s.environment s.files asked entries)
    (hconfig : HeldBy entries config) : s.config asked = .ok config := by
  cases h with
  | @file path text entries chosen reads parses =>
      have hread : Config.readAt path (s.files.readText path) = .ok config :=
        Config.readAt_eq_ok_iff.mpr
          ⟨text, reads, Config.parse_eq_ok_iff.mpr ⟨entries, parses, hconfig⟩⟩
      cases asked with
      | some asked =>
          cases chosen
          exact hread
      | none =>
          rw [config_none, chosen]
          exact Config.readStandard_eq_ok_iff.mpr (Or.inr hread)
  | missing unasked chosen missing =>
      cases unasked
      cases Config.ofDocument?_eq_some_iff.mpr hconfig
      rw [config_none, chosen]
      exact Config.readStandard_eq_ok_iff.mpr (Or.inl ⟨missing, rfl⟩)
  | nowhere nothing =>
      cases Config.ofDocument?_eq_some_iff.mpr hconfig
      cases asked with
      | some asked => cases nothing
      | none =>
          rw [config_none, nothing]
          rfl

end Scene

theorem loadConfig_eq_ok_iff {asked : Option String} {w : World} {config : Config} :
    (loadConfig World.host asked w).1 = .ok config ↔ w.scene.config asked = .ok config := by
  rcases load_eq asked w with ⟨events, hload⟩
  simp only [loadConfig, bind, StateT.bind, World.host] at hload ⊢
  rw [hload]
  cases w.scene.config asked with
  | error e =>
      constructor
      · intro h
        cases h
      · intro h
        cases h
  | ok found =>
      constructor
      · intro h
        cases h
        rfl
      · intro h
        cases h
        rfl

/-!
## Started runs

A run that has come to look for its configuration: its arguments make sense, and so do the
variables that have been filled in.
-/

structure Started (arguments : List String) (w : World) where
  given : Options
  command : Command
  options : Options
  parsed : parse arguments = .ok (.run given command)
  filled : (addVariables World.host given Setting.all w).1 = .ok options

namespace Started

variable {arguments : List String} {w : World} (r : Started arguments w)

def Loads : Prop :=
  exists config, (loadConfig World.host r.options.config w).1 = .ok config

def outcome : Except Failure Settings :=
  (loadSettings World.host r.options w).1

def askedPath : Option String :=
  r.given.config.or (w.environment.lookup "TAS_CONFIG")

def Reads (entries : List (String × Value)) : Prop :=
  ReadsFrom w.environment w.files r.askedPath entries

theorem foldlM_eq :
    Setting.all.foldlM (fun o t => o.addVariable t (w.environment.lookup t.environmentName))
      r.given = .ok r.options := by
  have hfilled := r.filled
  rw [addVariables_eq] at hfilled
  exact hfilled

theorem run_eq : run World.host arguments w = runCommand World.host r.options r.command w := by
  rw [run, r.parsed]
  simp only [bind, StateT.bind, addVariables_eq, r.foldlM_eq]

theorem get_options (t : Setting) : t.get r.options = t.asked r.given w.environment := by
  rw [Setting.get_addVariables r.foldlM_eq t, if_pos t.mem_all]

theorem config_options : r.options.config = r.askedPath :=
  r.get_options .config

theorem outcome_eq {config : Config} (h : w.scene.config r.options.config = .ok config) :
    r.outcome = Settings.resolve r.options config := by
  have hgives := (gives_loadSettings w.scene r.options w rfl).1
  rw [Scene.settings, h] at hgives
  exact hgives

theorem loads_iff :
    r.Loads ↔ exists entries config, r.Reads entries ∧ HeldBy entries config := by
  simp only [Loads, loadConfig_eq_ok_iff, r.config_options]
  constructor
  · rintro ⟨config, h⟩
    rcases Scene.exists_readsFrom_of_config h with ⟨entries, hreads, hconfig⟩
    exact ⟨entries, config, hreads, hconfig⟩
  · rintro ⟨entries, config, hreads, hconfig⟩
    exact ⟨config, Scene.config_of_readsFrom hreads hconfig⟩

theorem resolved (hloads : r.Loads) {entries : List (String × Value)} (hreads : r.Reads entries) :
    Resolved r.given w.environment entries r.outcome := by
  rcases r.loads_iff.mp hloads with ⟨found, config, hfound, hconfig⟩
  cases hreads.unique hfound
  have hscene : w.scene.config r.options.config = .ok config := by
    rw [r.config_options]
    exact Scene.config_of_readsFrom hreads hconfig
  rw [r.outcome_eq hscene]
  exact resolved_of_heldBy hconfig r.get_options

theorem given_eq {w' : World} (r' : Started arguments w') : r'.given = r.given := by
  have hparsed := Except.ok.inj (r'.parsed.symm.trans r.parsed)
  exact (Request.run.inj hparsed).1

theorem outcome_eq_of_agree {w' : World} (r' : Started arguments w')
    (henvironment : w'.environment = w.environment) (hloads : r.Loads) (hloads' : r'.Loads)
    {entries entries' : List (String × Value)} (hreads : r.Reads entries)
    (hreads' : r'.Reads entries') (h : Agree r.given w.environment entries entries') :
    r'.outcome = r.outcome := by
  have hresolved := r'.resolved hloads' hreads'
  rw [r.given_eq r', henvironment] at hresolved
  exact ((r.resolved hloads hreads).eq hresolved h).symm

theorem reads_eq_of_sameAt {w' : World} (r' : Started arguments w')
    (henvironment : w'.environment = w.environment) {entries entries' : List (String × Value)}
    (hreads : r.Reads entries) (hreads' : r'.Reads entries')
    (hsame : forall path, chosenPath? w.environment r.askedPath = some path ->
      w.files.SameAt path w'.files) : entries' = entries := by
  rw [Reads, askedPath, r.given_eq r', henvironment] at hreads'
  exact ReadsFrom.eq_of_sameAt hreads hreads' hsame

end Started

/--
Each setting is what its option, its variable, its key or else its standard value says, in this
order, and so is the choice of the file with the keys.  Two runs with the same arguments in the
same environment come to the same settings, or to the same complaint about the address, if what
counts of their documents is the same, and also if the chosen file is the same.
-/
theorem settings_by_precedence {arguments : List String} {w : World} (r : Started arguments w) :
    run World.host arguments w = runCommand World.host r.options r.command w ∧
    (r.Loads ↔ exists entries config, r.Reads entries ∧ HeldBy entries config) ∧
    (r.Loads -> forall entries, r.Reads entries ->
      Resolved r.given w.environment entries r.outcome) ∧
    (forall (w' : World) (r' : Started arguments w'), w'.environment = w.environment ->
      r.Loads -> r'.Loads ->
        (forall entries entries', r.Reads entries -> r'.Reads entries' ->
          Agree r.given w.environment entries entries' -> r'.outcome = r.outcome) ∧
        ((forall path, chosenPath? w.environment r.askedPath = some path ->
          w.files.SameAt path w'.files) -> r'.outcome = r.outcome)) := by
  refine ⟨r.run_eq, r.loads_iff, fun hloads entries => r.resolved hloads, ?_⟩
  intro w' r' henvironment hloads hloads'
  constructor
  · intro entries entries' hreads hreads' hagree
    exact r.outcome_eq_of_agree r' henvironment hloads hloads' hreads hreads' hagree
  · intro hsame
    rcases r.loads_iff.mp hloads with ⟨entries, _, hreads, _⟩
    rcases r'.loads_iff.mp hloads' with ⟨entries', _, hreads', _⟩
    have heq := r.reads_eq_of_sameAt r' henvironment hreads hreads' hsame
    apply r.outcome_eq_of_agree r' henvironment hloads hloads' hreads hreads'
    intro k _
    rw [heq]

/-!
One run in which every layer decides something: an option the address, a variable the sentinel, the
file the script and the log level, and nothing the time limit.  The second file also has a host
that is no address, a key without a meaning and another sentinel, and there is a file at the place
that would be the next to look at.
-/

def plainText : String :=
  "logging = [\"warn\"]\n[script]\ndefault_path = \"race.peng\"\n"

def strayText : String :=
  plainText ++ "header_end = \"stop\"\n[network]\nhost = \"nowhere\"\nspeed = 1\n"

def plainFiles : FileTree :=
  { files := [(["etc", "t", "stk-tas", "config.toml"], Text.Utf8.ofString plainText)]
    directories := [] }

def strayFiles : FileTree :=
  { files :=
      [(["etc", "t", "stk-tas", "config.toml"], Text.Utf8.ofString strayText),
        (["home", "t", ".config", "stk-tas", "config.toml"], Text.Utf8.ofString "port")]
    directories := [] }

def layeredEnvironment : List (String × String) :=
  [("HOME", "/home/t"), ("XDG_CONFIG_HOME", "/etc/t"), ("TAS_HEADER_END", "frames")]

def layeredWorld (files : FileTree) : World :=
  World.new layeredEnvironment files ⟨.v4 127 0 0 1, 4000⟩ (Peer.accepting [])

def layeredRun (files : FileTree) :
    Started ["--addr", "10.0.0.1:9", "unload"] (layeredWorld files) where
  given := { Options.absent with address := some "10.0.0.1:9" }
  command := .unload
  options := { Options.absent with address := some "10.0.0.1:9", sentinel := some "frames" }
  parsed := rfl
  filled := rfl

def layeredConfig (host sentinel : String) : Config :=
  { host
    port := 27015
    connectTimeoutMs := 3000
    scriptPath := "race.peng"
    sentinel
    logLevel := "warn" }

def layeredSettings : Settings :=
  { scriptPath := "race.peng"
    endpoint := ⟨.v4 10 0 0 1, 9⟩
    connectTimeoutMs := 3000
    sentinel := "frames"
    logLevel := "warn" }

theorem exists_layeredDocument (files : FileTree) (text host sentinel : String)
    (hread : (files.readText "/etc/t/stk-tas/config.toml").toOption = some text)
    (hparse : (Toml.parse? text).map (fun entries =>
      (Config.ofDocument? entries, (Key.connectTimeout.value? entries).isNone)) =
        some (some (layeredConfig host sentinel), true)) :
    exists entries, (layeredRun files).Reads entries ∧
      HeldBy entries (layeredConfig host sentinel) ∧ Key.connectTimeout.value? entries = none := by
  rcases Option.map_eq_some_iff.mp hparse with ⟨entries, hentries, hchecks⟩
  injection hchecks with hconfig hnone
  have hpath : chosenPath? layeredEnvironment none = some "/etc/t/stk-tas/config.toml" := by
    decide +kernel
  exact ⟨entries, .file hpath (toOption_eq_some_iff.mp hread) hentries,
    Config.ofDocument?_eq_some_iff.mp hconfig, Option.isNone_iff_eq_none.mp hnone⟩

theorem agree_layered {entries entries' : List (String × Value)}
    {host host' sentinel sentinel' : String} (h : HeldBy entries (layeredConfig host sentinel))
    (h' : HeldBy entries' (layeredConfig host' sentinel'))
    (htimeout : Key.connectTimeout.value? entries' = Key.connectTimeout.value? entries) :
    Agree { Options.absent with address := some "10.0.0.1:9" } layeredEnvironment entries
      entries' := by
  have hpath : "race.peng" ≠ "scripts/tasfile.peng" := by decide
  have hlevel : "warn" ≠ "info" := by decide
  intro k hk
  cases k with
  | host => cases hk
  | port => cases hk
  | sentinel => cases hk
  | connectTimeout => exact htimeout
  | scriptPath =>
      exact (h'.scriptPath.eq_some_of_ne hpath).trans (h.scriptPath.eq_some_of_ne hpath).symm
  | logLevel =>
      exact (h'.logLevel.eq_some_of_ne hlevel).trans (h.logLevel.eq_some_of_ne hlevel).symm

theorem layers_decide :
    (layeredRun plainFiles).Loads ∧ (layeredRun strayFiles).Loads ∧
      (layeredRun strayFiles).outcome = (layeredRun plainFiles).outcome ∧
      (layeredRun plainFiles).outcome = .ok layeredSettings := by
  rcases exists_layeredDocument plainFiles plainText "127.0.0.1" "framebulks" (by decide +kernel)
    (by decide +kernel) with ⟨entries, hreads, hconfig, htimeout⟩
  rcases exists_layeredDocument strayFiles strayText "nowhere" "stop" (by decide +kernel)
    (by decide +kernel) with ⟨entries', hreads', hconfig', htimeout'⟩
  rcases settings_by_precedence (layeredRun plainFiles) with ⟨_, hloads, hresolved, hsame⟩
  have hplain := hloads.mpr ⟨entries, _, hreads, hconfig⟩
  have hstray := (settings_by_precedence (layeredRun strayFiles)).2.1.mpr
    ⟨entries', _, hreads', hconfig'⟩
  have hagree := agree_layered hconfig hconfig' (htimeout'.trans htimeout.symm)
  have henvironment : forall files, (layeredWorld files).environment = layeredEnvironment :=
    fun _ => rfl
  have heq := (hsame _ (layeredRun strayFiles)
    ((henvironment strayFiles).trans (henvironment plainFiles).symm) hplain hstray).1 entries
    entries' hreads hreads' hagree
  refine ⟨hplain, hstray, heq, ?_⟩
  have hendpoint : askedEndpoint "10.0.0.1:9" = .ok ⟨.v4 10 0 0 1, 9⟩ :=
    toOption_eq_some_iff.mp (by decide +kernel)
  have haddress : Layered (some "10.0.0.1:9") (layeredEnvironment.lookup "TAS_ADDR") askedEndpoint
      (ConfiguredEndpoint entries) (.ok layeredSettings.endpoint) := by
    rw [layeredSettings, ← hendpoint]
    exact .byOption rfl
  have hsettled : Resolved (layeredRun plainFiles).given layeredEnvironment entries
      (.ok layeredSettings) :=
    .settled haddress (.byFallback rfl rfl hconfig.scriptPath) (.byVariable rfl rfl)
      (.byFallback rfl rfl hconfig.logLevel) hconfig.connectTimeout
  exact (hresolved hplain entries hreads).eq hsettled fun _ _ => rfl

end CommandLine
end RaceTape
