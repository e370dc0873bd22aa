import RaceTape.Proofs.Settings.Reading
import RaceTape.Settings.Load

/-!
# The document of a configuration

A configuration file is read through six keys.  Each setting of the configuration is what the
document holds under its key, or else the standard value; nothing else in a document is looked at.
Where there is no file, the configuration is that of an empty document.  Which document is read
depends on one file only.
-/

namespace RaceTape

open Toml

namespace Config

/-!
## Keys

Every key stands in a section under its own name.  In a section that is an array it has a fixed
place instead.
-/

inductive Key where
  | host
  | port
  | connectTimeout
  | scriptPath
  | sentinel
  | logLevel
deriving DecidableEq, Repr

namespace Key

def sectionName : Key -> String
  | .host | .port | .connectTimeout => "network"
  | .scriptPath | .sentinel => "script"
  | .logLevel => "logging"

def name : Key -> String
  | .host => "host"
  | .port => "port"
  | .connectTimeout => "connect_timeout_ms"
  | .scriptPath => "default_path"
  | .sentinel => "header_end"
  | .logLevel => "log_level"

def index : Key -> Nat
  | .host | .scriptPath | .logLevel => 0
  | .port | .sentinel => 1
  | .connectTimeout => 2

def value? (k : Key) (entries : List (String × Value)) : Option Value :=
  match entries.lookup k.sectionName with
  | some (.table items) => items.lookup k.name
  | some (.array items) => items[k.index]?
  | _ => none

theorem value?_eq {k : Key} {entries : List (String × Value)} {part : Part}
    (h : part? (entries.lookup k.sectionName) = some part) :
    k.value? entries = part.entry? k.index k.name := by
  unfold value?
  generalize entries.lookup k.sectionName = held at h ⊢
  unfold part? at h
  split at h
  · cases h
    rfl
  · cases h
    rfl
  · cases h
    rfl
  · cases h

end Key

/-!
## Values

A value counts if it is of the right kind; `write` says how a document holds it.  What is not there
has the standard value, and what is of the wrong kind leaves no value at all.
-/

inductive Configured (write : α -> Value) (held : Option Value) (standard : α) : α -> Prop where
  | held {a : α} (present : held = some (write a)) : Configured write held standard a
  | absent (missing : held = none) : Configured write held standard standard

theorem Configured.unique {write : α -> Value} (hwrite : forall a b, write a = write b -> a = b)
    {held : Option Value} {standard a b : α} (ha : Configured write held standard a)
    (hb : Configured write held standard b) : a = b := by
  cases ha with
  | held ha =>
      cases hb with
      | held hb => exact hwrite a b (Option.some.inj (ha.symm.trans hb))
      | absent hb => cases ha.symm.trans hb
  | absent ha =>
      cases hb with
      | held hb => cases ha.symm.trans hb
      | absent hb => rfl

theorem Configured.eq_some_of_ne {write : α -> Value} {held : Option Value} {standard a : α}
    (h : Configured write held standard a) (hne : a ≠ standard) : held = some (write a) := by
  cases h with
  | held present => exact present
  | absent missing => exact absurd rfl hne

def writeNumber (toNat : α -> Nat) (a : α) : Value :=
  .integer (Int.ofNat (toNat a))

theorem writeNumber_inj {toNat : α -> Nat} (htoNat : forall a b, toNat a = toNat b -> a = b)
    (a b : α) (h : writeNumber toNat a = writeNumber toNat b) : a = b := by
  injection h with hvalue
  exact htoNat a b (Int.ofNat.inj hvalue)

theorem stringOr_eq_some_iff {held : Option Value} {standard s : String} :
    stringOr standard held = some s ↔ Configured Value.string held standard s := by
  constructor
  · intro h
    unfold stringOr at h
    split at h
    · cases h
      exact .absent rfl
    · cases h
      exact .held rfl
    · cases h
  · intro h
    cases h with
    | held present => rw [present, stringOr]
    | absent missing => rw [missing, stringOr]

theorem numberOr_integer {standard limit : Nat} {n : Int} :
    numberOr standard limit (some (.integer n)) =
      if 0 ≤ n && n ≤ Int.ofNat limit then some n.toNat else none :=
  rfl

/-- Words without a sign are the numbers up to a limit. -/
theorem map_numberOr_eq_some_iff {ofNat : Nat -> α} {toNat : α -> Nat} {limit : Nat}
    {standard : α} {held : Option Value} (hofNat : forall n, n ≤ limit -> toNat (ofNat n) = n)
    (htoNat : forall a, ofNat (toNat a) = a ∧ toNat a ≤ limit) {a : α} :
    (numberOr (toNat standard) limit held).map ofNat = some a ↔
      Configured (writeNumber toNat) held standard a := by
  constructor
  · intro h
    rcases Option.map_eq_some_iff.mp h with ⟨n, hn, rfl⟩
    unfold numberOr at hn
    split at hn
    · cases hn
      rw [(htoNat standard).1]
      exact .absent rfl
    · next value =>
        split at hn
        · next hrange =>
            cases hn
            rw [Bool.and_eq_true, decide_eq_true_eq, decide_eq_true_eq] at hrange
            have hlimit : value.toNat ≤ limit := Int.toNat_le.mpr hrange.2
            have hvalue : Int.ofNat value.toNat = value := Int.toNat_of_nonneg hrange.1
            exact .held (by rw [writeNumber, hofNat _ hlimit, hvalue])
        · cases hn
    · cases hn
  · intro h
    apply Option.map_eq_some_iff.mpr
    refine ⟨toNat a, ?_, (htoNat a).1⟩
    cases h with
    | absent missing => rw [missing, numberOr]
    | held present =>
        rw [present, writeNumber, numberOr_integer, if_pos]
        · rfl
        · rw [Bool.and_eq_true, decide_eq_true_eq, decide_eq_true_eq]
          exact ⟨Int.natCast_nonneg _, Int.ofNat_le.mpr (htoNat a).2⟩

/-!
## Documents

A document makes a configuration if its sections have parts and every value that it holds under one
of the six keys is of the right kind.  The configuration then has these values.
-/

inductive IsSection : Option Value -> Prop where
  | absent : IsSection none
  | table {items : List (String × Value)} : IsSection (some (.table items))
  | array {items : List Value} : IsSection (some (.array items))

theorem exists_part?_iff {held : Option Value} :
    (exists part, part? held = some part) ↔ IsSection held := by
  constructor
  · rintro ⟨part, h⟩
    unfold part? at h
    split at h
    · exact .absent
    · exact .table
    · exact .array
    · cases h
  · intro h
    cases h with
    | absent => exact ⟨_, rfl⟩
    | table => exact ⟨_, rfl⟩
    | array => exact ⟨_, rfl⟩

structure HeldBy (entries : List (String × Value)) (config : Config) : Prop where
  network : IsSection (entries.lookup "network")
  script : IsSection (entries.lookup "script")
  logging : IsSection (entries.lookup "logging")
  host : Configured Value.string (Key.host.value? entries) "127.0.0.1" config.host
  port : Configured (writeNumber UInt16.toNat) (Key.port.value? entries) 27015 config.port
  connectTimeout :
    Configured (writeNumber UInt64.toNat) (Key.connectTimeout.value? entries) 3000
      config.connectTimeoutMs
  scriptPath :
    Configured Value.string (Key.scriptPath.value? entries) "scripts/tasfile.peng"
      config.scriptPath
  sentinel : Configured Value.string (Key.sentinel.value? entries) "framebulks" config.sentinel
  logLevel : Configured Value.string (Key.logLevel.value? entries) "info" config.logLevel

section

variable {entries : List (String × Value)} {config : Config}

theorem stringOr_entry_iff {k : Key} {part : Part}
    (h : part? (entries.lookup k.sectionName) = some part) {standard s : String} :
    stringOr standard (part.entry? k.index k.name) = some s ↔
      Configured Value.string (k.value? entries) standard s := by
  rw [Key.value?_eq h]
  exact stringOr_eq_some_iff

theorem map_port_entry_iff {network : Part} (h : part? (entries.lookup "network") = some network)
    {port : UInt16} :
    (numberOr standard.port.toNat 65535 (network.entry? 1 "port")).map UInt16.ofNat = some port ↔
      Configured (writeNumber UInt16.toNat) (Key.port.value? entries) 27015 port := by
  rw [Key.value?_eq (k := .port) h]
  exact map_numberOr_eq_some_iff (fun _ hn => UInt16.toNat_ofNat_of_lt' (Nat.lt_succ_of_le hn))
    fun a => ⟨UInt16.ofNat_toNat, Nat.le_of_lt_succ a.toNat_lt⟩

theorem map_connectTimeout_entry_iff {network : Part}
    (h : part? (entries.lookup "network") = some network) {timeout : UInt64} :
    (numberOr standard.connectTimeoutMs.toNat 18446744073709551615
        (network.entry? 2 "connect_timeout_ms")).map UInt64.ofNat = some timeout ↔
      Configured (writeNumber UInt64.toNat) (Key.connectTimeout.value? entries) 3000 timeout := by
  rw [Key.value?_eq (k := .connectTimeout) h]
  exact map_numberOr_eq_some_iff (fun _ hn => UInt64.toNat_ofNat_of_lt' (Nat.lt_succ_of_le hn))
    fun a => ⟨UInt64.ofNat_toNat, Nat.le_of_lt_succ a.toNat_lt⟩

theorem ofDocument?_eq_some_iff : ofDocument? entries = some config ↔ HeldBy entries config := by
  simp only [ofDocument?, Option.bind_eq_bind, Option.bind_eq_some_iff]
  constructor
  · rintro ⟨network, hnetwork, script, hscript, logging, hlogging, host, hhost, port, hport,
      timeout, htimeout, scriptPath, hscriptPath, sentinel, hsentinel, logLevel, hlogLevel, h⟩
    cases h
    constructor
    · exact exists_part?_iff.mp ⟨network, hnetwork⟩
    · exact exists_part?_iff.mp ⟨script, hscript⟩
    · exact exists_part?_iff.mp ⟨logging, hlogging⟩
    · exact (stringOr_entry_iff (k := .host) hnetwork).mp hhost
    · exact (map_port_entry_iff hnetwork).mp (Option.map_eq_some_iff.mpr ⟨port, hport, rfl⟩)
    · exact (map_connectTimeout_entry_iff hnetwork).mp
        (Option.map_eq_some_iff.mpr ⟨timeout, htimeout, rfl⟩)
    · exact (stringOr_entry_iff (k := .scriptPath) hscript).mp hscriptPath
    · exact (stringOr_entry_iff (k := .sentinel) hscript).mp hsentinel
    · exact (stringOr_entry_iff (k := .logLevel) hlogging).mp hlogLevel
  · intro h
    rcases exists_part?_iff.mpr h.network with ⟨network, hnetwork⟩
    rcases exists_part?_iff.mpr h.script with ⟨script, hscript⟩
    rcases exists_part?_iff.mpr h.logging with ⟨logging, hlogging⟩
    have hhost := (stringOr_entry_iff (k := .host) hnetwork).mpr h.host
    have hscriptPath := (stringOr_entry_iff (k := .scriptPath) hscript).mpr h.scriptPath
    have hsentinel := (stringOr_entry_iff (k := .sentinel) hscript).mpr h.sentinel
    have hlogLevel := (stringOr_entry_iff (k := .logLevel) hlogging).mpr h.logLevel
    rcases Option.map_eq_some_iff.mp ((map_port_entry_iff hnetwork).mpr h.port) with
      ⟨port, hport, hofPort⟩
    rcases Option.map_eq_some_iff.mp
      ((map_connectTimeout_entry_iff hnetwork).mpr h.connectTimeout) with
      ⟨timeout, htimeout, hofTimeout⟩
    refine ⟨network, hnetwork, script, hscript, logging, hlogging, config.host, hhost, port, hport,
      timeout, htimeout, config.scriptPath, hscriptPath, config.sentinel, hsentinel,
      config.logLevel, hlogLevel, ?_⟩
    rw [hofPort, hofTimeout]
    rfl

end

theorem heldBy_nil : HeldBy [] standard :=
  ofDocument?_eq_some_iff.mp rfl

/-!
## The file

The file is the one that is asked for, or else one below the directory for configurations.  Only
the file that nobody has asked for may be missing, and then the document is empty.
-/

def asDirectory (base : String) : String :=
  if base = "" ∨ base.toList.getLast? = some '/' then base else base ++ "/"

def chosenPath? (environment : List (String × String)) (asked : Option String) : Option String :=
  match asked, environment.lookup "XDG_CONFIG_HOME", environment.lookup "HOME" with
  | some path, _, _ => some path
  | none, some base, _ => some (asDirectory base ++ "stk-tas/config.toml")
  | none, none, some home => some (asDirectory home ++ ".config/stk-tas/config.toml")
  | none, none, none => none

inductive ReadsFrom (environment : List (String × String)) (files : FileTree)
    (asked : Option String) : List (String × Value) -> Prop where
  | file {path text : String} {entries : List (String × Value)}
      (chosen : chosenPath? environment asked = some path)
      (reads : files.readText path = .ok text) (parses : Toml.parse? text = some entries) :
      ReadsFrom environment files asked entries
  | missing {path : String} (unasked : asked = none)
      (chosen : chosenPath? environment asked = some path)
      (missing : files.readText path = .error .notFound) : ReadsFrom environment files asked []
  | nowhere (nothing : chosenPath? environment asked = none) :
      ReadsFrom environment files asked []

theorem joinPath_eq (base name : String) : joinPath base name = asDirectory base ++ name := by
  unfold joinPath asDirectory
  by_cases h : base = "" ∨ base.toList.getLast? = some '/'
  · rw [if_pos h, if_pos]
    simpa [FileTree.endsInSlash] using h
  · rw [if_neg h, if_neg]
    simpa [FileTree.endsInSlash] using h

theorem asDirectory_append {base name : String} {c : Char} (hc : c ≠ '/')
    (hlast : name.toList.getLast? = some c) : asDirectory (base ++ name) = base ++ name ++ "/" := by
  rw [asDirectory, if_neg]
  rintro (hempty | hslash)
  · rw [(String.append_eq_empty_iff.mp hempty).2] at hlast
    cases hlast
  · rw [String.toList_append, List.getLast?_append, hlast] at hslash
    exact hc (Option.some.inj hslash)

theorem standardPath_eq (environment : List (String × String)) :
    standardPath (environment.lookup "XDG_CONFIG_HOME") (environment.lookup "HOME") =
      (chosenPath? environment none).elim (.error .noDirectory) .ok := by
  have hbase : forall base, joinPath (joinPath base "stk-tas") "config.toml" =
      asDirectory base ++ "stk-tas/config.toml" := by
    intro base
    rw [joinPath_eq, joinPath_eq, asDirectory_append (c := 's') (by decide) rfl,
      String.append_assoc, String.append_assoc]
    rfl
  have hhome : forall home, asDirectory (joinPath home ".config") ++ "stk-tas/config.toml" =
      asDirectory home ++ ".config/stk-tas/config.toml" := by
    intro home
    rw [joinPath_eq, asDirectory_append (c := 'g') (by decide) rfl, String.append_assoc,
      String.append_assoc]
    rfl
  unfold standardPath chosenPath? directory?
  cases environment.lookup "XDG_CONFIG_HOME" with
  | some base => exact congrArg Except.ok (hbase base)
  | none =>
      cases environment.lookup "HOME" with
      | some home => exact congrArg Except.ok ((hbase _).trans (hhome home))
      | none => rfl

theorem parse_eq_ok_iff {text : String} {config : Config} :
    parse text = .ok config ↔
      exists entries, Toml.parse? text = some entries ∧ HeldBy entries config := by
  simp only [← ofDocument?_eq_some_iff, ← Option.bind_eq_some_iff]
  delta parse
  cases (Toml.parse? text).bind ofDocument? with
  | none => simp
  | some found => simp

theorem readAt_eq_ok_iff {path : String} {text : Except FileFault String} {config : Config} :
    readAt path text = .ok config ↔
      exists content, text = .ok content ∧ parse content = .ok config := by
  cases text with
  | error fault => simp [readAt]
  | ok content => simp [readAt]

theorem readStandard_eq_ok_iff {path : String} {text : Except FileFault String}
    {config : Config} :
    readStandard path text = .ok config ↔
      (text = .error .notFound ∧ config = standard) ∨ readAt path text = .ok config := by
  cases text with
  | ok content => simp [readStandard]
  | error fault =>
      cases fault with
      | notFound => simp [readStandard, readAt, eq_comm]
      | _ => simp [readStandard]

section

variable {environment : List (String × String)} {files other : FileTree} {asked : Option String}
  {entries entries' : List (String × Value)}

theorem ReadsFrom.isReadable (h : ReadsFrom environment files asked entries) {path : String}
    (hpath : chosenPath? environment asked = some path) : files.IsReadable path := by
  cases h with
  | file chosen reads parses =>
      cases hpath.symm.trans chosen
      exact .of_ok reads
  | missing unasked chosen missing =>
      cases hpath.symm.trans chosen
      exact Or.inr missing
  | nowhere nothing => cases hpath.symm.trans nothing

theorem ReadsFrom.unique (h : ReadsFrom environment files asked entries)
    (h' : ReadsFrom environment files asked entries') : entries' = entries := by
  cases h with
  | file chosen reads parses =>
      cases h' with
      | file chosen' reads' parses' =>
          cases chosen.symm.trans chosen'
          cases reads.symm.trans reads'
          exact Option.some.inj (parses'.symm.trans parses)
      | missing _ chosen' missing' =>
          cases chosen.symm.trans chosen'
          cases reads.symm.trans missing'
      | nowhere nothing' => cases chosen.symm.trans nothing'
  | missing _ chosen missing =>
      cases h' with
      | file chosen' reads' parses' =>
          cases chosen.symm.trans chosen'
          cases missing.symm.trans reads'
      | missing _ _ _ => rfl
      | nowhere nothing' => rfl
  | nowhere nothing =>
      cases h' with
      | file chosen' reads' parses' => cases nothing.symm.trans chosen'
      | missing _ _ _ => rfl
      | nowhere _ => rfl

theorem ReadsFrom.of_readText_eq (h : ReadsFrom environment files asked entries)
    (hread : forall path, chosenPath? environment asked = some path ->
      other.readText path = files.readText path) :
    ReadsFrom environment other asked entries := by
  cases h with
  | file chosen reads parses => exact .file chosen ((hread _ chosen).trans reads) parses
  | missing unasked chosen missing =>
      exact .missing unasked chosen ((hread _ chosen).trans missing)
  | nowhere nothing => exact .nowhere nothing

theorem ReadsFrom.eq_of_sameAt (h : ReadsFrom environment files asked entries)
    (h' : ReadsFrom environment other asked entries')
    (hsame : forall path, chosenPath? environment asked = some path -> files.SameAt path other) :
    entries' = entries := by
  have hread : forall path, chosenPath? environment asked = some path ->
      other.readText path = files.readText path := by
    intro path hpath
    exact (hsame path hpath).readText_eq (h.isReadable hpath) (h'.isReadable hpath)
  exact (h.of_readText_eq hread).unique h'

end

end Config

end RaceTape
