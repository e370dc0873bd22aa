import RaceTape.Proofs.Header.Setup
import RaceTape.Proofs.Text.Casing
import RaceTape.Proofs.Text.Integer

/-!
# The verdict on a header

What a draft must hold to pass its checks, what the setup then is, and which fault is reported
otherwise.  The rules are given key by key and do not speak of the checks; the order of the keys
decides only between several faults.  Required keys are asked for in one order and values are
checked in another.
-/

namespace RaceTape
namespace Header

open Text

/-!
## What a value must be

A number is a whole number of thirty-two bits that meets a condition; a switch is a word for on or
off, with capitals allowed.  A key passes if it is absent or has a value that it may have.  A setup
is described by what a draft holds, and two keys that may be absent have values then.  What is
reported is the first required key without a value or, with all of them there, the first value that
its key may not have.
-/

def SpellsNumber (condition : Int -> Prop) (text : String) : Prop :=
  exists n, SpellsInteger text.toList n ∧ -2147483648 ≤ n ∧ n ≤ 2147483647 ∧ condition n

inductive Switches (text : String) : Bool -> Prop where
  | on {word : String} (mem : word ∈ ["t", "true", "1"])
      (same : SameLetters text.toList word.toList) : Switches text true
  | off {word : String} (mem : word ∈ ["f", "false", "0"])
      (same : SameLetters text.toList word.toList) : Switches text false

def IsLapNumber (n : Int) : Prop :=
  n = -1 ∨ 0 < n

def IsLevel (n : Int) : Prop :=
  0 ≤ n ∧ n ≤ 3

namespace Key

/-- The text is a value that the key may have. -/
def Accepts : Key -> String -> Prop
  | .track, text => text ∈ Catalog.tracks
  | .kart, text => text ∈ Catalog.karts
  | .laps, text => SpellsNumber IsLapNumber text
  | .difficulty, text => SpellsNumber IsLevel text
  | .opponents, text => SpellsNumber (0 ≤ ·) text
  | .quickReset, text => exists on, Switches text on

def expectation : Key -> Expectation
  | .track => .oneOf Catalog.tracks
  | .kart => .oneOf Catalog.karts
  | .laps => .lapCount
  | .difficulty => .difficultyLevel
  | .opponents => .opponentCount
  | .quickReset => .switch

def checked : List Key :=
  [.laps, .difficulty, .opponents, .track, .kart, .quickReset]

end Key

namespace Draft

def Has (draft : Draft) (key : Key) : Prop :=
  exists text, draft.value? key = some text

structure IsComplete (draft : Draft) : Prop where
  track : draft.Has .track
  kart : draft.Has .kart
  laps : draft.Has .laps
  difficulty : draft.Has .difficulty

/-- The key is absent or has a value that it may have. -/
def Passes (draft : Draft) (key : Key) : Prop :=
  forall text, draft.value? key = some text -> key.Accepts text

structure Describes (draft : Draft) (setup : Setup) : Prop where
  track : draft.value? .track = some setup.track ∧ setup.track ∈ Catalog.tracks
  kart : draft.value? .kart = some setup.kart ∧ setup.kart ∈ Catalog.karts
  laps : exists text, draft.value? .laps = some text ∧
    SpellsInteger text.toList setup.laps.toInt ∧ IsLapNumber setup.laps.toInt
  difficulty : exists text, draft.value? .difficulty = some text ∧
    SpellsInteger text.toList setup.difficulty.toInt ∧ IsLevel setup.difficulty.toInt
  opponents : SpellsInteger ((draft.value? .opponents).getD "0").toList setup.opponents.toInt ∧
    0 ≤ setup.opponents.toInt
  quickReset : Switches ((draft.value? .quickReset).getD "false") setup.quickReset

inductive Refuses (draft : Draft) : Fault -> Prop where
  | missing {before after : List Key} {key : Key}
      (order : [.track, .kart, .laps, .difficulty] = before ++ key :: after)
      (present : forall earlier, earlier ∈ before -> draft.Has earlier)
      (absent : draft.value? key = none) : Refuses draft (.missingField key)
  | invalid {before after : List Key} {key : Key} {text : String} (complete : draft.IsComplete)
      (order : Key.checked = before ++ key :: after)
      (passed : forall earlier, earlier ∈ before -> draft.Passes earlier)
      (given : draft.value? key = some text) (refused : ¬key.Accepts text) :
      Refuses draft (.invalidValue key text key.expectation)

end Draft

/-!
## Reading single values

Each reader accepts the values that its key may have.  The value of a key that is absent is one of
these.
-/

theorem contains_toLower_iff (words : List String) (text : String)
    (hwords : forall word, word ∈ words -> word.toList.map Char.toLower = word.toList) :
    (words.map String.toList).contains (text.toList.map Char.toLower) = true ↔
      exists word, word ∈ words ∧ SameLetters text.toList word.toList := by
  rw [List.contains_iff_mem, List.mem_map]
  apply exists_congr
  intro word
  apply and_congr_right
  intro hword
  rw [SameLetters, hwords word hword]
  exact eq_comm

theorem switch?_eq_some_iff {text : String} {on : Bool} :
    switch? text = some on ↔ Switches text on := by
  have hon := contains_toLower_iff ["t", "true", "1"] text (by decide +kernel)
  have hoff := contains_toLower_iff ["f", "false", "0"] text (by decide +kernel)
  rw [switch?]
  constructor
  · intro h
    split at h
    · next hcontains =>
        cases h
        rcases hon.mp hcontains with ⟨word, hword, hsame⟩
        exact .on hword hsame
    · rw [Option.ite_none_right_eq_some] at h
      rcases h with ⟨hcontains, hvalue⟩
      cases hvalue
      rcases hoff.mp hcontains with ⟨word, hword, hsame⟩
      exact .off hword hsame
  · intro h
    cases h with
    | on hword hsame => exact if_pos (hon.mpr ⟨_, hword, hsame⟩)
    | off hword hsame =>
        have hcontains := hoff.mpr ⟨_, hword, hsame⟩
        have hnot : forall word, word ∈ ["f", "false", "0"].map String.toList ->
            (["t", "true", "1"].map String.toList).contains word = false := by decide +kernel
        have hno := hnot _ (List.contains_iff_mem.mp hcontains)
        exact (if_neg (Bool.eq_false_iff.mp hno)).trans (if_pos hcontains)

theorem isLapCount_iff (n : Int32) : isLapCount n = true ↔ IsLapNumber n.toInt := by
  simp [isLapCount, IsLapNumber, Int32.lt_iff_toInt_lt, ← Int32.toInt_inj]

theorem isDifficulty_iff (n : Int32) : isDifficulty n = true ↔ IsLevel n.toInt := by
  simp [isDifficulty, IsLevel, Int32.le_iff_toInt_le]

theorem isOpponentCount_iff (n : Int32) : isOpponentCount n = true ↔ 0 ≤ n.toInt := by
  simp [isOpponentCount, Int32.le_iff_toInt_le]

section

variable {allowed : Int32 -> Bool} {condition : Int -> Prop}
variable (hallowed : forall n : Int32, allowed n = true ↔ condition n.toInt)

include hallowed

theorem filter_int32?_eq_some_iff {text : String} {n : Int32} :
    (int32? text.toList).filter allowed = some n ↔
      SpellsInteger text.toList n.toInt ∧ condition n.toInt := by
  rw [Option.filter_eq_some_iff, int32?_eq_some_iff, hallowed]

theorem exists_filter_int32?_iff {text : String} :
    (exists n, (int32? text.toList).filter allowed = some n) ↔ SpellsNumber condition text := by
  constructor
  · intro h
    rcases h with ⟨n, hn⟩
    rcases (filter_int32?_eq_some_iff hallowed).mp hn with ⟨hspells, hcondition⟩
    exact ⟨n.toInt, hspells, n.le_toInt, Int.le_of_lt_add_one n.toInt_lt, hcondition⟩
  · intro h
    rcases h with ⟨n, hspells, hlow, hhigh, hcondition⟩
    refine ⟨Int32.ofInt n, (filter_int32?_eq_some_iff hallowed).mpr ?_⟩
    rw [Int32.toInt_ofInt_of_le hlow (Int.lt_add_one_of_le hhigh)]
    exact ⟨hspells, hcondition⟩

end

theorem exists_name_iff {names : List String} (hnames : names.Pairwise (· < ·)) {text : String} :
    (exists name, (if Catalog.search names text then some text else none) = some name) ↔
      text ∈ names := by
  simp [Catalog.search_iff hnames]

theorem Key.accepts_of_standard? {key : Key} {text : String} (h : key.standard? = some text) :
    key.Accepts text := by
  cases key with
  | opponents =>
      cases h
      exact (exists_filter_int32?_iff isOpponentCount_iff).mp ⟨0, by decide +kernel⟩
  | quickReset =>
      cases h
      exact ⟨false, switch?_eq_some_iff.mp (by decide +kernel)⟩
  | track => cases h
  | kart => cases h
  | laps => cases h
  | difficulty => cases h

/-!
## The first fault
-/

/-- The fault, if there is one. -/
def fault? : Except Fault α -> Option Fault
  | .ok _ => none
  | .error fault => some fault

theorem fault?_eq_some_iff {x : Except Fault α} {fault : Fault} :
    fault? x = some fault ↔ x = .error fault := by
  cases x with
  | ok a => simp [fault?]
  | error e => simp [fault?]

theorem fault?_eq_none_iff {x : Except Fault α} : fault? x = none ↔ exists a, x = .ok a := by
  cases x with
  | ok a => simp [fault?]
  | error e => simp [fault?]

/-- Where the faults of a second part do not depend on the first, those of the first come first. -/
theorem fault?_bind {x : Except Fault α} {f : α -> Except Fault β} {later : Option Fault}
    (h : forall a, fault? (f a) = later) : fault? (x >>= f) = (fault? x).or later := by
  cases x with
  | ok a => exact h a
  | error e => rfl

namespace Draft

/-- The fault in the value of a key. -/
def flaw? (draft : Draft) : Key -> Option Fault
  | .track => fault? (draft.name .track Catalog.tracks)
  | .kart => fault? (draft.name .kart Catalog.karts)
  | .laps => fault? (draft.number .laps .lapCount isLapCount)
  | .difficulty => fault? (draft.number .difficulty .difficultyLevel isDifficulty)
  | .opponents => fault? (draft.number .opponents .opponentCount isOpponentCount)
  | .quickReset => fault? (draft.field .quickReset .switch switch?)

theorem fault?_check {draft : Draft} (h : draft.missing? = none) :
    fault? draft.check = Key.checked.findSome? draft.flaw? := by
  have hor (key : Key) (keys : List Key) :
      (key :: keys).findSome? draft.flaw? = (draft.flaw? key).or (keys.findSome? draft.flaw?) := by
    rw [List.findSome?_cons]
    cases draft.flaw? key <;> rfl
  rw [check, h, Key.checked, hor, hor, hor, hor, hor, hor]
  -- One step for each key, in the order of the checks.
  apply fault?_bind
  intro laps
  apply fault?_bind
  intro difficulty
  apply fault?_bind
  intro opponents
  apply fault?_bind
  intro track
  apply fault?_bind
  intro kart
  apply fault?_bind
  intro quickReset
  rfl

/-!
## Absent keys
-/

theorem has_iff {draft : Draft} {key : Key} :
    draft.Has key ↔ (draft.value? key).isNone = false := by
  rw [Has, ← Option.isSome_iff_exists, Option.isNone_eq_false_iff]

theorem missing?_eq_some_iff {draft : Draft} {key : Key} :
    draft.missing? = some key ↔
      exists before after, [.track, .kart, .laps, .difficulty] = before ++ key :: after ∧
        (forall earlier, earlier ∈ before -> draft.Has earlier) ∧ draft.value? key = none := by
  simp only [missing?, List.find?_eq_some_iff_append, Option.isNone_iff_eq_none, has_iff,
    Bool.not_eq_true']
  constructor
  · intro h
    rcases h with ⟨habsent, before, after, horder, hpresent⟩
    exact ⟨before, after, horder, hpresent, habsent⟩
  · intro h
    rcases h with ⟨before, after, horder, hpresent, habsent⟩
    exact ⟨habsent, before, after, horder, hpresent⟩

theorem missing?_eq_none_iff {draft : Draft} : draft.missing? = none ↔ draft.IsComplete := by
  simp only [missing?, List.find?_eq_none, Bool.not_eq_true, ← has_iff]
  constructor
  · intro h
    exact ⟨h .track (by decide), h .kart (by decide), h .laps (by decide),
      h .difficulty (by decide)⟩
  · intro h key hkey
    cases key with
    | track => exact h.track
    | kart => exact h.kart
    | laps => exact h.laps
    | difficulty => exact h.difficulty
    | opponents => exact absurd hkey (by decide)
    | quickReset => exact absurd hkey (by decide)

theorem IsComplete.has_of_standard? {draft : Draft} (h : draft.IsComplete) {key : Key}
    (hkey : key.standard? = none) : draft.Has key := by
  cases key with
  | track => exact h.track
  | kart => exact h.kart
  | laps => exact h.laps
  | difficulty => exact h.difficulty
  | opponents => cases hkey
  | quickReset => cases hkey

/-!
## Faults

A value is at fault exactly if it is there and the key may not have it.
-/

section

variable {draft : Draft} (hcomplete : draft.IsComplete) {key : Key} {fault : Fault}

include hcomplete

theorem fault?_field_eq_some_iff {expected : Expectation} {read : String -> Option α}
    (hread : forall text, (exists a, read text = some a) ↔ key.Accepts text) :
    fault? (draft.field key expected read) = some fault ↔
      exists text, draft.value? key = some text ∧ ¬key.Accepts text ∧
        fault = .invalidValue key text expected := by
  rw [field, valueOrStandard?]
  cases hvalue : draft.value? key with
  | none =>
      cases hstandard : key.standard? with
      | none =>
          rcases hcomplete.has_of_standard? hstandard with ⟨text, htext⟩
          rw [hvalue] at htext
          cases htext
      | some text =>
          rcases (hread text).mpr (Key.accepts_of_standard? hstandard) with ⟨a, ha⟩
          simp [ha, fault?]
  | some text =>
      cases ha : read text with
      | none =>
          have hnot : ¬key.Accepts text := by
            rw [← hread text, ha]
            simp
          simp [ha, fault?, hnot, eq_comm]
      | some a => simp [ha, fault?, (hread text).mp ⟨a, ha⟩]

theorem flaw?_eq_some_iff :
    draft.flaw? key = some fault ↔
      exists text, draft.value? key = some text ∧ ¬key.Accepts text ∧
        fault = .invalidValue key text key.expectation := by
  cases key with
  | track =>
      exact fault?_field_eq_some_iff hcomplete fun _ => exists_name_iff Catalog.pairwise_tracks
  | kart => exact fault?_field_eq_some_iff hcomplete fun _ => exists_name_iff Catalog.pairwise_karts
  | laps =>
      exact fault?_field_eq_some_iff hcomplete fun _ => exists_filter_int32?_iff isLapCount_iff
  | difficulty =>
      exact fault?_field_eq_some_iff hcomplete fun _ => exists_filter_int32?_iff isDifficulty_iff
  | opponents =>
      exact fault?_field_eq_some_iff hcomplete fun _ =>
        exists_filter_int32?_iff isOpponentCount_iff
  | quickReset =>
      exact fault?_field_eq_some_iff hcomplete fun _ =>
        exists_congr fun _ => switch?_eq_some_iff

theorem flaw?_eq_none_iff : draft.flaw? key = none ↔ draft.Passes key := by
  rw [Option.eq_none_iff_forall_ne_some]
  constructor
  · intro h text htext
    by_contra hnot
    exact h _ ((flaw?_eq_some_iff hcomplete).mpr ⟨text, htext, hnot, rfl⟩)
  · intro h fault hfault
    rcases (flaw?_eq_some_iff hcomplete).mp hfault with ⟨text, htext, hnot, _⟩
    exact hnot (h text htext)

end

theorem check_eq_error_iff {draft : Draft} {fault : Fault} :
    draft.check = .error fault ↔ draft.Refuses fault := by
  cases hmissing : draft.missing? with
  | some key =>
      rw [check, hmissing]
      constructor
      · intro h
        cases h
        rcases missing?_eq_some_iff.mp hmissing with ⟨before, after, horder, hpresent, habsent⟩
        exact .missing horder hpresent habsent
      · intro h
        cases h with
        | missing horder hpresent habsent =>
            have hsame := missing?_eq_some_iff.mpr ⟨_, _, horder, hpresent, habsent⟩
            rw [hmissing] at hsame
            cases hsame
            rfl
        | invalid hcomplete =>
            rw [missing?_eq_none_iff.mpr hcomplete] at hmissing
            cases hmissing
  | none =>
      have hcomplete := missing?_eq_none_iff.mp hmissing
      rw [← fault?_eq_some_iff, fault?_check hmissing, List.findSome?_eq_some_iff]
      constructor
      · intro h
        rcases h with ⟨before, key, after, horder, hflaw, hpassed⟩
        rcases (flaw?_eq_some_iff hcomplete).mp hflaw with ⟨text, hgiven, hrefused, rfl⟩
        exact .invalid hcomplete horder
          (fun earlier hearlier => (flaw?_eq_none_iff hcomplete).mp (hpassed earlier hearlier))
          hgiven hrefused
      · intro h
        cases h with
        | missing horder hpresent habsent =>
            have hsame := missing?_eq_some_iff.mpr ⟨_, _, horder, hpresent, habsent⟩
            rw [hmissing] at hsame
            cases hsame
        | invalid _ horder hpassed hgiven hrefused =>
            exact ⟨_, _, _, horder,
              (flaw?_eq_some_iff hcomplete).mpr ⟨_, hgiven, hrefused, rfl⟩,
              fun earlier hearlier => (flaw?_eq_none_iff hcomplete).mpr (hpassed earlier hearlier)⟩

/-!
## Setups
-/

theorem exists_check_iff {draft : Draft} :
    (exists setup, draft.check = .ok setup) ↔
      draft.IsComplete ∧ forall key, draft.Passes key := by
  rw [← fault?_eq_none_iff]
  cases hmissing : draft.missing? with
  | some key =>
      rw [check, hmissing]
      constructor
      · intro h
        cases h
      · intro h
        rw [missing?_eq_none_iff.mpr h.1] at hmissing
        cases hmissing
  | none =>
      have hcomplete := missing?_eq_none_iff.mp hmissing
      rw [fault?_check hmissing, List.findSome?_eq_none_iff]
      constructor
      · intro h
        refine ⟨hcomplete, fun key => (flaw?_eq_none_iff hcomplete).mp (h key ?_)⟩
        cases key <;> decide
      · intro h key _
        exact (flaw?_eq_none_iff hcomplete).mpr (h.2 key)

theorem number_eq_ok_iff {draft : Draft} {key : Key} {expected : Expectation}
    {allowed : Int32 -> Bool} {condition : Int -> Prop}
    (hallowed : forall n : Int32, allowed n = true ↔ condition n.toInt) {n : Int32} :
    draft.number key expected allowed = .ok n ↔
      exists text, draft.valueOrStandard? key = some text ∧
        SpellsInteger text.toList n.toInt ∧ condition n.toInt := by
  rw [number, field_eq_ok_iff]
  simp only [filter_int32?_eq_some_iff hallowed]

theorem check_eq_ok_iff_describes {draft : Draft} {setup : Setup} :
    draft.check = .ok setup ↔ draft.Describes setup := by
  have hrequired {key : Key} (h : key.standard? = none) :
      draft.valueOrStandard? key = draft.value? key := by
    rw [valueOrStandard?, h, Option.or_none]
  have hopponents :
      draft.valueOrStandard? .opponents = some ((draft.value? .opponents).getD "0") :=
    Option.or_some
  have hquickReset :
      draft.valueOrStandard? .quickReset = some ((draft.value? .quickReset).getD "false") :=
    Option.or_some
  rw [check_eq_ok_iff, missing?_eq_none_iff, number_eq_ok_iff isLapCount_iff,
    number_eq_ok_iff isDifficulty_iff, number_eq_ok_iff isOpponentCount_iff,
    name_eq_ok_iff Catalog.pairwise_tracks, name_eq_ok_iff Catalog.pairwise_karts, field_eq_ok_iff,
    hopponents, hquickReset, hrequired rfl, hrequired rfl, hrequired rfl, hrequired rfl]
  constructor
  · intro h
    rcases h with ⟨_, hlaps, hdifficulty, ⟨_, hcount, hread⟩, htrack, hkart, ⟨_, hword, hswitch⟩⟩
    cases hcount
    cases hword
    exact ⟨htrack, hkart, hlaps, hdifficulty, hread, switch?_eq_some_iff.mp hswitch⟩
  · intro h
    rcases h.laps with ⟨laps, hlaps, _⟩
    rcases h.difficulty with ⟨difficulty, hdifficulty, _⟩
    have hcomplete : draft.IsComplete :=
      ⟨⟨_, h.track.1⟩, ⟨_, h.kart.1⟩, ⟨laps, hlaps⟩, ⟨difficulty, hdifficulty⟩⟩
    exact ⟨hcomplete, h.laps, h.difficulty, ⟨_, rfl, h.opponents⟩, h.track, h.kart,
      ⟨_, rfl, switch?_eq_some_iff.mpr h.quickReset⟩⟩

/--
A draft gives the setup that it describes, and it does so exactly if all required keys are there
and every key has a value that it may have.  Otherwise the first fault is reported.
-/
theorem check_verdict (draft : Draft) :
    (forall setup, draft.check = .ok setup ↔ draft.Describes setup) ∧
      ((exists setup, draft.check = .ok setup) ↔
        draft.IsComplete ∧ forall key, draft.Passes key) ∧
      (forall fault, draft.check = .error fault ↔ draft.Refuses fault) :=
  ⟨fun _ => check_eq_ok_iff_describes, exists_check_iff, fun _ => check_eq_error_iff⟩

/-- A track that is not known is reported after a number that is too large by one. -/
example :
    let draft := (((empty.set .track "moon").set .kart "tux").set .difficulty "0").set .laps
      "2147483648"
    draft.check = .error (.invalidValue .laps "2147483648" .lapCount) ∧
      (draft.set .laps "+002147483647").check =
        .error (.invalidValue .track "moon" (.oneOf Catalog.tracks)) := by
  decide +kernel

end Draft

end Header
end RaceTape
