import Mathlib.Data.List.TakeWhile
import RaceTape.Endpoint
import RaceTape.Proofs.Text.Integer
import RaceTape.Proofs.Text.Reader

/-!
# The grammar of endpoints

    host      ::= ipv4 | "[" ipv6 ["%" scope] "]"
    endpoint  ::= host ":" port

Reading accepts exactly these texts.  An address is read up to the percent sign, the bracket or the
colon behind it, none of which can belong to it there, so it can be cut out and read on its own.  A
port has no colon, so the colon before it is the last one.
-/

namespace RaceTape

open Text

namespace Endpoint

/-!
## Numbers
-/

section

variable {rest : List Char}

theorem octet?_stopsBefore (hrest : forall c, rest.head? = some c -> c.isDigit = false) :
    Reader.StopsBefore octet? rest := by
  intro cs
  simp only [octet?, takeWhile_append_of_head hrest, dropWhile_append_of_head hrest]
  split
  · rfl
  · split
    · rfl
    · rfl

theorem group?_stopsBefore (hrest : forall c, rest.head? = some c -> isHexDigit c = false) :
    Reader.StopsBefore group? rest := by
  intro cs
  simp only [group?, takeWhile_append_of_head hrest, dropWhile_append_of_head hrest]
  split
  · rfl
  · rfl

theorem octet?_leavesEnd : Reader.LeavesEnd octet? := by
  intro cs n left h
  simp only [octet?] at h
  split at h
  · cases h
  · split at h
    · cases h
    · cases h
      exact List.dropWhile_suffix _

theorem group?_leavesEnd : Reader.LeavesEnd group? := by
  intro cs n left h
  simp only [group?] at h
  split at h
  · cases h
  · cases h
    exact List.dropWhile_suffix _

theorem octets?_stopsBefore (hdot : rest.head? ≠ some '.')
    (hrest : forall c, rest.head? = some c -> c.isDigit = false) :
    Reader.StopsBefore octets? rest := by
  have hoctet := octet?_stopsBefore hrest
  exact hoctet.bind fun a => (hoctet.bind fun b => (hoctet.bind fun c => (hoctet.bind fun d =>
    Reader.stopsBefore_pure (a, b, c, d) rest).after hdot).after hdot).after hdot

theorem octets?_leavesEnd : Reader.LeavesEnd octets? :=
  octet?_leavesEnd.bind fun a => (octet?_leavesEnd.bind fun b => (octet?_leavesEnd.bind fun c =>
    (octet?_leavesEnd.bind fun d => Reader.leavesEnd_pure (a, b, c, d)).after).after).after

end

/-!
## Groups

A run of groups fills slots.  Four octets fill two slots and end the run; otherwise a group is
followed by a longer run.  What stands behind an address of groups does not begin with what could
belong to it, so more text behind the address changes nothing.
-/

/-- Reads after a colon, or right away if nothing has been read before. -/
def inSlot (isFirst : Bool) (read : Reader α) : Reader α := fun cs =>
  (if isFirst then some cs else after? ':' cs).bind read

theorem inSlot_leavesEnd {read : Reader α} (isFirst : Bool) (h : read.LeavesEnd) :
    (inSlot isFirst read).LeavesEnd := by
  cases isFirst with
  | true => exact h
  | false => exact h.after

theorem inSlot_stopsBefore {read : Reader α} {rest : List Char} (isFirst : Bool)
    (h : read.StopsBefore rest) (hcolon : rest.head? ≠ some ':') :
    (inSlot isFirst read).StopsBefore rest := by
  cases isFirst with
  | true => exact h
  | false => exact h.after hcolon

def octetRun? (isFirst : Bool) (slots : Nat) (cs : List Char) : Option GroupRun :=
  (if 0 < slots then inSlot isFirst octets? cs else none).map fun found =>
    ⟨[joinOctets found.1.1 found.1.2.1, joinOctets found.1.2.2.1 found.1.2.2.2], true, found.2⟩

def longerRun? (isFirst : Bool) (slots : Nat) (cs : List Char) : Option GroupRun :=
  (inSlot isFirst group? cs).map fun found =>
    { groupRun false slots found.2 with groups := found.1 :: (groupRun false slots found.2).groups }

theorem groupRun_succ (isFirst : Bool) (slots : Nat) (cs : List Char) :
    groupRun isFirst (slots + 1) cs =
      ((octetRun? isFirst slots cs).or (longerRun? isFirst slots cs)).getD ⟨[], false, cs⟩ := by
  rw [groupRun, octetRun?, longerRun?, inSlot, inSlot]
  dsimp only
  split
  · next hoctets =>
      rw [hoctets]
      rfl
  · next hoctets =>
      rw [hoctets]
      cases (if isFirst then some cs else after? ':' cs).bind group? with
      | none => rfl
      | some found => rfl

theorem groupRun_rest (isFirst : Bool) (slots : Nat) (cs : List Char) :
    (groupRun isFirst slots cs).rest <:+ cs := by
  induction slots generalizing isFirst cs with
  | zero => exact List.suffix_refl cs
  | succ slots ih =>
      rw [groupRun_succ]
      cases hrun : (octetRun? isFirst slots cs).or (longerRun? isFirst slots cs) with
      | none => exact List.suffix_refl cs
      | some run =>
          rcases Option.or_eq_some_iff.mp hrun with hoctets | ⟨_, hlonger⟩
          · rcases Option.map_eq_some_iff.mp hoctets with ⟨found, hfound, rfl⟩
            split at hfound
            · exact inSlot_leavesEnd isFirst octets?_leavesEnd cs found.1 found.2 hfound
            · cases hfound
          · rcases Option.map_eq_some_iff.mp hlonger with ⟨found, hfound, rfl⟩
            exact (ih false found.2).trans
              (inSlot_leavesEnd isFirst group?_leavesEnd cs found.1 found.2 hfound)

structure EndsGroups (rest : List Char) : Prop where
  digit : forall c, rest.head? = some c -> isHexDigit c = false
  dot : rest.head? ≠ some '.'
  colon : rest.head? ≠ some ':'

def GroupRun.before (run : GroupRun) (rest : List Char) : GroupRun :=
  { run with rest := run.rest ++ rest }

section

variable {rest : List Char} (hrest : EndsGroups rest)

include hrest

theorem EndsGroups.octets? : Reader.StopsBefore octets? rest := by
  apply octets?_stopsBefore hrest.dot
  intro c hc
  have hdigit := hrest.digit c hc
  rw [isHexDigit, Bool.or_eq_false_iff, Bool.or_eq_false_iff] at hdigit
  exact hdigit.1.1

theorem octetRun?_append (isFirst : Bool) (slots : Nat) (cs : List Char) :
    octetRun? isFirst slots (cs ++ rest) =
      (octetRun? isFirst slots cs).map fun run => run.before rest := by
  rw [octetRun?, octetRun?, inSlot_stopsBefore isFirst hrest.octets? hrest.colon cs]
  split
  · rw [Option.map_map, Option.map_map]
    rfl
  · rfl

theorem groupRun_append (isFirst : Bool) (slots : Nat) (cs : List Char) :
    groupRun isFirst slots (cs ++ rest) = (groupRun isFirst slots cs).before rest := by
  induction slots generalizing isFirst cs with
  | zero => rfl
  | succ slots ih =>
      have hlonger : longerRun? isFirst slots (cs ++ rest) =
          (longerRun? isFirst slots cs).map fun run => run.before rest := by
        rw [longerRun?, longerRun?,
          inSlot_stopsBefore isFirst (group?_stopsBefore hrest.digit) hrest.colon cs,
          Option.map_map, Option.map_map]
        apply congrArg (Option.map · (inSlot isFirst group? cs))
        funext found
        simp only [Function.comp_apply, ih]
        rfl
      rw [groupRun_succ, groupRun_succ, octetRun?_append hrest, hlonger]
      cases octetRun? isFirst slots cs with
      | some run => rfl
      | none =>
          cases longerRun? isFirst slots cs with
          | some run => rfl
          | none => rfl

end

/-!
## Addresses of groups

Behind a first run that is not full stands a gap of two colons, which is as wide as the groups on
both sides leave it.
-/

/-- The groups behind a gap, which is as wide as the groups in `head` leave it. -/
def gap? (head : List UInt16) : Reader (List UInt16) := fun cs =>
  let tail := groupRun true (7 - head.length) cs
  some (head ++ List.replicate (8 - head.length - tail.groups.length) 0 ++ tail.groups, tail.rest)

def behindRun? (head : List UInt16) (endsInOctets : Bool) : Reader (List UInt16) := fun cs =>
  if head.length = 8 then some (head, cs)
  else if endsInOctets then none
  else (after? ':' cs).bind fun cs => (after? ':' cs).bind (gap? head)

theorem groups?_eq (cs : List Char) :
    groups? cs =
      behindRun? (groupRun true 8 cs).groups (groupRun true 8 cs).endsInOctets
        (groupRun true 8 cs).rest := rfl

theorem behindRun?_leavesEnd (head : List UInt16) (endsInOctets : Bool) :
    Reader.LeavesEnd (behindRun? head endsInOctets) := by
  have hgap : Reader.LeavesEnd (gap? head) := by
    intro cs groups left h
    cases h
    exact groupRun_rest true (7 - head.length) cs
  intro cs groups left h
  rw [behindRun?] at h
  split at h
  · cases h
    exact List.suffix_refl cs
  · split at h
    · cases h
    · exact hgap.after.after cs groups left h

theorem behindRun?_stopsBefore {rest : List Char} (hrest : EndsGroups rest) (head : List UInt16)
    (endsInOctets : Bool) : Reader.StopsBefore (behindRun? head endsInOctets) rest := by
  have hgap : Reader.StopsBefore (gap? head) rest := by
    intro cs
    rw [gap?, gap?, groupRun_append hrest]
    rfl
  intro cs
  rw [behindRun?, behindRun?]
  split
  · rfl
  · split
    · rfl
    · exact (hgap.after hrest.colon).after hrest.colon cs

theorem groups?_leavesEnd : Reader.LeavesEnd groups? := by
  intro cs groups left h
  exact (behindRun?_leavesEnd _ _ _ groups left h).trans (groupRun_rest true 8 cs)

theorem groups?_stopsBefore {rest : List Char} (hrest : EndsGroups rest) :
    Reader.StopsBefore groups? rest := by
  intro cs
  rw [groups?_eq, groupRun_append hrest]
  exact behindRun?_stopsBefore hrest _ _ _

/-- Four octets fill the first two slots and end the run, so no eight groups are left to read. -/
theorem groups?_of_octets? {cs : List Char}
    {found : (UInt8 × UInt8 × UInt8 × UInt8) × List Char} (h : octets? cs = some found) :
    groups? cs = none := by
  have hrun : octetRun? true 7 cs = some ⟨_, true, found.2⟩ :=
    Option.map_eq_some_iff.mpr ⟨found, h, rfl⟩
  rw [groups?_eq, groupRun_succ, hrun]
  rfl

theorem v4?_bracket (cs : List Char) : v4? ('[' :: cs) = none := rfl

theorem groups?_bracket (cs : List Char) : groups? ('[' :: cs) = none := rfl

/-!
## Ports and scopes

Both are rows of digits with a limit on their value.  A scope may be left out.
-/

def SpellsNumber (digits : List Char) (n : Nat) : Prop :=
  isDigits digits = true ∧ Nat.ofDigitChars 10 digits 0 = n

theorem SpellsNumber.not_mem {digits : List Char} {n : Nat} (h : SpellsNumber digits n) {c : Char}
    (hc : c.isDigit = false) : c ∉ digits := by
  intro hmem
  have hdigit := (isDigits_iff.mp h.1).2 c hmem
  rw [hc] at hdigit
  cases hdigit

theorem spellsNumber_toString (n : Nat) : SpellsNumber (toString n).toList n := by
  rw [Nat.toString_eq_repr, Nat.toList_repr]
  constructor
  · refine isDigits_iff.mpr ⟨Nat.toDigits_ne_nil, ?_⟩
    intro c hc
    exact Nat.isDigit_of_mem_toDigits (by decide) (by decide) hc
  · exact Nat.ofDigitChars_ten_toDigits

theorem numberUpTo?_leavesEnd (limit : Nat) : Reader.LeavesEnd (numberUpTo? limit) := by
  intro cs n left h
  simp only [numberUpTo?] at h
  split at h
  · cases h
  · cases h
    exact List.dropWhile_suffix _

theorem numberUpTo?_stopsBefore {rest : List Char}
    (hrest : forall c, rest.head? = some c -> c.isDigit = false) (limit : Nat) :
    Reader.StopsBefore (numberUpTo? limit) rest := by
  intro cs
  simp only [numberUpTo?, takeWhile_append_of_head hrest, dropWhile_append_of_head hrest]
  split
  · rfl
  · rfl

theorem numberUpTo?_eq_some_iff {limit n : Nat} {cs : List Char} :
    numberUpTo? limit cs = some (n, []) ↔ SpellsNumber cs n ∧ n ≤ limit := by
  constructor
  · intro h
    simp only [numberUpTo?] at h
    split at h
    · cases h
    · next hok =>
        injection h with hfound
        injection hfound with hvalue hrest
        have hdigits := List.dropWhile_eq_nil_iff.mp hrest
        rw [List.takeWhile_eq_self_iff.mpr hdigits] at hok hvalue
        rw [Bool.or_eq_true, not_or, decide_eq_true_eq, Nat.not_lt, hvalue] at hok
        refine ⟨⟨isDigits_iff.mpr ⟨?_, hdigits⟩, hvalue⟩, hok.2⟩
        rintro rfl
        exact hok.1 rfl
  · rintro ⟨⟨hdigits, rfl⟩, hlimit⟩
    rcases isDigits_iff.mp hdigits with ⟨hne, hall⟩
    simp only [numberUpTo?, List.takeWhile_eq_self_iff.mpr hall, List.dropWhile_eq_nil_iff.mpr hall,
      digitsValue_eq]
    rw [if_neg]
    rw [Bool.or_eq_true, not_or, decide_eq_true_eq, List.isEmpty_iff]
    exact ⟨hne, Nat.not_lt.mpr hlimit⟩

theorem port?_eq_some_iff {cs : List Char} {port : UInt16} :
    port? cs = some (port, []) ↔
      exists digits, cs = ':' :: digits ∧ SpellsNumber digits port.toNat := by
  constructor
  · intro h
    rcases Option.bind_eq_some_iff.mp h with ⟨digits, hcolon, h⟩
    rcases Option.bind_eq_some_iff.mp h with ⟨⟨n, rest⟩, hnumber, h⟩
    cases h
    rcases numberUpTo?_eq_some_iff.mp hnumber with ⟨hspells, hlimit⟩
    refine ⟨digits, after?_eq_some_iff.mp hcolon, ?_⟩
    rw [UInt16.toNat_ofNat_of_lt' (Nat.lt_succ_of_le hlimit)]
    exact hspells
  · rintro ⟨digits, rfl, hspells⟩
    have hnumber := numberUpTo?_eq_some_iff.mpr ⟨hspells, Nat.le_of_lt_succ port.toNat_lt⟩
    rw [port?, after?_cons_self]
    simp only [Option.bind_eq_bind, Option.bind_some, hnumber, UInt16.ofNat_toNat]
    rfl

inductive SpellsScope : List Char -> UInt32 -> Prop where
  | absent : SpellsScope [] 0
  | number {digits : List Char} {scope : UInt32} (spells : SpellsNumber digits scope.toNat) :
      SpellsScope ('%' :: digits) scope

theorem numberUpTo?_stopsBefore_bracket (limit : Nat) (rest : List Char) :
    Reader.StopsBefore (numberUpTo? limit) (']' :: rest) := by
  apply numberUpTo?_stopsBefore
  intro c hc
  cases hc
  rfl

theorem scope_append {mark : List Char} {n : UInt32} (h : SpellsScope mark n) (rest : List Char) :
    scope (mark ++ ']' :: rest) = (n, ']' :: rest) := by
  cases h with
  | absent => rfl
  | @number digits n hspells =>
      have hnumber := numberUpTo?_eq_some_iff.mpr ⟨hspells, Nat.le_of_lt_succ n.toNat_lt⟩
      have hread := (numberUpTo?_stopsBefore_bracket _ rest).append hnumber
      rw [scope, List.cons_append, after?_cons_self, Option.bind_some, hread]
      simp only [UInt32.ofNat_toNat]

theorem exists_scope {cs rest : List Char} {n : UInt32} (h : scope cs = (n, ']' :: rest)) :
    exists mark, cs = mark ++ ']' :: rest ∧ SpellsScope mark n := by
  rw [scope] at h
  split at h
  · next number left hnumber =>
      cases h
      rcases Option.bind_eq_some_iff.mp hnumber with ⟨text, hmark, hread⟩
      rcases (numberUpTo?_stopsBefore_bracket _ rest).exists_front
        (numberUpTo?_leavesEnd _) hread with ⟨digits, rfl, hdigits⟩
      rcases numberUpTo?_eq_some_iff.mp hdigits with ⟨hspells, hlimit⟩
      refine ⟨'%' :: digits, after?_eq_some_iff.mp hmark, .number ?_⟩
      rw [UInt32.toNat_ofNat_of_lt' (Nat.lt_succ_of_le hlimit)]
      exact hspells
  · cases h
    exact ⟨[], rfl, .absent⟩

/-!
## The grammar of endpoints

An address is read on its own or in front of a port, where groups stand in brackets.
-/

inductive SpellsAddress : List Char -> Address -> Prop where
  | v4 {text : List Char} {a b c d : UInt8} (reads : octets? text = some ((a, b, c, d), [])) :
      SpellsAddress text (.v4 a b c d)
  | v6 {text : List Char} {groups : List UInt16} (reads : groups? text = some (groups, [])) :
      SpellsAddress text (.v6 groups 0)

inductive SpellsHost : List Char -> Address -> Prop where
  | v4 {text : List Char} {a b c d : UInt8} (address : SpellsAddress text (.v4 a b c d)) :
      SpellsHost text (.v4 a b c d)
  | v6 {text mark : List Char} {groups : List UInt16} {scope : UInt32}
      (address : SpellsAddress text (.v6 groups 0)) (scope_spells : SpellsScope mark scope) :
      SpellsHost ('[' :: (text ++ (mark ++ [']']))) (.v6 groups scope)

inductive Spells : List Char -> Endpoint -> Prop where
  | mk {host digits : List Char} {address : Address} {port : UInt16}
      (host_spells : SpellsHost host address) (port_spells : SpellsNumber digits port.toNat) :
      Spells (host ++ ':' :: digits) ⟨address, port⟩

theorem octets?_stopsBefore_colon (rest : List Char) :
    Reader.StopsBefore octets? (':' :: rest) := by
  apply octets?_stopsBefore
  · simp
  · intro c hc
    cases hc
    rfl

theorem SpellsScope.endsGroups {mark : List Char} {n : UInt32} (h : SpellsScope mark n)
    (rest : List Char) : EndsGroups (mark ++ ']' :: rest) := by
  cases h with
  | absent => exact ⟨fun c hc => by cases hc; rfl, by simp, by simp⟩
  | number hspells => exact ⟨fun c hc => by cases hc; rfl, by simp, by simp⟩

theorem spells_of_v4? {cs : List Char} {e : Endpoint} (h : v4? cs = some (e, [])) :
    Spells cs e := by
  rcases Option.bind_eq_some_iff.mp h with ⟨⟨⟨a, b, c, d⟩, left⟩, hoctets, h⟩
  rcases Option.bind_eq_some_iff.mp h with ⟨⟨port, rest⟩, hport, h⟩
  cases h
  rcases port?_eq_some_iff.mp hport with ⟨digits, rfl, hdigits⟩
  rcases (octets?_stopsBefore_colon digits).exists_front octets?_leavesEnd hoctets with
    ⟨text, rfl, htext⟩
  exact .mk (.v4 (.v4 htext)) hdigits

theorem spells_of_v6? {cs : List Char} {e : Endpoint} (h : v6? cs = some (e, [])) :
    Spells cs e := by
  rcases Option.bind_eq_some_iff.mp h with ⟨inner, hopen, h⟩
  rcases Option.bind_eq_some_iff.mp h with ⟨⟨groups, behind⟩, hgroups, h⟩
  cases hscope : scope behind with
  | mk n left =>
      dsimp only at h
      rw [hscope] at h
      rcases Option.bind_eq_some_iff.mp h with ⟨text, hclose, h⟩
      rcases Option.bind_eq_some_iff.mp h with ⟨⟨port, rest⟩, hport, h⟩
      cases h
      rcases port?_eq_some_iff.mp hport with ⟨digits, rfl, hdigits⟩
      have hleft : left = ']' :: ':' :: digits := after?_eq_some_iff.mp hclose
      rw [hleft] at hscope
      rcases exists_scope hscope with ⟨mark, rfl, hmark⟩
      rcases (groups?_stopsBefore (hmark.endsGroups _)).exists_front groups?_leavesEnd hgroups with
        ⟨address, rfl, haddress⟩
      have hspells := Spells.mk (.v6 (.v6 haddress) hmark) hdigits
      rw [after?_eq_some_iff.mp hopen]
      simpa using hspells

theorem v4?_of_spellsAddress {text digits : List Char} {a b c d : UInt8} {port : UInt16}
    (haddress : SpellsAddress text (.v4 a b c d)) (hport : SpellsNumber digits port.toNat) :
    v4? (text ++ ':' :: digits) = some (⟨.v4 a b c d, port⟩, []) := by
  cases haddress with
  | v4 htext =>
      rw [v4?, (octets?_stopsBefore_colon digits).append htext]
      simp only [Option.bind_eq_bind, Option.bind_some, port?_eq_some_iff.mpr ⟨digits, rfl, hport⟩]
      rfl

theorem v6?_of_spellsAddress {text mark digits : List Char} {groups : List UInt16}
    {n : UInt32} {port : UInt16} (haddress : SpellsAddress text (.v6 groups 0))
    (hscope : SpellsScope mark n) (hport : SpellsNumber digits port.toNat) :
    v6? ('[' :: (text ++ (mark ++ ']' :: ':' :: digits))) = some (⟨.v6 groups n, port⟩, []) := by
  cases haddress with
  | v6 htext =>
      rw [v6?, after?_cons_self]
      simp only [Option.bind_eq_bind, Option.bind_some,
        (groups?_stopsBefore (hscope.endsGroups _)).append htext, scope_append hscope,
        after?_cons_self, port?_eq_some_iff.mpr ⟨digits, rfl, hport⟩]
      rfl

theorem parse?_eq_some_iff {s : String} {e : Endpoint} :
    parse? s = some e ↔ Spells s.toList e := by
  constructor
  · intro h
    rw [parse?] at h
    split at h
    · next found hfound =>
        cases h
        rcases Option.or_eq_some_iff.mp hfound with hv4 | ⟨_, hv6⟩
        · exact spells_of_v4? hv4
        · exact spells_of_v6? hv6
    · cases h
  · intro h
    rw [parse?]
    generalize s.toList = cs at h
    cases h with
    | @mk host digits address port hhost hport =>
        cases hhost with
        | v4 haddress =>
            rw [v4?_of_spellsAddress haddress hport]
            rfl
        | @v6 text mark groups n haddress hscope =>
            have hv6 : v6? ('[' :: (text ++ (mark ++ ([']'] ++ ':' :: digits)))) = _ :=
              v6?_of_spellsAddress haddress hscope hport
            rw [List.cons_append, List.append_assoc, List.append_assoc, v4?_bracket, hv6]
            rfl

/-- A host and a port are read back from the text that joins them. -/
theorem spells_join_iff {host digits : List Char} {port : UInt16} {e : Endpoint}
    (hdigits : SpellsNumber digits port.toNat) :
    Spells (host ++ ':' :: digits) e ↔ SpellsHost host e.address ∧ e.port = port := by
  constructor
  · intro h
    generalize hcs : host ++ ':' :: digits = cs at h
    cases h with
    | mk hhost hport =>
        -- No digit is a colon, so the last colon of the text is the one before the port.
        rcases eq_of_append_cons hcs (hdigits.not_mem rfl) (hport.not_mem rfl) with ⟨rfl, rfl⟩
        exact ⟨hhost, UInt16.toNat_inj.mp (hport.2.symm.trans hdigits.2)⟩
  · rintro ⟨hhost, rfl⟩
    exact .mk hhost hdigits

theorem not_spellsHost_of_v6 {text : List Char} {groups : List UInt16} {scope : UInt32}
    (h : SpellsAddress text (.v6 groups scope)) (address : Address) :
    ¬SpellsHost text address := by
  intro hhost
  cases h with
  | v6 hgroups =>
      cases hhost with
      | v4 haddress =>
          cases haddress with
          | v4 hoctets =>
              rw [groups?_of_octets? hoctets] at hgroups
              cases hgroups
      | v6 haddress hscope =>
          rw [groups?_bracket] at hgroups
          cases hgroups

theorem scope_of_spellsAddress {text : List Char} {groups : List UInt16} {scope : UInt32}
    (h : SpellsAddress text (.v6 groups scope)) : scope = 0 := by
  cases h with
  | v6 hgroups => rfl

end Endpoint

end RaceTape
