import RaceTape.Header.Key
import RaceTape.Proofs.Text.Blank
import Mathlib.Data.List.Basic

/-!
# The grammar of header lines

A line sets a key exactly if it is spelled as the grammar says, and then to the value that the
grammar gives.  No word of a key begins like another one, so at most one key fits a line and the
order in which keys are tried does not matter.
-/

namespace RaceTape
namespace Header

open Text

/-!
## Entries

A value is written as a word without quotes, or as a text between two quotes of one kind, in which
quotes of the other kind are allowed.  Between a key and a written value stand blanks, or a mark
with blanks allowed around it; a value behind blanks alone does not begin with a mark.
-/

inductive Writes : List Char -> List Char -> Prop where
  | word {value : List Char} (ne : value ≠ []) (unbroken : IsUnbroken value)
      (no_quotation_mark : '"' ∉ value) (no_apostrophe : '\x27' ∉ value) : Writes value value
  | quoted {quote : Char} {value : List Char} (kind : quote = '"' ∨ quote = '\x27')
      (ne : value ≠ []) (not_mem : quote ∉ value) : Writes (quote :: (value ++ [quote])) value

inductive Separates (body : List Char) : List Char -> Prop where
  | blanks {gap : List Char} (ne : gap ≠ []) (gap_blank : IsBlankText gap)
      (no_colon : body.head? ≠ some ':') (no_equals : body.head? ≠ some '=') : Separates body gap
  | mark {before after : List Char} {mark : Char} (before_blank : IsBlankText before)
      (kind : mark = ':' ∨ mark = '=') (after_blank : IsBlankText after) :
      Separates body (before ++ mark :: after)

inductive SpellsEntry : List Char -> Key -> List Char -> Prop where
  | mk {key : Key} {gap body tail value : List Char} (separates : Separates body gap)
      (writes : Writes body value) (tail_blank : IsBlankText tail) :
      SpellsEntry (key.word.toList ++ (gap ++ (body ++ tail))) key value

/-!
## Quotes and marks
-/

theorem isQuote_iff {c : Char} : isQuote c = true ↔ c = '"' ∨ c = '\x27' := by
  rw [isQuote, Bool.or_eq_true, decide_eq_true_eq, decide_eq_true_eq]
  rfl

theorem isMark_iff {c : Char} : isMark c = true ↔ c = ':' ∨ c = '=' := by
  rw [isMark, Bool.or_eq_true, decide_eq_true_eq, decide_eq_true_eq]

theorem isBlank_of_isQuote {c : Char} (h : isQuote c = true) : isBlank c = false := by
  rcases isQuote_iff.mp h with rfl | rfl
  · rfl
  · rfl

theorem isBlank_of_isMark {c : Char} (h : isMark c = true) : isBlank c = false := by
  rcases isMark_iff.mp h with rfl | rfl
  · rfl
  · rfl

/-!
## Written values
-/

theorem closedBy?_eq_some_iff {quote : Char} {rest value : List Char} :
    closedBy? quote rest = some value ↔ rest = value ++ [quote] ∧ value ≠ [] ∧ quote ∉ value := by
  rw [closedBy?]
  rcases List.eq_nil_or_concat rest with rfl | ⟨inner, last, rfl⟩
  · simp
  · simp only [List.concat_eq_append, List.reverse_append, List.reverse_singleton,
      List.singleton_append, List.reverse_reverse, Option.ite_none_right_eq_some, Bool.and_eq_true,
      Bool.not_eq_true', decide_eq_true_eq, List.isEmpty_eq_false_iff, List.contains_eq_mem,
      decide_eq_false_iff_not, List.mem_reverse, List.reverse_ne_nil_iff, Option.some.injEq]
    constructor
    · intro h
      rcases h with ⟨⟨⟨rfl, hne⟩, hnot⟩, rfl⟩
      exact ⟨rfl, hne, hnot⟩
    · intro h
      rcases h with ⟨happend, hne, hnot⟩
      rcases List.append_inj' happend rfl with ⟨rfl, hlast⟩
      cases hlast
      exact ⟨⟨⟨rfl, hne⟩, hnot⟩, rfl⟩

theorem all_plain_iff {value : List Char} :
    value.all (fun c => !isBlank c && !isQuote c) = true ↔
      IsUnbroken value ∧ '"' ∉ value ∧ '\x27' ∉ value := by
  rw [List.all_eq_true]
  constructor
  · intro h
    have hplain : forall c, c ∈ value -> isBlank c = false ∧ isQuote c = false := by
      intro c hc
      have hboth := h c hc
      rw [Bool.and_eq_true, Bool.not_eq_true', Bool.not_eq_true'] at hboth
      exact hboth
    refine ⟨fun c hc => (hplain c hc).1, ?_, ?_⟩
    · intro hmem
      cases (hplain _ hmem).2
    · intro hmem
      cases (hplain _ hmem).2
  · intro h c hc
    rcases h with ⟨hunbroken, hquotation, hapostrophe⟩
    have hquote : isQuote c = false := by
      rw [← Bool.not_eq_true, isQuote_iff]
      intro hkind
      rcases hkind with rfl | rfl
      · exact hquotation hc
      · exact hapostrophe hc
    rw [hunbroken c hc, hquote]
    rfl

theorem valueText?_eq_some_iff {body value : List Char} :
    valueText? body = some value ↔ Writes body value := by
  constructor
  · intro h
    cases body with
    | nil => cases h
    | cons c rest =>
        rw [valueText?] at h
        split at h
        · next hquote =>
            rcases closedBy?_eq_some_iff.mp h with ⟨rfl, hne, hnot⟩
            exact .quoted (isQuote_iff.mp hquote) hne hnot
        · next hquote =>
            rw [Option.ite_none_right_eq_some] at h
            rcases h with ⟨hall, hvalue⟩
            cases hvalue
            rcases all_plain_iff.mp hall with ⟨hunbroken, hquotation, hapostrophe⟩
            exact .word (List.cons_ne_nil c rest) hunbroken hquotation hapostrophe
  · intro h
    cases h with
    | word hne hunbroken hquotation hapostrophe =>
        have hall := all_plain_iff.mpr ⟨hunbroken, hquotation, hapostrophe⟩
        cases body with
        | nil => exact absurd rfl hne
        | cons c rest =>
            have hquote := (List.all_eq_true.mp hall) c List.mem_cons_self
            rw [Bool.and_eq_true, Bool.not_eq_true', Bool.not_eq_true'] at hquote
            rw [valueText?, if_neg (by rw [hquote.2]; exact Bool.false_ne_true), if_pos hall]
    | quoted hkind hne hnot =>
        rw [valueText?, if_pos (isQuote_iff.mpr hkind)]
        exact closedBy?_eq_some_iff.mpr ⟨rfl, hne, hnot⟩

section

variable {body value : List Char} (h : Writes body value)

include h

theorem Writes.exists_head : exists c rest, body = c :: rest ∧ isBlank c = false := by
  cases h with
  | word hne hunbroken =>
      cases body with
      | nil => exact absurd rfl hne
      | cons c rest => exact ⟨c, rest, rfl, hunbroken c List.mem_cons_self⟩
  | quoted hkind => exact ⟨_, _, rfl, isBlank_of_isQuote (isQuote_iff.mpr hkind)⟩

theorem Writes.getLast_not_blank (c : Char) (hc : body.getLast? = some c) : isBlank c = false := by
  cases h with
  | word _ hunbroken => exact hunbroken c (List.mem_of_getLast? hc)
  | quoted hkind =>
      rw [← List.cons_append, List.getLast?_concat] at hc
      cases hc
      exact isBlank_of_isQuote (isQuote_iff.mpr hkind)

theorem Writes.trimStart_append {gap : List Char} (hgap : IsBlankText gap) (tail : List Char) :
    trimStart (gap ++ (body ++ tail)) = body ++ tail := by
  rcases h.exists_head with ⟨c, rest, rfl, hc⟩
  apply dropWhile_run hgap
  intro d hd
  cases hd
  exact hc

end

/-!
## Values behind a key
-/

theorem dropMark_of_mark {c : Char} (h : isMark c = true) (rest : List Char) :
    dropMark (c :: rest) = trimStart rest :=
  if_pos h

theorem dropMark_of_no_mark {text : List Char} (hcolon : text.head? ≠ some ':')
    (hequals : text.head? ≠ some '=') : dropMark text = text := by
  cases text with
  | nil => rfl
  | cons c rest =>
      apply if_neg
      rw [isMark_iff]
      intro h
      rcases h with rfl | rfl
      · exact hcolon rfl
      · exact hequals rfl

theorem Separates.dropMark_trimStart {gap body value : List Char} (h : Separates body gap)
    (hwrites : Writes body value) (tail : List Char) :
    dropMark (trimStart (gap ++ (body ++ tail))) = body ++ tail := by
  cases h with
  | blanks _ hgap hcolon hequals =>
      rcases hwrites.exists_head with ⟨c, rest, rfl, _⟩
      rw [hwrites.trimStart_append hgap]
      exact dropMark_of_no_mark hcolon hequals
  | @mark before after mark hbefore hkind hafter =>
      have hmark := isMark_iff.mpr hkind
      have hstart : trimStart (before ++ mark :: (after ++ (body ++ tail))) =
          mark :: (after ++ (body ++ tail)) := by
        apply dropWhile_run hbefore
        intro c hc
        cases hc
        exact isBlank_of_isMark hmark
      rw [List.append_assoc, List.cons_append, hstart, dropMark_of_mark hmark]
      exact hwrites.trimStart_append hafter tail

theorem Separates.exists_head {gap body : List Char} (h : Separates body gap) :
    exists c rest, gap = c :: rest ∧ (isBlank c || isMark c) = true := by
  cases h with
  | blanks hne hgap =>
      cases gap with
      | nil => exact absurd rfl hne
      | cons c rest => exact ⟨c, rest, rfl, by rw [hgap c List.mem_cons_self]; rfl⟩
  | @mark before after mark hbefore hkind =>
      cases before with
      | nil => exact ⟨mark, after, rfl, by rw [isMark_iff.mpr hkind, Bool.or_true]⟩
      | cons c before => exact ⟨c, _, rfl, by rw [hbefore c List.mem_cons_self]; rfl⟩

theorem valueAfterKey?_of_separates {gap body tail value : List Char} (h : Separates body gap)
    (hwrites : Writes body value) (htail : IsBlankText tail) :
    valueAfterKey? (gap ++ (body ++ tail)) = some value := by
  have hdrop := h.dropMark_trimStart hwrites tail
  rcases h.exists_head with ⟨c, rest, rfl, hc⟩
  rw [List.cons_append] at hdrop ⊢
  rw [valueAfterKey?, if_pos hc, hdrop, trimEnd_append htail hwrites.getLast_not_blank]
  exact valueText?_eq_some_iff.mpr hwrites

theorem head_trimStart_not_blank (text : List Char) (c : Char)
    (h : (trimStart text).head? = some c) : isBlank c = false := by
  have hhead := List.head?_dropWhile_not isBlank text
  rw [trimStart] at h
  rw [h] at hhead
  exact hhead

theorem Separates.of_head_eq {body other gap : List Char} (h : Separates body gap)
    (hhead : other.head? = body.head?) : Separates other gap := by
  cases h with
  | blanks hne hgap hcolon hequals =>
      rw [← hhead] at hcolon hequals
      exact .blanks hne hgap hcolon hequals
  | mark hbefore hkind hafter => exact .mark hbefore hkind hafter

theorem separates_of_no_mark {c d : Char} {rest back gap : List Char}
    (hc : (isBlank c || isMark c) = true) (hmark : isMark d = false) (hd : isBlank d = false)
    (hgap : IsBlankText gap) (htext : c :: rest = gap ++ d :: back) :
    Separates (d :: back) gap := by
  have hno : d ≠ ':' ∧ d ≠ '=' := by
    rw [← not_or, ← isMark_iff, hmark]
    exact Bool.false_ne_true
  apply Separates.blanks _ hgap
  · intro hcolon
    exact hno.1 (Option.some.inj hcolon)
  · intro hequals
    exact hno.2 (Option.some.inj hequals)
  · -- Without a gap the character behind the key would be neither a blank nor a mark.
    rintro rfl
    cases htext
    rw [hmark, hd] at hc
    cases hc

/-- What is dropped behind a key separates it from the rest. -/
theorem exists_separates {c : Char} (hc : (isBlank c || isMark c) = true) (rest : List Char) :
    exists gap, Separates (dropMark (trimStart (c :: rest))) gap ∧
      c :: rest = gap ++ dropMark (trimStart (c :: rest)) := by
  rcases exists_trimStart (c :: rest) with ⟨gap, hgap, htext⟩
  have hfirst := head_trimStart_not_blank (c :: rest)
  cases hstart : trimStart (c :: rest) with
  | nil =>
      rw [hstart, List.append_nil] at htext
      rw [← htext] at hgap
      exact ⟨c :: rest, .blanks (List.cons_ne_nil c rest) hgap nofun nofun,
        (List.append_nil _).symm⟩
  | cons d back =>
      rw [hstart] at htext hfirst
      cases hmark : isMark d with
      | true =>
          rcases exists_trimStart back with ⟨after, hafter, hback⟩
          refine ⟨gap ++ d :: after, .mark hgap (isMark_iff.mp hmark) hafter, ?_⟩
          rw [dropMark_of_mark hmark, htext, List.append_assoc, List.cons_append, ← hback]
      | false =>
          have hdrop : dropMark (d :: back) = d :: back := if_neg (Bool.eq_false_iff.mp hmark)
          rw [hdrop]
          exact ⟨gap, separates_of_no_mark hc hmark (hfirst d rfl) hgap htext, htext⟩

theorem exists_of_valueAfterKey? {text value : List Char} (h : valueAfterKey? text = some value) :
    exists gap body tail, Separates body gap ∧ Writes body value ∧ IsBlankText tail ∧
      text = gap ++ (body ++ tail) := by
  cases text with
  | nil => cases h
  | cons c rest =>
      rw [valueAfterKey?, Option.ite_none_right_eq_some] at h
      rcases h with ⟨hc, hvalue⟩
      have hwrites := valueText?_eq_some_iff.mp hvalue
      rcases exists_separates hc rest with ⟨gap, hseparates, htext⟩
      rcases exists_trimEnd (dropMark (trimStart (c :: rest))) with ⟨tail, htail, hbody⟩
      refine ⟨gap, _, tail, hseparates.of_head_eq ?_, hwrites, htail,
        htext.trans (congrArg (gap ++ ·) hbody)⟩
      rcases hwrites.exists_head with ⟨b, inner, hhead, _⟩
      rw [hhead] at hbody ⊢
      rw [hbody]
      rfl

/-!
## Keys

Keys can be tried in any order.  The last line has two marks, of which the second belongs to the
value.
-/

theorem Key.valueIn?_eq_some_iff {key : Key} {text value : List Char} :
    key.valueIn? text = some value ↔ SpellsEntry text key value := by
  rw [valueIn?, Option.bind_eq_some_iff]
  constructor
  · intro h
    rcases h with ⟨rest, hrest, hvalue⟩
    rw [List.isPrefixOf?_eq_some_iff_append_eq] at hrest
    rcases exists_of_valueAfterKey? hvalue with ⟨gap, body, tail, hgap, hbody, htail, rfl⟩
    rw [← hrest]
    exact .mk hgap hbody htail
  · intro h
    cases h with
    | mk hgap hbody htail =>
        exact ⟨_, List.isPrefixOf?_eq_some_iff_append_eq.mpr rfl,
          valueAfterKey?_of_separates hgap hbody htail⟩

theorem Key.eq_of_word_prefix {key other : Key} (h : key.word.toList <+: other.word.toList) :
    key = other := by
  revert h
  cases key <;> cases other <;> decide +kernel

theorem Key.mem_all (key : Key) : key ∈ Key.all := by
  cases key <;> decide

section

variable {text value found : List Char} {key other : Key}

theorem SpellsEntry.word_prefix (h : SpellsEntry text key value) : key.word.toList <+: text := by
  cases h with
  | mk => exact List.prefix_append _ _

theorem SpellsEntry.key_unique (h : SpellsEntry text key value)
    (hother : SpellsEntry text other found) : key = other := by
  rcases List.prefix_or_prefix_of_prefix h.word_prefix hother.word_prefix with hfront | hfront
  · exact Key.eq_of_word_prefix hfront
  · exact (Key.eq_of_word_prefix hfront).symm

theorem SpellsEntry.value_unique (h : SpellsEntry text key value)
    (hother : SpellsEntry text key found) : value = found :=
  Option.some.inj
    ((Key.valueIn?_eq_some_iff.mpr h).symm.trans (Key.valueIn?_eq_some_iff.mpr hother))

end

def entryAmong? (keys : List Key) (text : String) : Option (Key × String) :=
  keys.findSome? fun key =>
    (key.valueIn? text.toList).map fun value => (key, String.ofList value)

theorem entryAmong?_eq_some_iff {keys : List Key} (hall : forall key, key ∈ keys) {text : String}
    {key : Key} {value : String} :
    entryAmong? keys text = some (key, value) ↔ SpellsEntry text.toList key value.toList := by
  have hsound : forall {key value}, entryAmong? keys text = some (key, value) ->
      SpellsEntry text.toList key value.toList := by
    intro key value h
    rcases List.exists_of_findSome?_eq_some h with ⟨tried, _, htried⟩
    rcases Option.map_eq_some_iff.mp htried with ⟨cs, hcs, hentry⟩
    cases hentry
    rw [String.toList_ofList]
    exact Key.valueIn?_eq_some_iff.mp hcs
  constructor
  · exact hsound
  · intro h
    cases hfound : entryAmong? keys text with
    | none =>
        have hnone := List.findSome?_eq_none_iff.mp hfound key (hall key)
        rw [Key.valueIn?_eq_some_iff.mpr h] at hnone
        cases hnone
    | some entry =>
        rcases entry with ⟨other, found⟩
        have hother := hsound hfound
        cases h.key_unique hother
        rw [String.toList_injective (h.value_unique hother)]

/--
A line sets a key to a value exactly as the grammar says.  At most one key fits a line, and any
order of trying the keys gives the same entry.
-/
theorem header_line_grammar (text : String) :
    (forall key value,
      entry? text = some (key, value) ↔ SpellsEntry text.toList key value.toList) ∧
    (forall (key other : Key) value found,
      key.valueIn? text.toList = some value -> other.valueIn? text.toList = some found ->
        key = other) ∧
    (forall order : List Key, order.Perm Key.all -> entryAmong? order text = entry? text) := by
  refine ⟨fun key value => entryAmong?_eq_some_iff Key.mem_all, ?_, ?_⟩
  · intro key other value found hvalue hfound
    exact (Key.valueIn?_eq_some_iff.mp hvalue).key_unique (Key.valueIn?_eq_some_iff.mp hfound)
  · intro order horder
    have hall (key : Key) : key ∈ order := horder.mem_iff.mpr (Key.mem_all key)
    apply Option.ext
    intro entry
    rcases entry with ⟨key, value⟩
    exact (entryAmong?_eq_some_iff hall).trans (entryAmong?_eq_some_iff Key.mem_all).symm

theorem doubled_mark_in_value :
    entry? "num_laps\t==3 " = some (.laps, "=3") ∧
      entryAmong? Key.all.reverse "num_laps\t==3 " = some (.laps, "=3") ∧
      forall (key : Key) value, key.valueIn? "num_laps\t==3 ".toList = some value -> key = .laps := by
  rcases header_line_grammar "num_laps\t==3 " with ⟨hgrammar, hunique, horder⟩
  have htext : "num_laps\t==3 ".toList =
      Key.laps.word.toList ++ (['\t', '='] ++ ("=3".toList ++ [' '])) := by decide +kernel
  have hseparates : Separates "=3".toList (['\t'] ++ '=' :: []) :=
    .mark (by decide) (Or.inr rfl) (by decide)
  have hwrites : Writes "=3".toList "=3".toList := by
    apply Writes.word
    · decide +kernel
    · exact all_plain_iff.mp (by decide +kernel) |>.1
    · decide +kernel
    · decide +kernel
  have hspells : SpellsEntry "num_laps\t==3 ".toList .laps "=3".toList := by
    rw [htext]
    exact .mk hseparates hwrites (by decide)
  have hentry := (hgrammar .laps "=3").mpr hspells
  refine ⟨hentry, (horder _ (List.reverse_perm _)).trans hentry, ?_⟩
  intro key value hvalue
  exact hunique key .laps value _ hvalue (Key.valueIn?_eq_some_iff.mpr hspells)

end Header
end RaceTape
