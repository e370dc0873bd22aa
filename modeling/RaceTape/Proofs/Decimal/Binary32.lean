import RaceTape.Decimal.Binary32
import RaceTape.Proofs.Decimal.Literal
import RaceTape.Proofs.Text.Casing

/-!
# The grammar of single-precision numbers

    number  ::= literal | sign name
    name    ::= "inf" | "infinity" | "nan"

Names may be written in any letter case.  They begin with a letter, and letters stand behind the
signs, the digits and the point, so no text is both a literal and a name.
-/

namespace RaceTape
namespace Decimal

open Text

namespace Binary32

inductive Name : List Char -> Nat -> Prop where
  | infinity {name : List Char}
      (same : SameLetters name "inf".toList ∨ SameLetters name "infinity".toList) :
      Name name Format.binary32.infinity
  | nan {name : List Char} (same : SameLetters name "nan".toList) : Name name quietNaN

inductive SpellsName : List Char -> Binary32 -> Prop where
  | mk {sign name : List Char} {negative : Bool} {magnitude : Nat}
      (sign_spells : Sign sign negative) (is_name : Name name magnitude) :
      SpellsName (sign ++ name) (ofMagnitude negative magnitude)

/-!
## Names
-/

theorem named?_eq_some_iff {cs : List Char} {magnitude : Nat} :
    named? cs = some magnitude ↔ Name cs magnitude := by
  simp only [named?]
  constructor
  · intro h
    split at h
    · next hinfinity =>
        cases h
        rw [Bool.or_eq_true, decide_eq_true_eq, decide_eq_true_eq] at hinfinity
        exact .infinity hinfinity
    · split at h
      · next hnan =>
          cases h
          exact .nan hnan
      · cases h
  · intro h
    cases h with
    | infinity same =>
        apply if_pos
        rw [Bool.or_eq_true, decide_eq_true_eq, decide_eq_true_eq]
        exact same
    | nan same =>
        have hname : cs.map Char.toLower = "nan".toList := same
        rw [hname]
        rfl

theorem letter_of_toLower {c : Char} (h : c.toLower = 'i' ∨ c.toLower = 'n') :
    0x41 ≤ c.toNat := by
  by_cases hc : c.toLower = c
  · rw [hc] at h
    rcases h with rfl | rfl
    · decide
    · decide
  · exact (capital_of_toLower_ne hc).1

theorem Name.exists_letter {name : List Char} {magnitude : Nat} (h : Name name magnitude) :
    exists c rest, name = c :: rest ∧ 0x41 ≤ c.toNat := by
  cases name with
  | nil =>
      cases h with
      | infinity same =>
          rcases same with same | same
          · cases same
          · cases same
      | nan same => cases same
  | cons c rest =>
      refine ⟨c, rest, rfl, letter_of_toLower ?_⟩
      cases h with
      | infinity same =>
          rcases same with same | same
          · exact Or.inl (List.cons.inj same).1
          · exact Or.inl (List.cons.inj same).1
      | nan same => exact Or.inr (List.cons.inj same).1

theorem Name.unsigned {name : List Char} {magnitude : Nat} (h : Name name magnitude) :
    Unsigned name := by
  rcases h.exists_letter with ⟨c, rest, rfl, hletter⟩
  constructor
  · intro hc
    cases hc
    exact absurd hletter (by decide)
  · intro hc
    cases hc
    exact absurd hletter (by decide)

/-!
## Numbers
-/

theorem named?_mantissa {mantissa digits fraction : List Char}
    (h : Literal.Mantissa mantissa digits fraction) (rest : List Char) :
    named? (mantissa ++ rest) = none := by
  rcases h.exists_head with ⟨c, tail, rfl, hc⟩
  apply Option.eq_none_iff_forall_ne_some.mpr
  intro magnitude hname
  rcases (named?_eq_some_iff.mp hname).exists_letter with ⟨d, _, hd, hletter⟩
  cases hd
  exact absurd hletter (Nat.not_le_of_lt hc)

/-- The reader of numbers accepts the literals and the names with an optional sign. -/
theorem parse?_eq_some_iff {cs : List Char} {value : Binary32} :
    parse? cs = some value ↔
      (exists literal, Literal.Spells cs literal ∧ value = ofLiteral literal) ∨
        SpellsName cs value := by
  constructor
  · intro h
    rcases exists_sign cs with ⟨sign, negative, body, hsplit, hsign, hcs⟩
    rw [parse?, hsplit] at h
    cases hname : named? body with
    | some magnitude =>
        simp only [hname] at h
        cases h
        rw [hcs]
        exact Or.inr (.mk hsign (named?_eq_some_iff.mp hname))
    | none =>
        simp only [hname] at h
        rcases Option.map_eq_some_iff.mp h with ⟨literal, hliteral, rfl⟩
        exact Or.inl ⟨literal, Literal.parse?_eq_some_iff.mp hliteral, rfl⟩
  · rintro (⟨literal, hspells, rfl⟩ | hname)
    · have hparse := Literal.parse?_eq_some_iff.mpr hspells
      cases hspells with
      | mk hsign hmantissa hpower =>
          simp only [parse?, splitSign_append hsign (hmantissa.unsigned _),
            named?_mantissa hmantissa, hparse]
          rfl
    · cases hname with
      | mk hsign hname =>
          simp only [parse?, splitSign_append hsign hname.unsigned, named?_eq_some_iff.mpr hname]

theorem parse?_of_literal {cs : List Char} {literal : Literal}
    (h : Literal.parse? cs = some literal) : parse? cs = some (ofLiteral literal) := by
  have hspells := Literal.parse?_eq_some_iff.mp h
  exact parse?_eq_some_iff.mpr (Or.inl ⟨literal, hspells, rfl⟩)

theorem exists_parse?_iff {cs : List Char} :
    (exists value, parse? cs = some value) ↔
      (Literal.parse? cs).isSome = true ∨ exists value, SpellsName cs value := by
  rw [Option.isSome_iff_exists]
  constructor
  · rintro ⟨value, h⟩
    rcases parse?_eq_some_iff.mp h with ⟨literal, hspells, _⟩ | hname
    · exact Or.inl ⟨literal, Literal.parse?_eq_some_iff.mpr hspells⟩
    · exact Or.inr ⟨value, hname⟩
  · rintro (⟨literal, h⟩ | ⟨value, hname⟩)
    · exact ⟨_, parse?_of_literal h⟩
    · exact ⟨value, parse?_eq_some_iff.mpr (Or.inr hname)⟩

end Binary32

end Decimal
end RaceTape
