import ManifestPatch.Proofs.Selector.Component
import ManifestPatch.Selector.Printer

/-!
# Well-Formed Components

Components are written without any escaping: names as they are, and values in whichever quotes
they do not hold. That reads back only for **well-formed** components. This module shows that the
grammar spells well-formed components only, and that what is written for a well-formed component
is a piece of the grammar that spells it.

## Main definitions

* `Predicate.WellFormed`, `Component.WellFormed`: names are names, positions count from one, and
  no value holds both quotes.

## Main results

* `SpellsLast.wellFormed`: every component that the grammar spells is well formed.
* `Component.WellFormed.spellsLast`: a well-formed component is written as a piece that spells it.
-/

namespace ManifestPatch

open Selector

/-! ### Well-formedness -/

/-- A predicate is **well formed** if its position is at least one, or if its attribute has a name
and its value does not hold both quotes. -/
inductive Predicate.WellFormed : Predicate → Prop
  | position {ordinal : UInt64} (h : 1 ≤ ordinal.toNat) : WellFormed (.position ordinal)
  | attributeIs {name value : String} (hn : SpellsName name.toList)
      (hv : ¬ ('"' ∈ value.toList ∧ '\'' ∈ value.toList)) : WellFormed (.attributeIs name value)

/-- A component is **well formed** if it has a name and, possibly, a well-formed predicate, or if
it is `@` and a name. -/
inductive Component.WellFormed : Component → Prop
  | ofElement {name : String} {predicate : Option Predicate} (hn : SpellsName name.toList)
      (hp : ∀ p, predicate = some p → p.WellFormed) : WellFormed { name, predicate }
  | ofAttribute {name : String} (hn : SpellsName name.toList) : WellFormed { name := "@" ++ name }

/-! ### What the grammar spells -/

namespace Selector

/-- No value of a literal holds both quotes. -/
theorem SpellsLiteral.not_both_quotes {s : List Char} {value : String}
    (h : SpellsLiteral s value) : ¬ ('"' ∈ value.toList ∧ '\'' ∈ value.toList) := by
  rintro ⟨hd, hs⟩
  cases h with
  | doubleQuoted h => exact h hd
  | singleQuoted h => exact h hs
  | bare ne h => exact (h '"' hd).1 (by simp)

/-- The grammar spells well-formed predicates only. -/
theorem SpellsPredicate.wellFormed {body : List Char} {predicate : Predicate}
    (h : SpellsPredicate body predicate) : predicate.WellFormed := by
  cases h with
  | position ne hd h1 hs =>
      refine Predicate.WellFormed.position ?_
      rwa [UInt64.toNat_ofNat_of_lt' hs]
  | attributeIs hm hn hl => exact Predicate.WellFormed.attributeIs hn hl.not_both_quotes

/-- The grammar spells well-formed components only. -/
theorem SpellsLast.wellFormed {piece : List Char} {component : Component}
    (h : SpellsLast piece component) : component.WellFormed := by
  cases h with
  | ofElement h =>
      cases h with
      | plain hn => exact Component.WellFormed.ofElement hn (by simp)
      | qualified hn hp =>
          refine Component.WellFormed.ofElement hn ?_
          rintro p ⟨⟩
          exact hp.wellFormed
  | ofAttribute hn => exact Component.WellFormed.ofAttribute hn

end Selector

/-! ### What is written -/

/-- A value that does not hold both quotes does not hold the quote it is written in. -/
theorem Predicate.quoteFor_notMem {value : String}
    (h : ¬ ('"' ∈ value.toList ∧ '\'' ∈ value.toList)) :
    Predicate.quoteFor value ∉ value.toList := by
  unfold Predicate.quoteFor
  by_cases hd : '"' ∈ value.toList
  · rw [if_pos hd]
    exact fun hs => h ⟨hd, hs⟩
  · rwa [if_neg hd]

/-- A value in the quotes it is written in is a literal with that value. -/
theorem Predicate.spellsLiteral_quoted {value : String}
    (h : ¬ ('"' ∈ value.toList ∧ '\'' ∈ value.toList)) :
    SpellsLiteral
      (Predicate.quoteFor value :: (value.toList ++ [Predicate.quoteFor value])) value := by
  have hq := Predicate.quoteFor_notMem h
  unfold Predicate.quoteFor at hq ⊢
  by_cases hd : '"' ∈ value.toList
  · rw [if_pos hd] at hq ⊢
    exact SpellsLiteral.singleQuoted hq
  · rw [if_neg hd] at hq ⊢
    exact SpellsLiteral.doubleQuoted hq

/-- The decimal digits of a position, as they are written, spell the position. -/
theorem Predicate.spellsPredicate_toDigits {ordinal : UInt64} (h : 1 ≤ ordinal.toNat) :
    SpellsPredicate (Nat.toDigits 10 ordinal.toNat) (.position ordinal) := by
  have hv : Nat.ofDigitChars 10 (Nat.toDigits 10 ordinal.toNat) 0 = ordinal.toNat :=
    Nat.ofDigitChars_ten_toDigits
  have hd : ∀ d ∈ Nat.toDigits 10 ordinal.toNat, d.isDigit = true :=
    fun d hd => Nat.isDigit_of_mem_toDigits (by decide) (by decide) hd
  have key := SpellsPredicate.position Nat.toDigits_ne_nil hd (by rwa [hv])
    (by rw [hv]; exact ordinal.toNat_lt)
  rwa [hv, UInt64.ofNat_toNat] at key

/-- A well-formed predicate is written in brackets, and what stands between them spells it. -/
theorem Predicate.WellFormed.exists_spellsPredicate {predicate : Predicate}
    (h : predicate.WellFormed) :
    ∃ body, predicate.render.toList = '[' :: (body ++ [']']) ∧
      SpellsPredicate body predicate := by
  cases h with
  | @position ordinal h =>
      refine ⟨Nat.toDigits 10 ordinal.toNat, ?_, Predicate.spellsPredicate_toDigits h⟩
      simp [Predicate.render]
  | @attributeIs name value hn hv =>
      have key := SpellsPredicate.attributeIs (.inr rfl) hn (Predicate.spellsLiteral_quoted hv)
      refine ⟨_, ?_, key⟩
      simp [Predicate.render]

/-- A well-formed component is written as a piece of the grammar that spells it. -/
theorem Component.WellFormed.spellsLast {component : Component} (h : component.WellFormed) :
    SpellsLast component.render.toList component := by
  cases h with
  | @ofElement name predicate hn hp =>
      refine SpellsLast.ofElement ?_
      cases predicate with
      | none => simpa [Component.render] using SpellsElement.plain hn
      | some p =>
          obtain ⟨body, hbody, hspells⟩ := (hp p rfl).exists_spellsPredicate
          simpa [Component.render, hbody] using SpellsElement.qualified hn hspells
  | @ofAttribute name hn => simpa [Component.render] using SpellsLast.ofAttribute hn

end ManifestPatch
