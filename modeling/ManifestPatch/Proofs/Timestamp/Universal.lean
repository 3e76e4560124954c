import ManifestPatch.Patch.Metadata
import ManifestPatch.Proofs.Timestamp.Spelling
import Mathlib.Data.List.Basic

/-!
# Timestamps in Universal Time

A timestamp without an offset is in universal time, and so is one with the mark `Z`. The two are
read by different readers, one after the other. Whatever date, time and fraction is spelled before
the mark, the first reader fails without it, since it finds no offset, and the second reads the
same fields and arrives at the same instant. White space around a timestamp is taken away before
either of them sees it. So it does not matter to the metadata of a patch in which of these
spellings its times stand.

## Main results

* `Text.trim_padded`: white space at the ends is not seen behind the trimming.
* `Instant.withOffset?_append_zulu_iff`: which timestamps with the mark are read, and as what.
* `Instant.parse?_universal`: the spellings of a time in universal time are read alike.
-/

namespace ManifestPatch

namespace Text

/-- **White space at the ends** is not seen behind the trimming. -/
theorem trim_padded {before after : List Char} (hbefore : ∀ c ∈ before, isBlank c = true)
    (hafter : ∀ c ∈ after, isBlank c = true) (s : List Char) :
    trim (before ++ s ++ after) = trim s := by
  have hend (s : List Char) : trimEnd (s ++ after) = trimEnd s := by
    have hreverse : ∀ c ∈ after.reverse, isBlank c = true := fun c hc =>
      hafter c (List.mem_reverse.mp hc)
    rw [trimEnd, List.reverse_append, List.dropWhile_append_of_pos hreverse, trimEnd]
  rw [trim, trimStart, List.append_assoc, List.dropWhile_append_of_pos hbefore,
    List.dropWhile_append, trim, trimStart]
  split_ifs with hblank
  · rw [List.dropWhile_eq_nil_iff.mpr hafter, List.isEmpty_iff.mp hblank]
  · exact hend _

/-- A text is **padding** if it is white space throughout. -/
def IsPadding (s : String) : Prop :=
  ∀ c ∈ s.toList, isBlank c = true

instance (s : String) : Decidable (IsPadding s) :=
  decidable_of_iff (s.toList.all isBlank = true) List.all_eq_true

/-- A text without white space is its own trimming. -/
theorem trim_of_forall {s : List Char} (h : ∀ c ∈ s, isBlank c = false) : trim s = s :=
  trim_of_ends (fun c hc => h c (List.mem_of_mem_head? hc))
    fun c hc => h c (List.mem_of_mem_getLast? hc)

end Text

namespace Instant

open Text.Scanner

variable {s : List Char} {clock : Clock} {t : Instant} {separator c : Char}

/-! ### The mark of universal time -/

/-- **An offset with hours and minutes** ends with a digit. -/
theorem exists_digit_of_run_offset {value : Int} (h : offset.run (c :: s) = some (value, []))
    (hmark : ¬ (c = 'Z' ∨ c = 'z')) : ∃ d ∈ s.getLast?, d.isDigit = true := by
  simp only [offset, run_bind_eq_some_iff, run_get_eq_some_iff] at h
  obtain ⟨_, _, ⟨rfl, rfl⟩, h⟩ := h
  simp only [run_bind_eq_some_iff, run_set_eq_some_iff, if_neg hmark] at h
  obtain ⟨_, _, rfl, h⟩ := h
  by_cases hsign : c = '+' ∨ c = '-' ∨ c = '−'
  · simp only [if_pos hsign, run_bind_eq_some_iff, run_char_eq_some_iff, run_guard_eq_some_iff,
      run_pure_eq_some_iff] at h
    obtain ⟨hours, _, hhours, _, _, rfl, minutes, _, hminutes, _, _, ⟨_, rfl⟩, _, rfl⟩ := h
    obtain ⟨run, forHours, rfl⟩ := exists_spellsNumber hhours
    obtain ⟨run', forMinutes, hrun'⟩ := exists_spellsNumber hminutes
    have hne : run' ≠ [] := by
      rintro rfl
      exact absurd forMinutes.length_eq (by decide)
    refine ⟨run'.getLast hne, ?_, forMinutes.isDigit _ (List.getLast_mem hne)⟩
    simp [hrun', List.getLast?_append, List.getLast?_cons, List.getLast?_eq_getLast_of_ne_nil hne]
  · rw [if_neg hsign, run_failure] at h
    exact absurd h nofun

/-- The only offset that ends with the mark is the mark. -/
theorem offset_eq_mark {rest : List Char} {value : Int}
    (h : offset.run rest = some (value, [])) (hlast : ∀ c ∈ rest.getLast?, c = 'Z') :
    rest = ['Z'] ∧ value = 0 := by
  cases rest with
  | nil => exact absurd h nofun
  | cons c rest =>
      by_cases hmark : c = 'Z' ∨ c = 'z'
      · have hrun : offset.run (c :: rest) = some (0, rest) := by
          rcases hmark with rfl | rfl <;> rfl
        obtain ⟨rfl, rfl⟩ := run_unique hrun h
        exact ⟨congrArg (· :: []) (hlast c rfl), rfl⟩
      · obtain ⟨d, hd, hdigit⟩ := exists_digit_of_run_offset h hmark
        have hZ : d = 'Z' := hlast d (by simp_all [List.getLast?_cons])
        subst hZ
        exact absurd hdigit (by decide)

/-- What is read as a timestamp with an offset: date and time, and then the offset. -/
theorem withOffset?_eq_some_iff :
    withOffset? s = some t ↔
      ∃ clock rest value, (reading exactYear exactNumber isSeparator).run s = some (clock, rest) ∧
        offset.run rest = some (value, []) ∧ ofClock? clock value = some t := by
  change Option.bind _ _ = some t ↔ _
  rw [Option.bind_eq_some_iff]
  simp only [Prod.exists, whole?_eq_some_iff, run_bind_eq_some_iff, run_pure_eq_some_iff,
    Prod.mk.injEq]
  constructor
  · rintro ⟨clock, value, ⟨_, rest, hclock, _, _, hoffset, ⟨rfl, rfl⟩, rfl⟩, ht⟩
    exact ⟨clock, rest, value, hclock, hoffset, ht⟩
  · rintro ⟨clock, rest, value, hclock, hoffset, ht⟩
    exact ⟨clock, value, ⟨_, rest, hclock, _, _, hoffset, ⟨rfl, rfl⟩, rfl⟩, ht⟩

/-- **Which timestamps with the mark are read**: those that spell date and time in full width before
it, and the instant is the one of that reading in universal time. -/
theorem withOffset?_append_zulu_iff :
    withOffset? (s ++ ['Z']) = some t ↔
      ∃ separator clock, isSeparator separator = true ∧ SpellsClock separator s clock ∧
        ofClock? clock 0 = some t := by
  rw [withOffset?_eq_some_iff]
  constructor
  · rintro ⟨clock, rest, value, hclock, hoffset, ht⟩
    obtain ⟨separator, front, hseparator, hspells, hs⟩ := exists_spellsClock hclock
    have hlast : ∀ c ∈ rest.getLast?, c = 'Z' := by
      intro c hc
      have hends := congrArg List.getLast? hs
      rw [List.getLast?_concat, List.getLast?_append, Option.mem_def.mp hc, Option.some_or] at hends
      exact (Option.some.inj hends).symm
    obtain ⟨rfl, rfl⟩ := offset_eq_mark hoffset hlast
    obtain rfl : s = front := List.append_cancel_right hs
    exact ⟨separator, clock, hseparator, hspells, ht⟩
  · rintro ⟨separator, clock, hseparator, hspells, ht⟩
    have hmark : ∀ c ∈ ['Z'].head?, c.isDigit = false ∧ c ≠ '.' := by
      rintro _ ⟨⟩
      decide
    exact ⟨clock, ['Z'], 0, hspells.run_exact hseparator hmark, rfl, ht⟩

/-- Without an offset, the reader of timestamps with one fails. -/
theorem SpellsClock.withOffset?_eq_none (h : SpellsClock separator s clock)
    (hseparator : isSeparator separator = true) : withOffset? s = none := by
  rw [Option.eq_none_iff_forall_ne_some]
  intro t ht
  obtain ⟨clock', rest, value, hclock, hoffset, -⟩ := withOffset?_eq_some_iff.mp ht
  have hwhole : (reading exactYear exactNumber isSeparator).run s = some (clock, []) := by
    rw [← List.append_nil s]
    exact h.run_exact hseparator nofun
  obtain ⟨rfl, rfl⟩ := run_unique hwhole hclock
  exact absurd hoffset nofun

/-- Date and time without an offset are read in universal time. -/
theorem SpellsClock.withoutOffset?_eq (h : SpellsClock 'T' s clock) :
    withoutOffset? s = ofClock? clock 0 := by
  have hwhole : whole? (reading looseYear looseNumber (· == 'T')) s = some clock := by
    rw [whole?_eq_some_iff, ← List.append_nil s]
    exact h.run_loose nofun
  change Option.bind _ _ = _
  rw [hwhole]
  rfl

/-! ### Both spellings -/

/-- A timestamp with padding around it is the timestamp. -/
theorem parse?_padded {before after : String} (hbefore : Text.IsPadding before)
    (hafter : Text.IsPadding after) (s : String) : parse? (before ++ s ++ after) = parse? s := by
  rw [parse?, parse?, String.toList_append, String.toList_append,
    Text.trim_padded hbefore hafter s.toList]

/-- Date and time with a `T` between them have no white space. -/
theorem SpellsClock.isBlank_eq_false (h : SpellsClock 'T' s clock) (hc : c ∈ s) :
    Text.isBlank c = false := by
  rcases h.mem_cases hc with hdigit | rfl | hmark
  · exact isBlank_of_isDigit hdigit
  · decide
  · simp only [List.mem_cons, List.not_mem_nil, or_false] at hmark
    rcases hmark with rfl | rfl | rfl <;> decide

/-- Only the separator is a letter. -/
theorem SpellsClock.eq_of_T_mem (h : SpellsClock separator s clock) (hT : 'T' ∈ s) :
    separator = 'T' := by
  rcases h.mem_cases hT with hdigit | heq | hmark
  · exact absurd hdigit (by decide)
  · exact heq.symm
  · exact absurd hmark (by decide)

/-- **Date and time without an offset** denote what they read in universal time. -/
theorem SpellsClock.parse?_eq {s : String} (h : SpellsClock 'T' s.toList clock) :
    parse? s = ofClock? clock 0 := by
  rw [parse?, Text.trim_of_forall fun c => h.isBlank_eq_false, h.withOffset?_eq_none rfl,
    Option.none_or, h.withoutOffset?_eq]

/-- Date and time with the mark have no white space either. -/
theorem SpellsClock.trim_zulu (h : SpellsClock 'T' s clock) :
    Text.trim (s ++ ['Z']) = s ++ ['Z'] := by
  refine Text.trim_of_forall fun c hc => ?_
  rcases List.mem_append.mp hc with hc | hc
  · exact h.isBlank_eq_false hc
  · rw [List.mem_singleton.mp hc]
    decide

/-- **With the mark and without it**, a time that is read with the mark is the same instant. -/
theorem parse?_zulu {s : String} (hT : 'T' ∈ s.toList)
    (h : withOffset? (s ++ "Z").toList = some t) :
    parse? s = some t ∧ parse? (s ++ "Z") = some t := by
  have htext : (s ++ "Z").toList = s.toList ++ ['Z'] := by
    rw [String.toList_append]
    rfl
  rw [htext] at h
  obtain ⟨separator, clock, -, hspells, ht⟩ := withOffset?_append_zulu_iff.mp h
  obtain rfl := hspells.eq_of_T_mem hT
  refine ⟨hspells.parse?_eq.trans ht, ?_⟩
  rw [parse?, htext, hspells.trim_zulu, h, Option.some_or]

end Instant

namespace Metadata

variable {patch : Element} {field text value : String} {t : Instant}

/-! ### The times of a patch -/

/-- A warning about a time says that the attribute is there and cannot be read. -/
theorem parse?_of_mem_events (h : .unreadableTime field value ∈ events patch) :
    patch.attribute? field = some value ∧ Instant.parse? value = none := by
  have hone : ∀ field', .unreadableTime field value ∈ instantEvents patch field' →
      patch.attribute? field = some value ∧ Instant.parse? value = none := by
    intro field' h
    unfold instantEvents at h
    split at h
    · exact absurd h List.not_mem_nil
    · rename_i text htext
      split at h
      · exact absurd h List.not_mem_nil
      · rename_i hnone
        obtain ⟨rfl, rfl⟩ := Event.unreadableTime.inj (List.mem_singleton.mp h)
        exact ⟨htext, hnone⟩
  rcases List.mem_append.mp h with h | h
  · exact hone _ h
  · exact hone _ h

/-- A time that can be read is the instant, and there is no warning about it. -/
theorem instant?_of_parse? (h : patch.attribute? field = some text)
    (ht : Instant.parse? text = some t) :
    instant? patch field = some t ∧ ∀ value, .unreadableTime field value ∉ events patch := by
  refine ⟨by rw [instant?, h, Option.bind_some, ht], fun value hmem => ?_⟩
  obtain ⟨hvalue, hnone⟩ := parse?_of_mem_events hmem
  obtain rfl : text = value := Option.some.inj (h.symm.trans hvalue)
  exact absurd (ht.symm.trans hnone) nofun

end Metadata

namespace Instant

/-- **The spellings of a time in universal time** are read alike. A timestamp that can be read with
the mark, and has a `T` between date and time, denotes the same instant without the mark; white
space around a timestamp does not matter, whether it can be read or not. So the times of a patch are
the same in all these spellings, and there is no warning about them. -/
theorem parse?_universal :
    (∀ (s : String) (t : Instant), 'T' ∈ s.toList → withOffset? (s ++ "Z").toList = some t →
      (parse? s = some t ∧ parse? (s ++ "Z") = some t) ∧
      ∀ (patch : Element) (before after spelling : String), Text.IsPadding before →
        Text.IsPadding after → spelling = s ∨ spelling = s ++ "Z" →
        (patch.attribute? Metadata.publishTimeAttribute = some (before ++ spelling ++ after) →
          (Metadata.ofPatch patch).publishTime = some t ∧
            ∀ value, .unreadableTime Metadata.publishTimeAttribute value ∉
              Metadata.events patch) ∧
        (patch.attribute? Metadata.originalPublishTimeAttribute =
            some (before ++ spelling ++ after) →
          (Metadata.ofPatch patch).originalPublishTime = some t ∧
            ∀ value, .unreadableTime Metadata.originalPublishTimeAttribute value ∉
              Metadata.events patch)) ∧
    ∀ before after s : String, Text.IsPadding before → Text.IsPadding after →
      parse? (before ++ s ++ after) = parse? s := by
  refine ⟨fun s t hT h => ⟨parse?_zulu hT h, ?_⟩, fun before after s => fun hbefore hafter =>
    parse?_padded hbefore hafter s⟩
  intro patch before after spelling hbefore hafter hspelling
  have hread : parse? (before ++ spelling ++ after) = some t := by
    rw [parse?_padded hbefore hafter]
    rcases hspelling with rfl | rfl
    · exact (parse?_zulu hT h).1
    · exact (parse?_zulu hT h).2
  exact ⟨fun hfield => Metadata.instant?_of_parse? hfield hread,
    fun hfield => Metadata.instant?_of_parse? hfield hread⟩

/-- In a leap second with ten digits after the point, all but the last of which count. -/
theorem parse?_universal_leap_second :
    parse? "2016-12-31T23:59:60.1234567891" =
        some { seconds := 1483228799, nanoseconds := 1123456789 } ∧
      parse? ("2016-12-31T23:59:60.1234567891" ++ "Z") =
        some { seconds := 1483228799, nanoseconds := 1123456789 } ∧
      parse? ("\u2003" ++ "2016-12-31T23:59:60.1234567891" ++ "\n") =
        parse? "2016-12-31T23:59:60.1234567891" ∧
      (Metadata.ofPatch { name := "Patch", attributes :=
          [("publishTime", " 2016-12-31T23:59:60.1234567891Z\n")] }).publishTime =
        some { seconds := 1483228799, nanoseconds := 1123456789 } := by
  have hspace : Text.IsPadding " " := by decide
  have hwide : Text.IsPadding "\u2003" := by decide
  have hnewline : Text.IsPadding "\n" := by decide
  obtain ⟨hread, htimes⟩ := parse?_universal.1 "2016-12-31T23:59:60.1234567891"
    { seconds := 1483228799, nanoseconds := 1123456789 } (by decide) rfl
  have htime := htimes { name := "Patch", attributes :=
    [("publishTime", " 2016-12-31T23:59:60.1234567891Z\n")] } " " "\n" _ hspace hnewline (.inr rfl)
  exact ⟨hread.1, hread.2, parse?_universal.2 _ _ _ hwide hnewline, (htime.1 rfl).1⟩

end Instant

end ManifestPatch
