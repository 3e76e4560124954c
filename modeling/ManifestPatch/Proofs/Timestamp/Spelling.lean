import ManifestPatch.Timestamp.Parser
import Mathlib.Data.List.TakeWhile
import Mathlib.Data.Option.Basic

/-!
# How Date and Time Are Spelled

Date and time of day are spelled in fields of a fixed width with marks between them, and a fraction
of any length at the end. There are two readers. Where an offset follows, every field must have its
full width; where none follows, fields may be shorter and have blanks before them. What is spelled
in full width is read alike by both, since they differ in the scanners of their fields only, and
the loose ones stop at the full width too.

## Main definitions

* `Instant.SpellsNumber`, `Instant.SpellsFraction`: how the fields are spelled.
* `Instant.SpellsClock`: how date and time of day are spelled in full width.

## Main results

* `Instant.spellsClock_of_run`: what the exact reader takes off is spelled in full width.
* `Instant.SpellsClock.run_exact`, `Instant.SpellsClock.run_loose`: what is spelled in full width is
  taken off by both readers.
-/

namespace ManifestPatch.Instant

open Text (Scanner isBlank)
open Text.Scanner

variable {s run rest : List Char} {n width : Nat} {clock : Clock} {separator c : Char}

/-! ### Fields -/

/-- Digits **spell a number** at a width. -/
structure SpellsNumber (width : Nat) (run : List Char) (n : Nat) : Prop where
  length_eq : run.length = width
  isDigit : ∀ c ∈ run, c.isDigit = true
  value_eq : n = Nat.ofDigitChars 10 run 0

/-- The nanoseconds of the digits after the point: nine of them count, and missing ones are zero. -/
def fractionValue (run : List Char) : Nat :=
  Nat.ofDigitChars 10 (run.take 9) 0 * Nat.pow 10 (9 - (run.take 9).length)

/-- A text **spells a fraction** of a second: it is empty, or a point and any number of digits. -/
inductive SpellsFraction : List Char → Nat → Prop
  | whole : SpellsFraction [] 0
  | point {run : List Char} (nonempty : run ≠ []) (isDigit : ∀ c ∈ run, c.isDigit = true) :
      SpellsFraction ('.' :: run) (fractionValue run)

/-- A text **spells date and time of day** in full width, with a separator between the two. -/
inductive SpellsClock (separator : Char) : List Char → Clock → Prop
  | fields {y mo d h mi s f : List Char} {year month day hour minute second nanosecond : Nat}
      (forYear : SpellsNumber 4 y year) (forMonth : SpellsNumber 2 mo month)
      (forDay : SpellsNumber 2 d day) (forHour : SpellsNumber 2 h hour)
      (forMinute : SpellsNumber 2 mi minute) (forSecond : SpellsNumber 2 s second)
      (forFraction : SpellsFraction f nanosecond) :
      SpellsClock separator
        (y ++ '-' :: (mo ++ '-' :: (d ++ separator :: (h ++ ':' :: (mi ++ ':' :: (s ++ f))))))
        { date := { year := Int.ofNat year, month, day }, hour, minute, second, nanosecond }

/-! ### Characters -/

/-- Digits are no white space. -/
theorem isBlank_of_isDigit (h : c.isDigit = true) : isBlank c = false := by
  simp only [Char.isDigit, Bool.and_eq_true, decide_eq_true_eq, ge_iff_le,
    UInt32.le_iff_toNat_le] at h
  have hlow : 48 ≤ c.toNat := h.1
  have hhigh : c.toNat ≤ 57 := h.2
  simp only [isBlank, Bool.or_eq_false_iff, Bool.and_eq_false_iff, decide_eq_false_iff_not,
    beq_eq_false_iff_ne]
  omega

/-- The characters of a fraction. -/
theorem SpellsFraction.mem_cases {f : List Char} (h : SpellsFraction f n) (hc : c ∈ f) :
    c.isDigit = true ∨ c = '.' := by
  cases h with
  | whole => simp at hc
  | point _ isDigit => exact (List.mem_cons.mp hc).symm.imp_left (isDigit c)

/-- **The characters** of date and time are digits and marks. -/
theorem SpellsClock.mem_cases (h : SpellsClock separator s clock) (hc : c ∈ s) :
    c.isDigit = true ∨ c = separator ∨ c ∈ ['-', ':', '.'] := by
  cases h with
  | fields forYear forMonth forDay forHour forMinute forSecond forFraction =>
      simp only [List.mem_append, List.mem_cons] at hc
      rcases hc with hc | rfl | hc | rfl | hc | rfl | hc | rfl | hc | rfl | hc | hc
      · exact .inl (forYear.isDigit c hc)
      · simp
      · exact .inl (forMonth.isDigit c hc)
      · simp
      · exact .inl (forDay.isDigit c hc)
      · simp
      · exact .inl (forHour.isDigit c hc)
      · simp
      · exact .inl (forMinute.isDigit c hc)
      · simp
      · exact .inl (forSecond.isDigit c hc)
      · rcases forFraction.mem_cases hc with hdigit | rfl
        · exact .inl hdigit
        · simp

/-! ### Scanners of fields -/

/-- What a scanner of digits takes off: the digits at the front, up to the width. -/
theorem run_digits_eq_some_iff {exact : Bool} :
    (digits exact width).run s = some (n, rest) ↔
      ∃ run, run = (s.take width).takeWhile Char.isDigit ∧ run ≠ [] ∧
        (exact = true → run.length = width) ∧ n = Nat.ofDigitChars 10 run 0 ∧
        rest = s.drop run.length := by
  simp only [digits, run_bind_eq_some_iff, run_get_eq_some_iff, run_guard_eq_some_iff,
    run_set_eq_some_iff, run_pure_eq_some_iff]
  constructor
  · rintro ⟨_, _, ⟨rfl, rfl⟩, _, _, ⟨hguard, rfl⟩, _, _, rfl, rfl, rfl⟩
    refine ⟨_, rfl, ?_, ?_, rfl, rfl⟩
    · rintro hnil
      simp [hnil] at hguard
    · rintro rfl
      simp_all
  · rintro ⟨run, rfl, hne, hlength, rfl, rfl⟩
    refine ⟨s, s, ⟨rfl, rfl⟩, (), s, ⟨?_, rfl⟩, (), _, rfl, rfl, rfl⟩
    cases exact <;> simp_all

/-- **A number in full width** is taken off by an exact scanner and by a loose one. -/
theorem SpellsNumber.run_digits (h : SpellsNumber width run n) (hwidth : 0 < width) (exact : Bool)
    (rest : List Char) : (digits exact width).run (run ++ rest) = some (n, rest) := by
  have htake : ((run ++ rest).take width).takeWhile Char.isDigit = run := by
    rw [← h.length_eq, List.take_left, List.takeWhile_eq_self_iff]
    exact h.isDigit
  refine run_digits_eq_some_iff.mpr ⟨run, htake.symm, ?_, fun _ => h.length_eq, h.value_eq, ?_⟩
  · rintro rfl
    exact absurd h.length_eq (Nat.ne_of_lt hwidth)
  · rw [List.drop_left]

/-- What an exact scanner takes off is a number in full width. -/
theorem exists_spellsNumber (h : (digits true width).run s = some (n, rest)) :
    ∃ run, SpellsNumber width run n ∧ s = run ++ rest := by
  obtain ⟨run, hrun, -, hlength, hvalue, hrest⟩ := run_digits_eq_some_iff.mp h
  have hall : ∀ c ∈ run, c.isDigit = true := by
    rw [hrun]
    exact fun c hc => List.mem_takeWhile_imp hc
  have htake : run = s.take width := by
    refine List.IsPrefix.eq_of_length_le ?_ ?_
    · rw [hrun]
      exact List.takeWhile_prefix _
    · rw [hlength rfl]
      exact List.length_take_le _ _
  refine ⟨run, ⟨hlength rfl, hall, hvalue⟩, ?_⟩
  rw [hrest, hlength rfl, htake, List.take_append_drop]

/-- What is taken off after a point: all digits. -/
theorem run_fraction_point_iff :
    fraction.run ('.' :: s) = some (n, rest) ↔
      ∃ run, run = s.takeWhile Char.isDigit ∧ run ≠ [] ∧ n = fractionValue run ∧
        rest = s.drop run.length := by
  simp only [fraction, run_bind_eq_some_iff, run_get_eq_some_iff]
  constructor
  · rintro ⟨_, _, ⟨rfl, rfl⟩, h⟩
    simp only [run_bind_eq_some_iff, run_guard_eq_some_iff, run_set_eq_some_iff,
      run_pure_eq_some_iff] at h
    obtain ⟨_, _, ⟨hguard, rfl⟩, _, _, rfl, rfl, rfl⟩ := h
    exact ⟨_, rfl, by simpa using hguard, rfl, rfl⟩
  · rintro ⟨run, rfl, hne, rfl, rfl⟩
    refine ⟨_, _, ⟨rfl, rfl⟩, ?_⟩
    simp only [run_bind_eq_some_iff, run_guard_eq_some_iff, run_set_eq_some_iff,
      run_pure_eq_some_iff]
    exact ⟨(), _, ⟨by simpa using hne, rfl⟩, (), _, rfl, rfl, rfl⟩

/-- Without a point nothing is taken off. -/
theorem run_fraction_of_head? (h : s.head? ≠ some '.') : fraction.run s = some (0, s) := by
  rw [fraction, run_bind_eq_some_iff]
  refine ⟨s, s, rfl, ?_⟩
  split
  · exact absurd rfl h
  · rfl

/-- A fraction is taken off, unless what follows would carry it on. -/
theorem SpellsFraction.run_fraction {f : List Char} (h : SpellsFraction f n)
    (hrest : ∀ c ∈ rest.head?, c.isDigit = false ∧ c ≠ '.') :
    fraction.run (f ++ rest) = some (n, rest) := by
  cases h with
  | whole => exact run_fraction_of_head? fun hpoint => (hrest '.' hpoint).2 rfl
  | @point run nonempty isDigit =>
      have hstop : rest.takeWhile Char.isDigit = [] := by
        cases rest with
        | nil => rfl
        | cons c rest => rw [List.takeWhile_cons_of_neg (by simp [(hrest c rfl).1])]
      have htake : (run ++ rest).takeWhile Char.isDigit = run := by
        rw [List.takeWhile_append_of_pos isDigit, hstop, List.append_nil]
      exact run_fraction_point_iff.mpr
        ⟨run, htake.symm, nonempty, rfl, List.drop_left.symm⟩

/-- What the scanner of fractions takes off is a fraction. -/
theorem exists_spellsFraction (h : fraction.run s = some (n, rest)) :
    ∃ f, SpellsFraction f n ∧ s = f ++ rest := by
  by_cases hpoint : s.head? = some '.'
  · obtain ⟨s, rfl⟩ := List.head?_eq_some_iff.mp hpoint
    obtain ⟨run, hrun, hne, rfl, rfl⟩ := run_fraction_point_iff.mp h
    refine ⟨'.' :: run, .point hne fun c hc => ?_, ?_⟩
    · rw [hrun] at hc
      exact List.mem_takeWhile_imp hc
    · have hcut : run ++ s.drop run.length = s :=
        List.prefix_iff_eq_append.mp (hrun ▸ List.takeWhile_prefix _)
      rw [List.cons_append, hcut]
  · obtain ⟨rfl, rfl⟩ := run_unique (run_fraction_of_head? hpoint) h
    exact ⟨[], .whole, rfl⟩

/-! ### Exact and loose fields -/

/-- A scanner **takes off** numbers of a width, as the value that they are sent to. -/
def TakesOff {α : Type} (scanner : Scanner α) (width : Nat) (value : Nat → α) : Prop :=
  ∀ run n rest, SpellsNumber width run n → scanner.run (run ++ rest) = some (value n, rest)

/-- A number in full width begins with a digit. -/
theorem SpellsNumber.exists_cons (h : SpellsNumber width run n) (hwidth : 0 < width) :
    ∃ c digits, run = c :: digits ∧ c.isDigit = true := by
  cases run with
  | nil => exact absurd h.length_eq (Nat.ne_of_lt hwidth)
  | cons c digits => exact ⟨c, digits, rfl, h.isDigit c List.mem_cons_self⟩

/-- In front of a number in full width there are no blanks to skip. -/
theorem SpellsNumber.run_skipBlanks (h : SpellsNumber width run n) (hwidth : 0 < width)
    (rest : List Char) : skipBlanks.run (run ++ rest) = some ((), run ++ rest) := by
  obtain ⟨c, digits, rfl, hdigit⟩ := h.exists_cons hwidth
  have hstart : Text.trimStart (c :: digits ++ rest) = c :: digits ++ rest := by
    rw [Text.trimStart, List.cons_append,
      List.dropWhile_cons_of_neg (by simp [isBlank_of_isDigit hdigit])]
  change some ((), Text.trimStart _) = _
  rw [hstart]

theorem takesOff_exactNumber : TakesOff exactNumber 2 id :=
  fun _ _ rest h => h.run_digits Nat.two_pos true rest

theorem takesOff_exactYear : TakesOff exactYear 4 Int.ofNat :=
  fun _ n rest h => run_map_eq_some_iff.mpr ⟨n, h.run_digits (by decide) true rest, rfl⟩

theorem takesOff_looseNumber : TakesOff looseNumber 2 id := fun _ _ rest h =>
  run_bind_eq_some_iff.mpr
    ⟨(), _, h.run_skipBlanks Nat.two_pos rest, h.run_digits Nat.two_pos false rest⟩

theorem takesOff_looseYear : TakesOff looseYear 4 Int.ofNat := by
  intro run n rest h
  rw [looseYear, run_bind_eq_some_iff]
  refine ⟨(), _, h.run_skipBlanks (by decide) rest, ?_⟩
  rw [run_bind_eq_some_iff]
  refine ⟨_, _, rfl, ?_⟩
  obtain ⟨c, digits, rfl, hdigit⟩ := h.exists_cons (by decide)
  -- a digit is no sign, so that the reader goes on without one
  have hsign (sign : Char) (hnone : sign.isDigit = false) : c ≠ sign := by
    rintro rfl
    exact absurd (hdigit.symm.trans hnone) nofun
  split
  · rename_i heq
    exact absurd (List.cons.inj heq).1 (hsign _ rfl)
  · rename_i heq
    exact absurd (List.cons.inj heq).1 (hsign _ rfl)
  · exact run_bind_eq_some_iff.mpr ⟨n, rest, h.run_digits (by decide) false rest, rfl⟩

/-! ### Date and time -/

/-- **What is spelled in full width** is taken off by every reader whose fields take off numbers of
the full width. -/
theorem SpellsClock.run_reading {year : Scanner Int} {twoDigits : Scanner Nat}
    {separates : Char → Bool} (h : SpellsClock separator s clock)
    (hyear : TakesOff year 4 Int.ofNat) (htwo : TakesOff twoDigits 2 id)
    (hseparates : separates separator = true)
    (hrest : ∀ c ∈ rest.head?, c.isDigit = false ∧ c ≠ '.') :
    (reading year twoDigits separates).run (s ++ rest) = some (clock, rest) := by
  cases h with
  | fields forYear forMonth forDay forHour forMinute forSecond forFraction =>
      simp only [reading, run_bind_eq_some_iff, run_char_eq_some_iff, run_charThat_eq_some_iff,
        run_pure_eq_some_iff, List.append_assoc, List.cons_append]
      exact ⟨_, _, hyear _ _ _ forYear, (), _, rfl, _, _, htwo _ _ _ forMonth, (), _, rfl,
        _, _, htwo _ _ _ forDay, _, _, ⟨rfl, hseparates⟩, _, _, htwo _ _ _ forHour, (), _, rfl,
        _, _, htwo _ _ _ forMinute, (), _, rfl, _, _, htwo _ _ _ forSecond,
        _, _, forFraction.run_fraction hrest, rfl, rfl⟩

/-- The exact reader takes off what is spelled in full width. -/
theorem SpellsClock.run_exact (h : SpellsClock separator s clock)
    (hseparator : isSeparator separator = true)
    (hrest : ∀ c ∈ rest.head?, c.isDigit = false ∧ c ≠ '.') :
    (reading exactYear exactNumber isSeparator).run (s ++ rest) = some (clock, rest) :=
  h.run_reading takesOff_exactYear takesOff_exactNumber hseparator hrest

/-- The loose reader takes off what is spelled in full width, with a `T` between date and time. -/
theorem SpellsClock.run_loose (h : SpellsClock 'T' s clock)
    (hrest : ∀ c ∈ rest.head?, c.isDigit = false ∧ c ≠ '.') :
    (reading looseYear looseNumber (· == 'T')).run (s ++ rest) = some (clock, rest) :=
  h.run_reading takesOff_looseYear takesOff_looseNumber rfl hrest

/-- **What the exact reader takes off** is spelled in full width. -/
theorem exists_spellsClock
    (h : (reading exactYear exactNumber isSeparator).run s = some (clock, rest)) :
    ∃ separator front, isSeparator separator = true ∧ SpellsClock separator front clock ∧
      s = front ++ rest := by
  simp only [reading, exactYear, exactNumber, run_bind_eq_some_iff, run_char_eq_some_iff,
    run_charThat_eq_some_iff, run_map_eq_some_iff, run_pure_eq_some_iff] at h
  obtain ⟨_, _, ⟨year, hyear, rfl⟩, _, _, rfl, month, _, hmonth, _, _, rfl, day, _, hday,
    separator, _, ⟨rfl, hseparator⟩, hour, _, hhour, _, _, rfl, minute, _, hminute, _, _, rfl,
    second, _, hsecond, nanosecond, _, hfraction, rfl, rfl⟩ := h
  obtain ⟨y, forYear, rfl⟩ := exists_spellsNumber hyear
  obtain ⟨mo, forMonth, rfl⟩ := exists_spellsNumber hmonth
  obtain ⟨d, forDay, rfl⟩ := exists_spellsNumber hday
  obtain ⟨h, forHour, rfl⟩ := exists_spellsNumber hhour
  obtain ⟨mi, forMinute, rfl⟩ := exists_spellsNumber hminute
  obtain ⟨s, forSecond, rfl⟩ := exists_spellsNumber hsecond
  obtain ⟨f, forFraction, rfl⟩ := exists_spellsFraction hfraction
  exact ⟨separator, _, hseparator,
    .fields forYear forMonth forDay forHour forMinute forSecond forFraction, by simp⟩

end ManifestPatch.Instant
