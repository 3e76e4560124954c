/-!
# Scanners

A **scanner** takes a value off the front of a text, or fails. Scanners are run one after the other
in `do` blocks.

## Main results

* `Scanner.whole?_eq_some_iff`: a value of a whole text leaves nothing over.
* `Scanner.run_bind_eq_some_iff`: scanners in a row each go on where the one before has stopped.
-/

namespace ManifestPatch.Text

/-- A **scanner**: a value and the rest of the text, or a failure. -/
abbrev Scanner := StateT (List Char) Option

namespace Scanner

/-- The next character, which stays in the text. -/
def peek? : Scanner (Option Char) := do
  return (← get).head?

/-- One character that satisfies a test. -/
def charThat (test : Char → Bool) : Scanner Char := do
  match ← get with
  | c :: rest => if test c then set rest; return c else failure
  | [] => failure

/-- One given character. -/
def char (c : Char) : Scanner Unit := do
  let _ ← charThat (· == c)

/-- One given character, if it is the next; whether it was. -/
def optionalChar (c : Char) : Scanner Bool := do
  match ← get with
  | c' :: rest => if c' = c then set rest; return true else return false
  | [] => return false

/-- The longest run of characters that satisfy a test. -/
def takeWhile (test : Char → Bool) : Scanner (List Char) := do
  let s ← get
  set (s.dropWhile test)
  return s.takeWhile test

/-- A value read by a function that returns the rest of the text beside it. -/
def ofFunction {α : Type} (read : List Char → Option (α × List Char)) : Scanner α :=
  read

/-- The value that takes up a whole text. -/
def whole? {α : Type} (scanner : Scanner α) (s : List Char) : Option α := do
  match ← scanner.run s with
  | (value, []) => some value
  | (_, _ :: _) => none

/-- A whole text has a value exactly if the scanner takes that value off it and leaves nothing. -/
theorem whole?_eq_some_iff {α : Type} {scanner : Scanner α} {s : List Char} {value : α} :
    whole? scanner s = some value ↔ scanner.run s = some (value, []) := by
  unfold whole?
  cases h : scanner.run s with
  | none => simp
  | some p =>
    obtain ⟨v, rest⟩ := p
    cases rest <;> simp

/-! ### What scanners take off -/

section Run

variable {α β : Type} {s rest : List Char} {value : α}

/-- A scanner takes off one thing. -/
theorem run_unique {scanner : Scanner α} {value' : α} {rest' : List Char}
    (h : scanner.run s = some (value, rest)) (h' : scanner.run s = some (value', rest')) :
    value = value' ∧ rest = rest' :=
  Prod.mk.inj (Option.some.inj (h.symm.trans h'))

/-- Of two scanners in a row, the second goes on where the first has stopped. -/
theorem run_bind_eq_some_iff {scanner : Scanner β} {next : β → Scanner α} :
    (scanner >>= next).run s = some (value, rest) ↔
      ∃ first mid, scanner.run s = some (first, mid) ∧
        (next first).run mid = some (value, rest) := by
  rw [StateT.run_bind]
  change (scanner.run s).bind _ = _ ↔ _
  simp only [Option.bind_eq_some_iff, Prod.exists]

theorem run_pure_eq_some_iff {value' : α} :
    (pure value' : Scanner α).run s = some (value, rest) ↔ value = value' ∧ rest = s := by
  simp [StateT.run_pure, eq_comm]

theorem run_map_eq_some_iff {f : β → α} {scanner : Scanner β} :
    (f <$> scanner).run s = some (value, rest) ↔
      ∃ first, scanner.run s = some (first, rest) ∧ value = f first := by
  rw [map_eq_pure_bind, run_bind_eq_some_iff]
  simp only [run_pure_eq_some_iff]
  constructor
  · rintro ⟨first, mid, h, rfl, rfl⟩
    exact ⟨first, h, rfl⟩
  · rintro ⟨first, h, rfl⟩
    exact ⟨first, rest, h, rfl, rfl⟩

theorem run_get_eq_some_iff {s' : List Char} :
    (get : Scanner (List Char)).run s = some (s', rest) ↔ s' = s ∧ rest = s := by
  simp [StateT.run_get, eq_comm]

theorem run_set_eq_some_iff {s' : List Char} {u : PUnit} :
    (set s' : Scanner PUnit).run s = some (u, rest) ↔ rest = s' := by
  simp [StateT.run_set, eq_comm]

@[simp] theorem run_failure : (failure : Scanner α).run s = none := rfl

theorem run_guard_eq_some_iff {p : Prop} [Decidable p] {u : Unit} :
    (guard p : Scanner Unit).run s = some (u, rest) ↔ p ∧ rest = s := by
  change StateT.run (if p then pure () else failure) s = some (u, rest) ↔ _
  by_cases h : p
  · rw [if_pos h, run_pure_eq_some_iff]
    exact and_congr_left' (iff_of_true rfl h)
  · rw [if_neg h, run_failure]
    exact iff_of_false nofun fun hp => h hp.1

/-- One character that satisfies the test is taken off. -/
theorem run_charThat_eq_some_iff {test : Char → Bool} {c : Char} :
    (charThat test).run s = some (c, rest) ↔ s = c :: rest ∧ test c = true := by
  cases s with
  | nil => exact ⟨nofun, fun h => absurd h.1 nofun⟩
  | cons a s =>
    have hrun : (charThat test).run (a :: s) = if test a = true then some (a, s) else none := by
      change StateT.run (if test a = true then (do set s; return a) else failure) (a :: s) = _
      split <;> rfl
    rw [hrun, Option.ite_none_right_eq_some]
    grind

/-- The given character is taken off. -/
theorem run_char_eq_some_iff {c : Char} {u : Unit} :
    (char c).run s = some (u, rest) ↔ s = c :: rest := by
  simp [char, run_charThat_eq_some_iff]

end Run

end Scanner

end ManifestPatch.Text
