/-!
# Beginnings and Ends of Texts

What a text or list begins and ends with, and what is left of it when that is taken off.

## Main results

* `dropStart?_eq_some_iff`, `afterStart?_eq_some_iff`, `beforeEnd?_eq_some_iff`: taking off a
  beginning or an end is the inverse of appending.
* `startsWith_iff`, `endsWith_iff`: the tests say that such a rest exists.
-/

namespace ManifestPatch.Text

/-- What follows `start` in a list that begins with it. -/
def dropStart? {α : Type} [DecidableEq α] : List α → List α → Option (List α)
  | [], s => some s
  | _ :: _, [] => none
  | a :: start, b :: s => if a = b then dropStart? start s else none

/-- What follows `start` in a text that begins with it. -/
def afterStart? (start s : String) : Option String :=
  (dropStart? start.toList s.toList).map String.ofList

/-- What precedes `ending` in a text that ends with it. -/
def beforeEnd? (ending s : String) : Option String :=
  (dropStart? ending.toList.reverse s.toList.reverse).map fun rest => .ofList rest.reverse

/-- Whether a text begins with `start`. -/
def startsWith (start s : String) : Bool :=
  (afterStart? start s).isSome

/-- Whether a text ends with `ending`. -/
def endsWith (ending s : String) : Bool :=
  (beforeEnd? ending s).isSome

/-- Taking a beginning off a list leaves what it is appended to. -/
theorem dropStart?_eq_some_iff {α : Type} [DecidableEq α] {start s rest : List α} :
    dropStart? start s = some rest ↔ s = start ++ rest := by
  fun_induction dropStart? start s with
  | case1 s => simp
  | case2 => simp
  | case3 a start s ih => simp [ih]
  | case4 a start b s h => simp [Ne.symm h]

/-- The rest of a text after its beginning is what the beginning is appended to. -/
theorem afterStart?_eq_some_iff {start s rest : String} :
    afterStart? start s = some rest ↔ s = start ++ rest := by
  simp only [afterStart?, Option.map_eq_some_iff, dropStart?_eq_some_iff]
  constructor
  · rintro ⟨r, h, rfl⟩
    exact String.toList_injective (by simp [h])
  · rintro rfl
    exact ⟨rest.toList, by simp, by simp⟩

/-- The rest of a text before its end is what the end is appended to. -/
theorem beforeEnd?_eq_some_iff {ending s rest : String} :
    beforeEnd? ending s = some rest ↔ s = rest ++ ending := by
  simp only [beforeEnd?, Option.map_eq_some_iff, dropStart?_eq_some_iff]
  constructor
  · rintro ⟨r, h, rfl⟩
    have h' := congrArg List.reverse h
    exact String.toList_injective (by simpa using h')
  · rintro rfl
    exact ⟨rest.toList.reverse, by simp, by simp⟩

/-- A text begins with `start` when something appended to `start` gives it. -/
theorem startsWith_iff {start s : String} :
    startsWith start s = true ↔ ∃ rest, s = start ++ rest := by
  simp [startsWith, Option.isSome_iff_exists, afterStart?_eq_some_iff]

/-- A text ends with `ending` when `ending` appended to something gives it. -/
theorem endsWith_iff {ending s : String} :
    endsWith ending s = true ↔ ∃ rest, s = rest ++ ending := by
  simp [endsWith, Option.isSome_iff_exists, beforeEnd?_eq_some_iff]

end ManifestPatch.Text
