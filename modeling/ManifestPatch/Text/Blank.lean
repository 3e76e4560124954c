/-!
# White Space

The white space characters (the Unicode property `White_Space`) and the trimming of a text at both
ends.

## Main results

* `trim_of_ends`: a text that neither begins nor ends with white space is its own trimming.
-/

namespace ManifestPatch.Text

/-- Whether a character is **white space**. -/
def isBlank (c : Char) : Bool :=
  let n := c.toNat
  (0x09 ≤ n && n ≤ 0x0D) || n == 0x20 || n == 0x85 || n == 0xA0 || n == 0x1680
    || (0x2000 ≤ n && n ≤ 0x200A) || n == 0x2028 || n == 0x2029 || n == 0x202F || n == 0x205F
    || n == 0x3000

/-- The text without the white space that it begins with. -/
def trimStart (s : List Char) : List Char :=
  s.dropWhile isBlank

/-- The text without the white space that it ends with. -/
def trimEnd (s : List Char) : List Char :=
  (s.reverse.dropWhile isBlank).reverse

/-- The text without white space at either end. -/
def trim (s : List Char) : List Char :=
  trimEnd (trimStart s)

/-- Nothing is trimmed from a text that has no white space at its ends. -/
theorem trim_of_ends {s : List Char} (first : ∀ c ∈ s.head?, isBlank c = false)
    (last : ∀ c ∈ s.getLast?, isBlank c = false) : trim s = s := by
  have hStart : trimStart s = s := by
    cases s with
    | nil => rfl
    | cons c r => simp [trimStart, first c (by simp)]
  rw [trim, hStart, trimEnd]
  cases h : s.reverse with
  | nil => simp_all
  | cons c r =>
    have hc : isBlank c = false := last c (by simp [← List.head?_reverse, h])
    rw [List.dropWhile_cons_of_neg (by simp [hc]), ← h, List.reverse_reverse]

end ManifestPatch.Text
